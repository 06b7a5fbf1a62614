import Mathlib.Tactic.SplitIfs
import SchemaRouting.Config.Loader
import SchemaRouting.Proofs.Keyed
import SchemaRouting.Proofs.Success

/-!
# Variables over a configuration

Eight settings have a variable, whose name is a common start, two low lines and the name of the
setting (`Setting.name`). A variable is applied by itself (`applyVariable_eq_ok_iff`), and variables
of different names do not get in each other's way (`overlay_overlay`). So the environment as a whole
puts its readable variables over the configuration, in whatever order they are applied
(`applyEnvironment_eq_ok_iff`, `overlay`).
-/

set_option autoImplicit false
set_option relaxedAutoImplicit false

namespace SchemaRouting.Config

open Loader

/-- The settings that have a variable. -/
inductive Setting
  | serviceName | schemas | schemaFile | enabled | level | format | includeLocation | threadIds
  deriving DecidableEq

namespace Setting

/-- The name of a setting in the name of its variable. -/
def name : Setting → String
  | serviceName => "SERVER__SERVICE_NAME"
  | schemas => "SERVER__SCHEMAS"
  | schemaFile => "SERVER__SCHEMA_FILE"
  | enabled => "LOGGING__ENABLED"
  | level => "LOGGING__LEVEL"
  | format => "LOGGING__FORMAT"
  | includeLocation => "LOGGING__INCLUDE_LOCATION"
  | threadIds => "LOGGING__THREAD_IDS"

theorem name_injective {s s' : Setting} (h : s.name = s'.name) : s = s' := by
  cases s <;> cases s' <;> first | rfl | exact absurd h (by decide)

end Setting

/-! ### What the value of a variable says -/

/-- The truth value that a text writes, in any case of letters. -/
def boolean? (value : String) : Option Bool :=
  if Text.lower value ∈ ["true", "1", "yes", "on"] then some true
  else if Text.lower value ∈ ["false", "0", "no", "off"] then some false
  else none

/-- The format of logs that a text names, in any case of letters. -/
def logFormat? (value : String) : Option LogFormat := LogFormat.ofName? (Text.lower value)

/-- The file that a text names; the empty text names none. -/
def fileNamed (value : String) : Option String := if value = "" then none else some value

/-- Whether a value can be read as one of the setting. -/
def Setting.Readable : Setting → String → Prop
  | enabled, value | includeLocation, value | threadIds, value => (boolean? value).isSome
  | format, value => (logFormat? value).isSome
  | serviceName, _ | schemas, _ | schemaFile, _ | level, _ => True

theorem readBoolean_eq_ok_iff {name value : String} {b : Bool} :
    readBoolean name value = .ok b ↔ boolean? value = some b := by
  rw [readBoolean, boolean?]
  simp only [List.contains_iff_mem]
  split_ifs <;> simp

theorem readFormat_eq_ok_iff {name value : String} {format : LogFormat} :
    readFormat name value = .ok format ↔ logFormat? value = some format := by
  rw [readFormat, logFormat?]
  cases LogFormat.ofName? (Text.lower value) <;> simp

/-! ### Values over values -/

section Override

variable {α : Type} {read : String → Option α} {first second : Option String}

/-- A value, unless a variable has another. -/
def override (read : String → Option α) (given : Option String) (value : α) : α :=
  (given.bind read).getD value

theorem override_override (h : first = none ∨ second = none) (value : α) :
    override read second (override read first value) = override read (first.or second) value := by
  rcases h with rfl | rfl <;> simp [override]

end Override

/-- A configuration with the values of variables over it. -/
def overlay (given : Setting → Option String) (c : Config) : Config where
  server := {
    serviceName := override some (given .serviceName) c.server.serviceName
    schemas := override (some ∘ readIds) (given .schemas) c.server.schemas
    schemaFile := override (some ∘ fileNamed) (given .schemaFile) c.server.schemaFile }
  logging := {
    enabled := override boolean? (given .enabled) c.logging.enabled
    level := override some (given .level) c.logging.level
    format := override logFormat? (given .format) c.logging.format
    includeLocation := override boolean? (given .includeLocation) c.logging.includeLocation
    threadIds := override boolean? (given .threadIds) c.logging.threadIds }

/-- All variables that are set can be read. -/
def AllReadable (given : Setting → Option String) : Prop :=
  ∀ s value, given s = some value → s.Readable value

section Overlay

variable {first second : Setting → Option String} {c c' : Config}

theorem overlay_none (c : Config) : overlay (fun _ ↦ none) c = c := rfl

theorem overlay_overlay (h : ∀ s, first s = none ∨ second s = none) (c : Config) :
    overlay second (overlay first c) = overlay (fun s ↦ (first s).or (second s)) c := by
  simp only [overlay, override_override (h _)]

theorem allReadable_or_iff (h : ∀ s, first s = none ∨ second s = none) :
    AllReadable (fun s ↦ (first s).or (second s)) ↔ AllReadable first ∧ AllReadable second := by
  constructor
  · intro hboth
    refine ⟨fun s value hvalue ↦ hboth s value ?_, fun s value hvalue ↦ hboth s value ?_⟩
    · simp [hvalue]
    · simp [hvalue, (h s).resolve_right (by simp [hvalue])]
  · rintro ⟨hfirst, hsecond⟩ s value hvalue
    rcases h s with hnone | hnone
    · exact hsecond s value (by simpa [hnone] using hvalue)
    · exact hfirst s value (by simpa [hnone] using hvalue)

end Overlay

/-! ### One variable -/

section Variable

variable {c c' : Config} {name value : String}

/-- The one variable of a setting. -/
def only (s : Setting) (value : String) (s' : Setting) : Option String :=
  if s' = s then some value else none

theorem allReadable_only_iff {s : Setting} : AllReadable (only s value) ↔ s.Readable value := by
  constructor
  · intro h
    exact h s value (if_pos rfl)
  · intro h s' value' hvalue
    rw [only] at hvalue
    split_ifs at hvalue with hs
    cases hvalue
    exact hs ▸ h

/-- The variable of a setting is put over the configuration if it can be read. -/
theorem applyVariable_eq_ok_iff (s : Setting) : applyVariable c name s.name value = .ok c' ↔
    AllReadable (only s value) ∧ overlay (only s value) c = c' := by
  rw [allReadable_only_iff]
  cases s with
  | serviceName | schemas | level =>
    simp [applyVariable, Setting.name, Setting.Readable, overlay, only, override]
  | schemaFile =>
    simp [applyVariable, Setting.name, Setting.Readable, overlay, only, override, fileNamed]
  | enabled | includeLocation | threadIds =>
    simp only [applyVariable, Setting.name, map_eq_ok_iff, readBoolean_eq_ok_iff]
    cases hread : boolean? value <;>
      simp [Setting.Readable, overlay, only, override, hread]
  | format =>
    simp only [applyVariable, Setting.name, map_eq_ok_iff, readFormat_eq_ok_iff]
    cases hread : logFormat? value <;>
      simp [Setting.Readable, overlay, only, override, hread]

theorem applyVariable_of_ne {setting : String} (h : ∀ s : Setting, setting ≠ s.name) :
    applyVariable c name setting value = .ok c := by
  unfold applyVariable
  split
  · exact absurd rfl (h .serviceName)
  · exact absurd rfl (h .schemas)
  · exact absurd rfl (h .schemaFile)
  · exact absurd rfl (h .enabled)
  · exact absurd rfl (h .level)
  · exact absurd rfl (h .format)
  · exact absurd rfl (h .includeLocation)
  · exact absurd rfl (h .threadIds)
  · rfl

/-! Of the name of a variable no more is read than what follows the start and two low lines. -/

theorem settingOf?_eq_some_iff {start setting : String} :
    settingOf? start name = some setting ↔ name = start ++ "__" ++ setting := by
  have hname : name = start ++ "__" ++ setting ↔
      name.toList = (start ++ "__").toList ++ setting.toList := by
    rw [← String.toList_inj, String.toList_append]
  rw [settingOf?, hname]
  split_ifs with hlead
  · obtain ⟨rest, hrest⟩ := List.isPrefixOf_iff_prefix.mp hlead
    rw [← hrest, List.drop_left, List.append_cancel_left_eq, Option.some_inj]
    constructor
    · rintro rfl
      exact String.toList_ofList.symm
    · rintro rfl
      exact String.ofList_toList
  · refine ⟨nofun, fun h ↦ absurd ?_ hlead⟩
    exact List.isPrefixOf_iff_prefix.mpr ⟨setting.toList, h.symm⟩

end Variable

/-! ### All variables -/

section Environment

variable {c c' : Config} {start : String}

/-- The variable of a setting among some entries. -/
def variableIn (start : String) (entries : List (String × String)) (s : Setting) : Option String :=
  Keyed.find? (start ++ "__" ++ s.name) entries

/-- The variables that one entry sets: that of one setting or none. -/
theorem variableIn_singleton_of_settingOf? {name value : String} {s : Setting}
    (h : settingOf? start name = some s.name) :
    variableIn start [(name, value)] = only s value := by
  funext s'
  have hname : name = start ++ "__" ++ s.name := settingOf?_eq_some_iff.mp h
  have hsame : name = start ++ "__" ++ s'.name ↔ s' = s := by
    refine ⟨fun hname' ↦ ?_, fun hs ↦ hs ▸ hname⟩
    have h' := settingOf?_eq_some_iff.mpr hname'
    rw [h] at h'
    exact (Setting.name_injective (Option.some.inj h')).symm
  simp only [variableIn, Keyed.find?, only, hsame]

theorem variableIn_singleton_of_ne {name value : String}
    (h : ∀ s : Setting, settingOf? start name ≠ some s.name) :
    variableIn start [(name, value)] = fun _ ↦ none := by
  funext s
  have hname : name ≠ start ++ "__" ++ s.name := fun hname ↦ h s (settingOf?_eq_some_iff.mpr hname)
  simp [variableIn, Keyed.find?, hname]

/-- An entry of the environment puts its variable over the configuration, if it is one. -/
def applyEntry (start : String) (c : Config) (entry : String × String) :
    Except ConfigError Config :=
  match settingOf? start entry.1 with
  | some setting => applyVariable c entry.1 setting entry.2
  | none => .ok c

theorem applyEntry_eq_ok_iff {entry : String × String} : applyEntry start c entry = .ok c' ↔
    AllReadable (variableIn start [entry]) ∧ overlay (variableIn start [entry]) c = c' := by
  obtain ⟨name, value⟩ := entry
  rw [applyEntry]
  by_cases h : ∃ s : Setting, settingOf? start name = some s.name
  · obtain ⟨s, hs⟩ := h
    rw [hs, variableIn_singleton_of_settingOf? hs]
    exact applyVariable_eq_ok_iff s
  · have hne : ∀ s : Setting, settingOf? start name ≠ some s.name := not_exists.mp h
    have hkept : (match settingOf? start name with
        | some setting => applyVariable c name setting value
        | none => .ok c) = .ok c := by
      split
      · rename_i setting hsetting
        exact applyVariable_of_ne fun s hs ↦ hne s (hs ▸ hsetting)
      · rfl
    rw [variableIn_singleton_of_ne hne, overlay_none]
    dsimp only
    rw [hkept]
    simp [AllReadable]

theorem applyEntries_eq_ok_iff {entries : List (String × String)}
    (hentries : (Keyed.keys entries).Nodup) : entries.foldlM (applyEntry start) c = .ok c' ↔
      AllReadable (variableIn start entries) ∧ overlay (variableIn start entries) c = c' := by
  induction entries generalizing c with
  | nil =>
    have hnone : variableIn start [] = fun _ ↦ none := rfl
    rw [hnone, overlay_none]
    simp [AllReadable, pure, Except.pure]
  | cons entry rest ih =>
    obtain ⟨hentry, hrest⟩ := List.nodup_cons.mp hentries
    have hapart : ∀ s, variableIn start [entry] s = none ∨ variableIn start rest s = none := by
      intro s
      by_cases hname : entry.1 = start ++ "__" ++ s.name
      · exact .inr (Keyed.find?_eq_none_iff.mpr (hname ▸ hentry))
      · exact .inl (by simp [variableIn, Keyed.find?, hname])
    have hboth : variableIn start (entry :: rest) =
        fun s ↦ (variableIn start [entry] s).or (variableIn start rest s) := by
      funext s
      by_cases hname : entry.1 = start ++ "__" ++ s.name <;> simp [variableIn, Keyed.find?, hname]
    rw [List.foldlM_cons, bind_eq_ok_iff, hboth, allReadable_or_iff hapart,
      ← overlay_overlay hapart]
    simp only [applyEntry_eq_ok_iff, ih hrest]
    constructor
    · rintro ⟨next, ⟨hfirst, rfl⟩, hothers, hc⟩
      exact ⟨⟨hfirst, hothers⟩, hc⟩
    · rintro ⟨⟨hfirst, hothers⟩, hc⟩
      exact ⟨_, ⟨hfirst, rfl⟩, hothers, hc⟩

/-- The variable of a setting in an environment; of one that is there twice the last counts. -/
def valueIn (start : String) (env : Environment) (s : Setting) : Option String :=
  variableIn start (Keyed.ofList env.texts) s

theorem applyEnvironment_eq_ok_iff {env : Environment} :
    applyEnvironment start env c = .ok c' ↔
      AllReadable (valueIn start env) ∧ overlay (valueIn start env) c = c' :=
  applyEntries_eq_ok_iff (Keyed.nodup_keys_ofList env.texts)

end Environment

end SchemaRouting.Config
