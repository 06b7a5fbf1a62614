import Mathlib.Data.List.Induction
import SchemaRouting.Proofs.Config.Documents
import SchemaRouting.Proofs.Config.Valid
import SchemaRouting.Proofs.Config.Variables

/-!
# Configurations that are loaded in layers

A preset and a document each put a whole configuration in place of what was loaded before
(`Layer.Sets`), so of all of them the last one counts, and if there is none the standard (`Base`).
Of the starts of variable names the last one counts too (`lastStart`). What is loaded in the end is
that configuration with the variables over it, if they can all be read and it passes its check
(`Loader.loads_overlay_of_base`). There is a panic instead if a start was asked for and any variable
that is set is no text (`Loader.Stumbles`), be it of a setting or not (`burnt_variable_panics`).
-/

set_option autoImplicit false
set_option relaxedAutoImplicit false

namespace SchemaRouting.Config

variable {folder : Folder}

/-! ### One layer -/

namespace Layer

/-- Whether a layer puts another configuration in place of the one before. -/
def replaces (folder : Folder) : Layer → Bool
  | preset _ | text _ _ | file _ => true
  | optionalFile path => folder.contains path
  | environment _ | dotenv | dotenvFile _ => false

/-- Whether a layer fills the environment. -/
def fillsEnvironment : Layer → Bool
  | dotenv | dotenvFile _ => true
  | preset _ | text _ _ | file _ | optionalFile _ | environment _ => false

/-- The start of variable names that a layer asks for, in capital letters. -/
def start? : Layer → Option String
  | environment start => some (Text.upper start)
  | preset _ | text _ _ | file _ | optionalFile _ | dotenv | dotenvFile _ => none

/-- The configuration that a layer puts in place: a preset itself, and of a document what it says,
with the standard value of each setting that it does not name. -/
inductive Sets (folder : Folder) : Layer → Config → Prop
  | preset (c : Config) : Sets folder (.preset c) c
  | text {content name : String} {format : Schema.Format} {t : Tree} {c : Config} :
    Loader.formatNamed name = .ok format → format.tree? content = some t → Says t c →
    Sets folder (.text content name) c
  | file {path content : String} {format : Schema.Format} {t : Tree} {c : Config} :
    folder.readText? path = some content → Loader.formatOfFile path = .ok format →
    format.tree? content = some t → Says t c → Sets folder (.file path) c
  | optionalFile {path : String} {c : Config} : Sets folder (.file path) c →
    Sets folder (.optionalFile path) c

end Layer

namespace Loader

variable {l l' : Loader} {layer : Layer}

/-- Adding a document changes the configuration and nothing that variables are read from. -/
theorem addFile_cases {path : String} (h : l.addFile folder path = .ok l') :
    Layer.Sets folder (.file path) l'.config ∧ l'.start = l.start ∧
      l'.environment = l.environment := by
  rw [addFile] at h
  split at h
  · cases h
  · split at h
    · cases h
    · rename_i content hcontent
      obtain ⟨format, hformat, h⟩ := bind_eq_ok_iff.mp h
      obtain ⟨c, hc, h⟩ := bind_eq_ok_iff.mp h
      cases h
      obtain ⟨t, htree, hsays⟩ := says_of_ofText hc
      exact ⟨.file hcontent hformat htree hsays, rfl, rfl⟩

theorem addVariables_cases {text : Option String} (h : l.addVariables text = .ok l') :
    l'.config = l.config ∧ l'.start = l.start := by
  rw [addVariables] at h
  split at h
  · cases h
    exact ⟨rfl, rfl⟩
  · cases h

/-- What one layer does: it puts a configuration in place or leaves the one that is there, and so
with the start of variable names; the environment is left unless the layer fills it. -/
structure Adds (folder : Folder) (layer : Layer) (l l' : Loader) : Prop where
  sets : layer.replaces folder = true → layer.Sets folder l'.config
  keeps : layer.replaces folder = false → l'.config = l.config
  start : l'.start = layer.start?.or l.start
  environment : layer.fillsEnvironment = false → l'.environment = l.environment

theorem Adds.of_sets (hreplaces : layer.replaces folder = true)
    (hsets : layer.Sets folder l'.config) (hstart : l'.start = layer.start?.or l.start)
    (henvironment : l'.environment = l.environment) : Adds folder layer l l' where
  sets _ := hsets
  keeps hnot := by simp [hreplaces] at hnot
  start := hstart
  environment _ := henvironment

theorem Adds.of_keeps (hkept : layer.replaces folder = false) (hconfig : l'.config = l.config)
    (hstart : l'.start = layer.start?.or l.start)
    (henvironment : layer.fillsEnvironment = false → l'.environment = l.environment) :
    Adds folder layer l l' where
  sets hreplaces := by simp [hkept] at hreplaces
  keeps _ := hconfig
  start := hstart
  environment := henvironment

theorem adds_of_add (h : add folder l layer = .ok l') : Adds folder layer l l' := by
  cases layer with
  | preset c =>
    cases h
    exact .of_sets rfl (.preset c) rfl rfl
  | text content name =>
    obtain ⟨format, hformat, h⟩ := bind_eq_ok_iff.mp h
    obtain ⟨c, hc, h⟩ := bind_eq_ok_iff.mp h
    cases h
    obtain ⟨t, htree, hsays⟩ := says_of_ofText hc
    exact .of_sets rfl (.text hformat htree hsays) rfl rfl
  | file path =>
    obtain ⟨hsets, hstart, henvironment⟩ := addFile_cases h
    exact .of_sets rfl hsets hstart henvironment
  | optionalFile path =>
    rw [add] at h
    by_cases hthere : folder.contains path = true
    · rw [if_pos hthere] at h
      obtain ⟨hsets, hstart, henvironment⟩ := addFile_cases h
      exact .of_sets hthere (.optionalFile hsets) hstart henvironment
    · rw [if_neg hthere] at h
      cases h
      exact .of_keeps (Bool.not_eq_true _ ▸ hthere) rfl rfl fun _ ↦ rfl
  | environment start =>
    cases h
    exact .of_keeps rfl rfl rfl fun _ ↦ rfl
  | dotenv =>
    rw [add] at h
    split at h
    · obtain ⟨hconfig, hstart⟩ := addVariables_cases h
      exact .of_keeps rfl hconfig hstart fun hfills ↦ by cases hfills
    · cases h
      exact .of_keeps rfl rfl rfl fun _ ↦ rfl
  | dotenvFile path =>
    obtain ⟨hconfig, hstart⟩ := addVariables_cases h
    exact .of_keeps rfl hconfig hstart fun hfills ↦ by cases hfills

end Loader

/-! ### All layers -/

/-- The configuration under the variables: what the last layer puts in place that puts one in place
at all, and else the standard. -/
def Base (folder : Folder) (layers : List Layer) (c : Config) : Prop :=
  match (layers.filter (Layer.replaces folder)).getLast? with
  | some layer => layer.Sets folder c
  | none => c = standard

theorem Layer.Sets.unique {layer : Layer} {c c' : Config} (h : layer.Sets folder c)
    (h' : layer.Sets folder c') : c = c' := by
  induction h with
  | preset c =>
    cases h'
    rfl
  | text hformat htree hsays =>
    cases h' with
    | text hformat' htree' hsays' =>
      cases hformat.symm.trans hformat'
      cases htree.symm.trans htree'
      exact hsays'.unique hsays
  | file hcontent hformat htree hsays =>
    cases h' with
    | file hcontent' hformat' htree' hsays' =>
      cases hcontent.symm.trans hcontent'
      cases hformat.symm.trans hformat'
      cases htree.symm.trans htree'
      exact hsays'.unique hsays
  | optionalFile _ ih =>
    cases h' with
    | optionalFile h' => exact ih h'

theorem Base.unique {layers : List Layer} {c c' : Config} (h : Base folder layers c)
    (h' : Base folder layers c') : c = c' := by
  rw [Base] at h h'
  split at h
  · rename_i layer hlast
    rw [hlast] at h'
    exact h.unique h'
  · rename_i hnone
    rw [hnone] at h'
    exact h.trans h'.symm

/-- The start of variable names that was asked for last. -/
def lastStart (layers : List Layer) : Option String := (layers.filterMap Layer.start?).getLast?

namespace Loader

variable {l : Loader} {layers : List Layer} {env : Environment}

/-- What a loader holds after some layers. -/
structure Holds (folder : Folder) (env : Environment) (layers : List Layer) (l : Loader) :
    Prop where
  base : Base folder layers l.config
  start : l.start = lastStart layers
  environment : (∀ layer ∈ layers, layer.fillsEnvironment = false) → l.environment = env

theorem holds_new : Holds folder env [] (new env) := ⟨rfl, rfl, fun _ ↦ rfl⟩

theorem Holds.add {l' : Loader} {layer : Layer} (h : Holds folder env layers l)
    (hadd : Loader.add folder l layer = .ok l') : Holds folder env (layers ++ [layer]) l' := by
  obtain ⟨hsets, hkeeps, hstart, henvironment⟩ := adds_of_add hadd
  constructor
  · rw [Base, List.filter_append]
    cases hreplaces : layer.replaces folder with
    | true => simpa [hreplaces] using hsets hreplaces
    | false => simpa [hreplaces, hkeeps hreplaces, Base] using h.base
  · rw [hstart, h.start, lastStart, lastStart, List.filterMap_append]
    cases hnew : layer.start? <;> simp [hnew]
  · intro hfills
    rw [henvironment (hfills layer (by simp))]
    exact h.environment fun other hother ↦ hfills other (by simp [hother])

theorem holds_of_foldlM (h : layers.foldlM (Loader.add folder) (new env) = .ok l) :
    Holds folder env layers l := by
  induction layers using List.reverseRecOn generalizing l with
  | nil =>
    cases h
    exact holds_new
  | append_singleton before layer ih =>
    rw [List.foldlM_append] at h
    obtain ⟨l₁, hbefore, h⟩ := bind_eq_ok_iff.mp h
    rw [List.foldlM_cons] at h
    obtain ⟨l₂, hadd, h⟩ := bind_eq_ok_iff.mp h
    cases h
    exact (ih hbefore).add hadd

/-- The values that variables give to settings, if a start of their names was asked for. -/
def given (start : Option String) (env : Environment) (s : Setting) : Option String :=
  start.bind fun start ↦ valueIn start env s

/-- A start of variable names was asked for, so that all variables are gone through, and one of them
is no text. -/
def Stumbles (start : Option String) (env : Environment) : Prop :=
  start.isSome = true ∧ ∃ v ∈ env, v.isText = false

/-- The configuration with the variables over it, before it is checked. -/
def applied (l : Loader) : Except ConfigError Config :=
  match l.start with
  | some start => applyEnvironment start l.environment l.config
  | none => .ok l.config

theorem overlaid_eq (l : Loader) : l.overlaid = (do
    let c ← l.applied
    c.validate
    return c) := by
  unfold overlaid applied
  cases l.start <;> rfl

theorem applied_eq_ok_iff {c : Config} : l.applied = .ok c ↔
    AllReadable (given l.start l.environment) ∧
      overlay (given l.start l.environment) l.config = c := by
  unfold applied
  cases l.start with
  | none =>
    have hnone : given none l.environment = fun _ ↦ none := rfl
    rw [hnone, overlay_none]
    simp [AllReadable]
  | some start => exact applyEnvironment_eq_ok_iff

theorem overlaid_eq_ok_iff {c : Config} : l.overlaid = .ok c ↔
    AllReadable (given l.start l.environment) ∧
      (overlay (given l.start l.environment) l.config).validate = .ok () ∧
      c = overlay (given l.start l.environment) l.config := by
  rw [overlaid_eq, bind_eq_ok_iff]
  constructor
  · rintro ⟨c', happlied, h⟩
    obtain ⟨hreadable, rfl⟩ := applied_eq_ok_iff.mp happlied
    obtain ⟨⟨⟩, hvalid, h⟩ := bind_eq_ok_iff.mp h
    cases h
    exact ⟨hreadable, hvalid, rfl⟩
  · rintro ⟨hreadable, hvalid, rfl⟩
    exact ⟨_, applied_eq_ok_iff.mpr ⟨hreadable, rfl⟩, bind_eq_ok_iff.mpr ⟨(), hvalid, rfl⟩⟩

/-! Going through the variables, and what is loaded then. -/

theorem stumbles_iff {start : Option String} :
    Stumbles start env ↔ (start.isSome && !env.allTexts) = true := by
  simp [Stumbles, Environment.allTexts]

theorem load_of_stumbles (h : Stumbles l.start l.environment) : l.load = .panicked := by
  rw [load, if_pos (stumbles_iff.mp h)]

theorem load_of_not_stumbles (h : ¬ Stumbles l.start l.environment) :
    l.load = .ofExcept l.overlaid := by
  rw [load, if_neg (mt stumbles_iff.mpr h)]

theorem load_eq_panicked_iff : l.load = .panicked ↔ Stumbles l.start l.environment := by
  refine ⟨fun hload ↦ ?_, load_of_stumbles⟩
  by_contra hnot
  rw [load_of_not_stumbles hnot] at hload
  cases hoverlaid : l.overlaid with
  | ok c =>
    rw [hoverlaid] at hload
    cases hload
  | error e =>
    rw [hoverlaid] at hload
    cases hload

theorem load_eq_ok_iff {c : Config} : l.load = .ok c ↔ ¬ Stumbles l.start l.environment ∧
    AllReadable (given l.start l.environment) ∧
      (overlay (given l.start l.environment) l.config).validate = .ok () ∧
      c = overlay (given l.start l.environment) l.config := by
  rw [← overlaid_eq_ok_iff]
  by_cases hstumbles : Stumbles l.start l.environment
  · simp [load_of_stumbles hstumbles, hstumbles]
  · rw [load_of_not_stumbles hstumbles]
    cases l.overlaid <;> simp [Loaded.ofExcept, hstumbles]

/-- Assumes: a loader to which some layers were added, all of them with success. There is the
configuration of the last preset or document among them, or else the standard, and what is loaded
is that configuration with the variables of the settings over it, whose names have the start that
was asked for last, in capital letters. If a start was asked for and any variable at all is no text,
loading panics. Otherwise the configuration is loaded exactly if all variables of the settings can
be read and it passes its check. Nothing more is read of an environment than the eight variables and
whether all are texts, and unless files of variables were among the layers it is the one that there
was. -/
theorem loads_overlay_of_base (h : layers.foldlM (Loader.add folder) (new env) = .ok l) :
    ∃ base, Base folder layers base ∧
      ((∀ layer ∈ layers, layer.fillsEnvironment = false) → l.environment = env) ∧
      (l.load = .panicked ↔ Stumbles (lastStart layers) l.environment) ∧
      (∀ c, l.load = .ok c ↔ ¬ Stumbles (lastStart layers) l.environment ∧
        AllReadable (given (lastStart layers) l.environment) ∧
          (overlay (given (lastStart layers) l.environment) base).validate = .ok () ∧
          c = overlay (given (lastStart layers) l.environment) base) ∧
      ∀ env', (∀ s, given (lastStart layers) env' s =
          given (lastStart layers) l.environment s) →
        (Stumbles (lastStart layers) env' ↔ Stumbles (lastStart layers) l.environment) →
        ∀ c, ({ l with environment := env' } : Loader).load = .ok c ↔ l.load = .ok c := by
  have hholds := holds_of_foldlM h
  refine ⟨l.config, hholds.base, hholds.environment, ?_, fun c ↦ ?_, fun env' hsame htexts c ↦ ?_⟩
  · rw [load_eq_panicked_iff, hholds.start]
  · rw [load_eq_ok_iff, hholds.start]
  · rw [load_eq_ok_iff, load_eq_ok_iff, hholds.start, funext hsame, htexts]

/-- A preset, a document that names one setting, and the start of variable names. -/
def lampLayers : List Layer :=
  [.preset development, .text "\x7b\"logging\":\x7b\"level\":\"warn\"\x7d\x7d" "json",
    .environment "lamps"]

/-- A variable of a setting, and one whose name only begins like that of a setting. -/
def lampEnvironment : Environment :=
  [.text "LAMPS__SERVER__SCHEMAS" "lamps, rooms,,", .text "LAMPS_HOME" "/house"]

/-- The configuration that the document says. -/
def warned : Config := ⟨.standard, { Logging.standard with level := "warn" }⟩

/-- Of the preset nothing is left, and of the environment one setting is taken. -/
theorem warned_lamps_loaded :
    ∃ l, lampLayers.foldlM (Loader.add []) (new lampEnvironment) = .ok l ∧
      Base [] lampLayers warned ∧ l.environment = lampEnvironment ∧
      l.load = .ok ⟨{ Server.standard with schemas := ["lamps", "rooms"] }, warned.logging⟩ := by
  have hadded : lampLayers.foldlM (Loader.add []) (new lampEnvironment) =
      .ok ⟨warned, lampEnvironment, some "LAMPS", false⟩ := rfl
  obtain ⟨base, hbase, henvironment, -, hload, -⟩ := loads_overlay_of_base hadded
  have hwarned : base = warned := hbase.unique (holds_of_foldlM hadded).base
  subst hwarned
  have hgiven : given (lastStart lampLayers) lampEnvironment = only .schemas "lamps, rooms,," := by
    funext s
    cases s <;> rfl
  have htexts : ¬ Stumbles (lastStart lampLayers) lampEnvironment :=
    fun hstumbles ↦ by cases stumbles_iff.mp hstumbles
  refine ⟨_, hadded, hbase, henvironment (by decide), (hload _).mpr ⟨htexts, ?_⟩⟩
  rw [hgiven, allReadable_only_iff]
  exact ⟨trivial, rfl, rfl⟩

/-- A variable of no setting, whose value is no text. -/
def burntVariable : Variable := .other (Text.utf8 "FUSE") [255] (.inr (by decide +kernel))

/-- It is not so that a configuration is loaded whenever the variables of its settings can be read
and it passes its check: any variable that is no text makes loading panic. Nor is a variable read
whose name has the start that was asked for in small letters. -/
theorem burnt_variable_panics :
    (∃ l, [Layer.environment "lamps"].foldlM (Loader.add [])
        (new [.text "lamps__LOGGING__LEVEL" "debug"]) = .ok l ∧ l.load = .ok standard) ∧
    ¬ ∀ (env : Environment) (l : Loader) (base c : Config),
      lampLayers.foldlM (Loader.add []) (new env) = .ok l → Base [] lampLayers base →
      AllReadable (given (lastStart lampLayers) env) →
      (overlay (given (lastStart lampLayers) env) base).validate = .ok () →
      c = overlay (given (lastStart lampLayers) env) base → l.load = .ok c := by
  refine ⟨⟨_, rfl, rfl⟩, fun h ↦ ?_⟩
  have hadded : lampLayers.foldlM (Loader.add []) (new [burntVariable]) =
      .ok ⟨warned, [burntVariable], some "LAMPS", false⟩ := rfl
  have hgiven : given (lastStart lampLayers) [burntVariable] = fun _ ↦ none := by
    funext s
    cases s <;> rfl
  have hload := h [burntVariable] _ warned warned hadded (holds_of_foldlM hadded).base
    (by simp [hgiven, AllReadable]) (by rw [hgiven]; rfl) (by rw [hgiven]; rfl)
  cases hload

end Loader

end SchemaRouting.Config
