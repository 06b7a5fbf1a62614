import SchemaRouting.Proofs.Config.Layers

/-!
# The order of variables

Variables of different names are enumerated in no particular order. A configuration that is loaded
with them in one order is loaded with them in any other, since what is read is the value of each
variable by its name. Where one cannot be read, nothing is loaded in any order, and the error is
that of the first such variable (`applyEntries_eq_error_iff`), so only where there are two of them
the order shows (`overlaid_agrees`, `orders_load_alike`). A variable that is no text makes loading
panic wherever it stands.
-/

set_option autoImplicit false
set_option relaxedAutoImplicit false

namespace SchemaRouting.Config

open Loader

variable {start : String} {c : Config} {e e' : ConfigError} {entry : String × String}

/-! ### Variables that cannot be read -/

/-- The error of a value that cannot be read as one of the setting. -/
def Setting.fault : Setting → String → ConfigError
  | format, variableName => .notLogFormat variableName
  | serviceName, variableName | schemas, variableName | schemaFile, variableName
  | enabled, variableName | level, variableName | includeLocation, variableName
  | threadIds, variableName => .notBoolean variableName

/-- An entry is the variable of a setting, its value cannot be read, and this is its error. -/
def Faults (start : String) (entry : String × String) (e : ConfigError) : Prop :=
  ∃ s : Setting, entry.1 = start ++ "__" ++ s.name ∧ ¬ s.Readable entry.2 ∧ e = s.fault entry.1

/-- An entry is the variable of a setting, and its value cannot be read. -/
def Unreadable (start : String) (entry : String × String) : Prop :=
  ∃ s : Setting, entry.1 = start ++ "__" ++ s.name ∧ ¬ s.Readable entry.2

theorem Faults.unreadable (h : Faults start entry e) : Unreadable start entry := by
  obtain ⟨s, hname, hvalue, -⟩ := h
  exact ⟨s, hname, hvalue⟩

theorem Faults.unique (h : Faults start entry e) (h' : Faults start entry e') : e = e' := by
  obtain ⟨s, hname, -, rfl⟩ := h
  obtain ⟨s', hname', -, rfl⟩ := h'
  have hsetting := settingOf?_eq_some_iff.mpr hname
  rw [settingOf?_eq_some_iff.mpr hname'] at hsetting
  rw [Setting.name_injective (Option.some.inj hsetting)]

theorem readBoolean_eq_error_iff {name value : String} :
    readBoolean name value = .error e ↔ ¬ (boolean? value).isSome ∧ e = .notBoolean name := by
  rw [readBoolean, boolean?]
  simp only [List.contains_iff_mem]
  split_ifs <;> simp [eq_comm]

theorem readFormat_eq_error_iff {name value : String} :
    readFormat name value = .error e ↔ ¬ (logFormat? value).isSome ∧ e = .notLogFormat name := by
  rw [readFormat, logFormat?]
  cases LogFormat.ofName? (Text.lower value) <;> simp [eq_comm]

theorem applyVariable_eq_error_iff {name value : String} (s : Setting) :
    applyVariable c name s.name value = .error e ↔ ¬ s.Readable value ∧ e = s.fault name := by
  cases s with
  | serviceName | schemas | schemaFile | level =>
    simp [applyVariable, Setting.name, Setting.Readable]
  | enabled | includeLocation | threadIds =>
    simp only [applyVariable, Setting.name, map_eq_error_iff, readBoolean_eq_error_iff]
    rfl
  | format =>
    simp only [applyVariable, Setting.name, map_eq_error_iff, readFormat_eq_error_iff]
    rfl

theorem applyEntry_eq_error_iff : applyEntry start c entry = .error e ↔ Faults start entry e := by
  rw [applyEntry, Faults]
  cases hsetting : settingOf? start entry.1 with
  | none =>
    have hname (s : Setting) : entry.1 ≠ start ++ "__" ++ s.name := by
      intro hname
      rw [settingOf?_eq_some_iff.mpr hname] at hsetting
      cases hsetting
    simp [hname]
  | some setting =>
    have hname (s : Setting) : entry.1 = start ++ "__" ++ s.name ↔ setting = s.name := by
      rw [← settingOf?_eq_some_iff, hsetting, Option.some_inj]
    simp only [hname]
    by_cases hs : ∃ s : Setting, setting = s.name
    · obtain ⟨s, rfl⟩ := hs
      rw [applyVariable_eq_error_iff]
      constructor
      · exact fun h ↦ ⟨s, rfl, h⟩
      · rintro ⟨s', heq, h⟩
        rw [Setting.name_injective heq]
        exact h
    · have hne := not_exists.mp hs
      rw [applyVariable_of_ne hne]
      simp [hne]

/-- The first variable that cannot be read decides the error. -/
theorem applyEntries_eq_error_iff {entries : List (String × String)} :
    entries.foldlM (applyEntry start) c = .error e ↔ ∃ front entry back,
      entries = front ++ entry :: back ∧ (∀ other ∈ front, ¬ Unreadable start other) ∧
        Faults start entry e := by
  induction entries generalizing c with
  | nil => simp [pure, Except.pure]
  | cons entry rest ih =>
    rw [List.foldlM_cons, bind_eq_error_iff, applyEntry_eq_error_iff]
    constructor
    · rintro (hentry | ⟨next, hnext, hrest⟩)
      · exact ⟨[], entry, rest, rfl, nofun, hentry⟩
      · obtain ⟨front, first, back, rfl, hfront, hfirst⟩ := ih.mp hrest
        refine ⟨entry :: front, first, back, rfl, List.forall_mem_cons.mpr ⟨?_, hfront⟩, hfirst⟩
        rintro ⟨s, hname, hvalue⟩
        have hfault := applyEntry_eq_error_iff (c := c).mpr ⟨s, hname, hvalue, rfl⟩
        rw [hnext] at hfault
        cases hfault
    · rintro ⟨front, first, back, hsplit, hfront, hfirst⟩
      cases front with
      | nil =>
        cases hsplit
        exact .inl hfirst
      | cons _ front =>
        cases hsplit
        obtain ⟨hentry, hfront⟩ := List.forall_mem_cons.mp hfront
        cases hnext : applyEntry start c entry with
        | error e' => exact absurd (applyEntry_eq_error_iff.mp hnext).unreadable hentry
        | ok next => exact .inr ⟨next, rfl, ih.mpr ⟨front, first, back, rfl, hfront, hfirst⟩⟩

/-! ### Other orders -/

namespace Loader

variable {l : Loader} {env' : Environment}

/-- An error that loading may end with in place of another one when the variables are enumerated in
another order: itself, or that of another variable where neither can be read. -/
def Interchanges (l : Loader) (e e' : ConfigError) : Prop :=
  e = e' ∨ ∃ start ∈ l.start, ∃ entry ∈ l.environment.texts, ∃ entry' ∈ l.environment.texts,
    entry ≠ entry' ∧ Faults start entry e ∧ Faults start entry' e'

theorem texts_perm {env : Environment} (hsame : env.Perm env') : env.texts.Perm env'.texts :=
  hsame.filterMap Variable.entry?

theorem stumbles_of_perm {start : Option String} {env : Environment} (hsame : env.Perm env') :
    Stumbles start env' ↔ Stumbles start env := by
  simp only [Stumbles, hsame.mem_iff]

theorem given_of_perm (hnames : (Keyed.keys l.environment.texts).Nodup)
    (hsame : l.environment.Perm env') : given l.start l.environment = given l.start env' := by
  have htexts := texts_perm hsame
  have hnames' : (Keyed.keys env'.texts).Nodup := (htexts.map Prod.fst).nodup_iff.mp hnames
  funext s
  unfold given valueIn variableIn
  rw [Keyed.ofList_of_nodup hnames, Keyed.ofList_of_nodup hnames']
  simp only [Keyed.find?_of_perm hnames htexts]

theorem exists_faults_of_applied (hnames : (Keyed.keys l.environment.texts).Nodup)
    (h : l.applied = .error e) :
    ∃ start ∈ l.start, ∃ entry ∈ l.environment.texts, Faults start entry e := by
  unfold applied at h
  split at h
  · rename_i start hstart
    have hfold : l.environment.texts.foldlM (applyEntry start) l.config = .error e := by
      rw [← Keyed.ofList_of_nodup hnames]
      exact h
    obtain ⟨front, entry, back, hsplit, -, hfault⟩ := applyEntries_eq_error_iff.mp hfold
    refine ⟨start, hstart, entry, ?_, hfault⟩
    rw [hsplit]
    exact List.mem_append_right _ List.mem_cons_self
  · cases h

/-- The variables over a configuration, enumerated in two orders. -/
theorem applied_agrees (hnames : (Keyed.keys l.environment.texts).Nodup)
    (hsame : l.environment.Perm env') : Agree (· = ·) l.Interchanges l.applied
      ({ l with environment := env' } : Loader).applied := by
  have htexts := texts_perm hsame
  have hnames' : (Keyed.keys env'.texts).Nodup := (htexts.map Prod.fst).nodup_iff.mp hnames
  have hiff (c : Config) :
      l.applied = .ok c ↔ ({ l with environment := env' } : Loader).applied = .ok c := by
    rw [applied_eq_ok_iff, applied_eq_ok_iff, given_of_perm hnames hsame]
  cases h : l.applied with
  | ok c =>
    rw [(hiff c).mp h]
    exact .ok rfl
  | error e =>
    cases h' : ({ l with environment := env' } : Loader).applied with
    | ok c =>
      rw [(hiff c).mpr h'] at h
      cases h
    | error e' =>
      obtain ⟨start, hstart, entry, hentry, hfault⟩ := exists_faults_of_applied hnames h
      obtain ⟨start', hstart', entry', hentry', hfault'⟩ := exists_faults_of_applied hnames' h'
      obtain rfl : start = start' := Option.some.inj (hstart.symm.trans hstart')
      by_cases heq : entry = entry'
      · subst heq
        exact .error (.inl (hfault.unique hfault'))
      · exact .error (.inr ⟨start, hstart, entry, hentry, entry', htexts.mem_iff.mpr hentry', heq,
          hfault, hfault'⟩)

theorem overlaid_agrees (hnames : (Keyed.keys l.environment.texts).Nodup)
    (hsame : l.environment.Perm env') : Agree (· = ·) l.Interchanges l.overlaid
      ({ l with environment := env' } : Loader).overlaid := by
  rw [overlaid_eq, overlaid_eq]
  refine (applied_agrees hnames hsame).bind fun c c' hc ↦ ?_
  subst hc
  exact agree_self (fun _ ↦ rfl) (fun _ ↦ .inl rfl) _

/-- Assumes: variables of different names, and the same variables in another order. Loading succeeds
in both orders with the same configuration, or fails in both, or panics in both, which it does where
a start was asked for and one of them is no text. If it fails with different errors, they are those
of two different variables of settings, neither of which can be read; so where there is at most one
such variable, loading does the same in both orders. -/
theorem orders_load_alike (hnames : (Keyed.keys l.environment.texts).Nodup)
    (hsame : l.environment.Perm env') :
    ((∃ c, l.load = .ok c ∧ ({ l with environment := env' } : Loader).load = .ok c) ∨
      (∃ e e', l.load = .error e ∧ ({ l with environment := env' } : Loader).load = .error e' ∧
        l.Interchanges e e') ∨
      Stumbles l.start l.environment ∧ l.load = .panicked ∧
        ({ l with environment := env' } : Loader).load = .panicked) ∧
    ((∀ start ∈ l.start, ∀ entry ∈ l.environment.texts, ∀ entry' ∈ l.environment.texts,
        Unreadable start entry → Unreadable start entry' → entry = entry') →
      l.load = ({ l with environment := env' } : Loader).load) := by
  let l' : Loader := { l with environment := env' }
  have hstumbles : Stumbles l'.start l'.environment ↔ Stumbles l.start l.environment :=
    stumbles_of_perm hsame
  have hagree : Agree (· = ·) l.Interchanges l.overlaid l'.overlaid := overlaid_agrees hnames hsame
  by_cases hpanics : Stumbles l.start l.environment
  · have hload := load_of_stumbles hpanics
    have hload' : l'.load = .panicked := load_of_stumbles (hstumbles.mpr hpanics)
    exact ⟨.inr (.inr ⟨hpanics, hload, hload'⟩), fun _ ↦ hload.trans hload'.symm⟩
  · have hload := load_of_not_stumbles hpanics
    have hload' : l'.load = .ofExcept l'.overlaid := load_of_not_stumbles (mt hstumbles.mp hpanics)
    generalize l.overlaid = result at hagree hload
    generalize l'.overlaid = result' at hagree hload'
    cases hagree with
    | @ok c c' heq =>
      subst heq
      exact ⟨.inl ⟨c, hload, hload'⟩, fun _ ↦ hload.trans hload'.symm⟩
    | @error e e' hinterchanges =>
      refine ⟨.inr (.inl ⟨e, e', hload, hload', hinterchanges⟩), fun hone ↦ ?_⟩
      rcases hinterchanges with
        rfl | ⟨start, hstart, entry, hentry, entry', hentry', hne, hfault, hfault'⟩
      · exact hload.trans hload'.symm
      · exact absurd (hone start hstart entry hentry entry' hentry' hfault.unreadable
          hfault'.unreadable) hne

/-- Two variables of settings, of which the one cannot be read, and one that only begins like them.
-/
def dimmedLoader : Loader where
  config := standard
  environment := [.text "LAMPS__LOGGING__ENABLED" "dimmed", .text "LAMPS__LOGGING__LEVEL" "warn",
    .text "LAMPS_LOGGING__FORMAT" "oak"]
  start := some "LAMPS"
  fileLoaded := false

/-- The error is the same in both orders, as the other two are no variables that cannot be read. -/
theorem dimmed_lamps_fail_alike : (Keyed.keys dimmedLoader.environment.texts).Nodup ∧
    dimmedLoader.environment.Perm dimmedLoader.environment.reverse ∧
    dimmedLoader.load = .error (.notBoolean "LAMPS__LOGGING__ENABLED") ∧
    ({ dimmedLoader with environment := dimmedLoader.environment.reverse } : Loader).load =
      .error (.notBoolean "LAMPS__LOGGING__ENABLED") := by
  have hnames : (Keyed.keys dimmedLoader.environment.texts).Nodup := by decide
  have hsame := (List.reverse_perm dimmedLoader.environment).symm
  have hdimmed : ∀ entry ∈ dimmedLoader.environment.texts, Unreadable "LAMPS" entry →
      entry = ("LAMPS__LOGGING__ENABLED", "dimmed") := by
    intro entry hentry hunreadable
    obtain ⟨s, hname, hvalue⟩ := hunreadable
    rcases List.mem_cons.mp hentry with rfl | hentry
    · rfl
    · rcases List.mem_cons.mp hentry with rfl | hentry
      · cases s <;> first | exact absurd hname (by decide) | exact absurd trivial hvalue
      · cases List.mem_singleton.mp hentry
        cases s <;> exact absurd hname (by decide)
  obtain ⟨-, halike⟩ := orders_load_alike hnames hsame
  have hload : dimmedLoader.load = .error (.notBoolean "LAMPS__LOGGING__ENABLED") := rfl
  refine ⟨hnames, hsame, hload, ?_⟩
  rw [← hload]
  refine (halike fun start hstart entry hentry entry' hentry' hfault hfault' ↦ ?_).symm
  cases hstart
  rw [hdimmed entry hentry hfault, hdimmed entry' hentry' hfault']

end Loader

end SchemaRouting.Config
