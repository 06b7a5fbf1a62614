import SchemaRouting.Proofs.Registry.Tree
import SchemaRouting.Proofs.Text.Joining

/-!
# A handler registry is a finite map from paths

A registry is told by the history of attempts to register (`after`), and each path has the handler
of the last attempt under it that succeeded (`lastUnder`). One attempt is refused for its name,
refused for another path that is in its way, or done (`Registers`, `registers`), and a refused one
leaves the registry as it was. So a registry answers as the map of its history does (`AnswersAs`):
the step is `holds_register`, the induction over the history `holds_after`, and the main statement
`after_answersAs_lastUnder`.
-/

set_option autoImplicit false
set_option relaxedAutoImplicit false

namespace SchemaRouting.HandlerRegistry

variable {φ : Type} {r : HandlerRegistry φ} {name : String} {h : φ} {path other : List String}
  {m : List String → Option φ}

/-! ### Names and paths -/

theorem segments?_eq_none_iff :
    segments? name = none ↔ Text.trim name = "" ∨ "" ∈ Text.split '.' (Text.trim name) := by
  simp [segments?, String.isEmpty_iff, Decidable.or_iff_not_imp_left]

theorem segments?_eq_some_iff : segments? name = some path ↔
    (Text.trim name ≠ "" ∧ "" ∉ Text.split '.' (Text.trim name)) ∧
      Text.split '.' (Text.trim name) = path := by
  by_cases hnone : segments? name = none
  · have hempty := segments?_eq_none_iff.mp hnone
    rw [hnone]
    constructor
    · nofun
    · rintro ⟨⟨hne, hfree⟩, -⟩
      exact absurd hempty (not_or.mpr ⟨hne, hfree⟩)
  · have hsome := not_or.mp (mt segments?_eq_none_iff.mpr hnone)
    have hsplit : segments? name = some (Text.split '.' (Text.trim name)) := by
      simpa [segments?, String.isEmpty_iff] using hsome
    rw [hsplit, Option.some.injEq]
    exact (and_iff_right hsome).symm

theorem dotted_of_segments? (hname : segments? name = some path) :
    dotted path = Text.trim name := by
  obtain ⟨-, rfl⟩ := segments?_eq_some_iff.mp hname
  exact Text.intercalate_split '.' (Text.trim name)

theorem ne_nil_of_segments? (hname : segments? name = some path) : path ≠ [] := by
  obtain ⟨-, rfl⟩ := segments?_eq_some_iff.mp hname
  exact Text.split_ne_nil '.' (Text.trim name)

theorem isSegment_of_segments? (hname : segments? name = some path) :
    ∀ segment ∈ path, IsSegment segment := by
  obtain ⟨⟨-, hfree⟩, rfl⟩ := segments?_eq_some_iff.mp hname
  intro segment hsegment
  refine ⟨?_, Text.notMem_of_mem_split hsegment⟩
  rintro rfl
  exact hfree hsegment

theorem dotted_inj (hpath : path ≠ []) (hsegments : ∀ segment ∈ path, IsSegment segment)
    (hother : other ≠ []) (hothers : ∀ segment ∈ other, IsSegment segment)
    (heq : dotted path = dotted other) : path = other := by
  have hsplit : Text.split '.' (dotted path) = path :=
    Text.split_intercalate hpath fun segment hsegment ↦ (hsegments segment hsegment).2
  have hsplit' : Text.split '.' (dotted other) = other :=
    Text.split_intercalate hother fun segment hsegment ↦ (hothers segment hsegment).2
  rw [← hsplit, heq, hsplit']

/-! ### One attempt to register -/

/-- The paths of all handlers, in the order of the tree. -/
def paths (r : HandlerRegistry φ) : List (List String) := levelPaths [] r.root

/-- What an attempt to register answers, and the registry it leaves. -/
inductive Registers (r : HandlerRegistry φ) (name : String) (h : φ) :
    Except RegistryError Unit × HandlerRegistry φ → Prop
  | refused : segments? name = none → Registers r name h (.error (.invalidName name), r)
  | blocked {path : List String} {obstacle : Obstacle} : segments? name = some path →
    Blocked [] path r.root obstacle → Registers r name h (.error (obstacle.toError name), r)
  | done {path : List String} {root : List (String × Node φ)} : segments? name = some path →
    Placed h path r.root root → Registers r name h (.ok (), ⟨root⟩)

theorem registers (hr : LevelGrown r.root) (name : String) (h : φ) :
    Registers r name h (r.register name h) := by
  rw [register]
  cases hname : segments? name with
  | none => exact .refused hname
  | some path =>
    dsimp only
    rcases placed_or_blocked h hr (ne_nil_of_segments? hname) [] with
      ⟨root, hplace, hplaced⟩ | ⟨obstacle, hplace, hblocked⟩
    · rw [hplace]
      exact .done hname hplaced
    · rw [hplace]
      exact .blocked hname hblocked

/-- The registered path that a path runs into, and how the conflict names it: by the path itself
where it is a part of the new one, and as a namespace where the new one is a part of it. -/
inductive Clash (m : List String → Option φ) (path : List String) : String → Prop
  | through {other : List String} : (m other).isSome = true → other <+: path → other ≠ path →
    Clash m path (dotted other)
  | onto {other : List String} : (m other).isSome = true → path <+: other → path ≠ other →
    Clash m path (dotted path ++ " (namespace)")

theorem Blocked.clash (name : String) {obstacle : Obstacle}
    (hblocked : Blocked [] path r.root obstacle) :
    ∃ existing, obstacle.toError name = .conflict name existing ∧
      Clash (lookup · r.root) path existing := by
  cases hblocked with
  | through hother hstarts hne => exact ⟨_, rfl, .through hother hstarts hne⟩
  | onto hother hstarts hne => exact ⟨_, rfl, .onto hother hstarts hne⟩

theorem eq_of_prefix_of_prefix (hstarts : path <+: other) (hstarts' : other <+: path) :
    path = other :=
  hstarts.eq_of_length_le hstarts'.length_le

/-- Only one path can be run into, as no registered path is a part of another one. -/
theorem Clash.unique {existing existing' : String}
    (hclash : Clash (lookup · r.root) path existing)
    (hclash' : Clash (lookup · r.root) path existing') : existing = existing' := by
  have hmixed {first second : List String} (hfirst : (lookup first r.root).isSome = true)
      (hsecond : (lookup second r.root).isSome = true) (hto : first <+: path)
      (hfrom : path <+: second) : first = path := by
    have hsame := eq_of_prefix_of_lookup hfirst hsecond (hto.trans hfrom)
    rw [← hsame] at hfrom
    exact eq_of_prefix_of_prefix hto hfrom
  cases hclash with
  | @through first hfirst hto hne =>
    cases hclash' with
    | @through second hsecond hto' hne' =>
      rcases List.prefix_or_prefix_of_prefix hto hto' with hstarts | hstarts
      · rw [eq_of_prefix_of_lookup hfirst hsecond hstarts]
      · rw [eq_of_prefix_of_lookup hsecond hfirst hstarts]
    | onto hsecond hfrom _ => exact absurd (hmixed hfirst hsecond hto hfrom) hne
  | onto hfirst hfrom _ =>
    cases hclash' with
    | through hsecond hto hne => exact absurd (hmixed hsecond hfirst hto hfrom) hne
    | onto _ _ _ => rfl

theorem Placed.not_clash {root : List (String × Node φ)} (hplaced : Placed h path r.root root)
    (existing : String) : ¬ Clash (HandlerRegistry.lookup · r.root) path existing := by
  intro hclash
  cases hclash with
  | through hother hstarts hne => exact hne (hplaced.eq_of_prefix hother (.inl hstarts))
  | onto hother hstarts hne => exact hne (hplaced.eq_of_prefix hother (.inr hstarts)).symm

/-! ### Histories -/

/-- The registry that attempts to register leave behind, told from the last one to the first. -/
def after : List (String × φ) → HandlerRegistry φ
  | [] => empty
  | (name, h) :: earlier => ((after earlier).register name h).2

/-- The handler of the last attempt under a path that succeeded. -/
def lastUnder (path : List String) : List (String × φ) → Option φ
  | [] => none
  | (name, h) :: earlier =>
    if segments? name = some path ∧ ((after earlier).register name h).1.isOk = true then some h
    else lastUnder path earlier

/-- A registry that grew from nothing and in which a map tells what is found. -/
structure Holds (r : HandlerRegistry φ) (m : List String → Option φ) : Prop where
  grown : LevelGrown r.root
  lookup : ∀ path, HandlerRegistry.lookup path r.root = m path

theorem holds_empty : Holds (empty : HandlerRegistry φ) fun _ ↦ none :=
  ⟨levelGrown_nil, lookup_empty⟩

/-- An attempt to register changes the map at its path if it succeeds, and not at all if it
fails. -/
theorem holds_register (hr : Holds r m) (name : String) (h : φ) :
    Holds (r.register name h).2 fun path ↦
      if segments? name = some path ∧ (r.register name h).1.isOk = true then some h
      else m path := by
  have hregisters := registers hr.grown name h
  generalize r.register name h = result at hregisters
  cases hregisters with
  | refused hname => simpa [hname] using hr
  | blocked hname hblocked => simpa [Except.isOk, Except.toBool] using hr
  | @done path root hname hplaced =>
    refine ⟨hplaced.grown hr.grown (isSegment_of_segments? hname), fun other ↦ ?_⟩
    have hlookup := hplaced.lookup other
    rw [hr.lookup other] at hlookup
    simpa [hname, Except.isOk, Except.toBool, eq_comm] using hlookup

theorem holds_after (history : List (String × φ)) :
    Holds (after history) (lastUnder · history) := by
  induction history with
  | nil => exact holds_empty
  | cons attempt earlier ih => exact holds_register ih attempt.1 attempt.2

/-! ### Answers -/

/-- A registry that answers as a map from paths to handlers does. Registering is refused exactly for
a name of no path, and for a path that is a proper part of a registered one, or has a registered one
as a proper part; then the registry stays as it is. Otherwise exactly the path of the name is set.
A name resolves to what the map has under its path. The names that are listed are those of the paths
in the map, each once, and the registry is empty exactly if none is listed. -/
structure AnswersAs (r : HandlerRegistry φ) (m : List String → Option φ) : Prop where
  invalidName : ∀ name h, (r.register name h).1 = .error (.invalidName name) ↔
    Text.trim name = "" ∨ "" ∈ Text.split '.' (Text.trim name)
  conflict : ∀ name h existing, (r.register name h).1 = .error (.conflict name existing) ↔
    ∃ path, segments? name = some path ∧ ∃ other, (m other).isSome = true ∧
      ((other <+: path ∧ other ≠ path ∧ existing = dotted other) ∨
        (path <+: other ∧ path ≠ other ∧ existing = dotted path ++ " (namespace)"))
  failed : ∀ name h e, (r.register name h).1 = .error e → (r.register name h).2 = r ∧
    (e = .invalidName name ∨ ∃ existing, e = .conflict name existing)
  done : ∀ name h, (r.register name h).1 = .ok () → ∃ path, segments? name = some path ∧
    (∀ other, (r.register name h).2.resolve? other =
      if segments? other = some path then some h else r.resolve? other) ∧
    ∀ other, other ∈ (r.register name h).2.paths ↔ other = path ∨ other ∈ r.paths
  resolve : ∀ name, r.resolve? name = (segments? name).bind m
  paths : ∀ path, path ∈ r.paths ↔ (m path).isSome = true
  names : r.names = r.paths.map dotted ∧ r.names.Nodup ∧
    ∀ name path, segments? name = some path → (Text.trim name ∈ r.names ↔ path ∈ r.paths)
  isEmpty : r.isEmpty = true ↔ r.size = 0

theorem clash_iff {existing : String} : Clash m path existing ↔
    ∃ other, (m other).isSome = true ∧
      ((other <+: path ∧ other ≠ path ∧ existing = dotted other) ∨
        (path <+: other ∧ path ≠ other ∧ existing = dotted path ++ " (namespace)")) := by
  constructor
  · intro hclash
    cases hclash with
    | through hother hstarts hne => exact ⟨_, hother, .inl ⟨hstarts, hne, rfl⟩⟩
    | onto hother hstarts hne => exact ⟨_, hother, .inr ⟨hstarts, hne, rfl⟩⟩
  · rintro ⟨other, hother, ⟨hstarts, hne, rfl⟩ | ⟨hstarts, hne, rfl⟩⟩
    · exact .through hother hstarts hne
    · exact .onto hother hstarts hne

section Answers

variable (hr : LevelGrown r.root)
include hr

theorem register_eq_invalidName_iff (name : String) (h : φ) :
    (r.register name h).1 = .error (.invalidName name) ↔ segments? name = none := by
  have hregisters := registers hr name h
  generalize r.register name h = result at hregisters
  cases hregisters with
  | refused hname => simp [hname]
  | blocked hname hblocked =>
    obtain ⟨existing, herror, -⟩ := hblocked.clash name
    simp [hname, herror]
  | done hname _ => simp [hname]

theorem register_eq_conflict_iff (name : String) (h : φ) (existing : String) :
    (r.register name h).1 = .error (.conflict name existing) ↔
      ∃ path, segments? name = some path ∧ Clash (lookup · r.root) path existing := by
  have hregisters := registers hr name h
  generalize r.register name h = result at hregisters
  cases hregisters with
  | refused hname => simp [hname]
  | @blocked path obstacle hname hblocked =>
    obtain ⟨existing', herror, hclash⟩ := hblocked.clash name
    rw [herror, hname]
    constructor
    · intro heq
      cases heq
      exact ⟨path, rfl, hclash⟩
    · rintro ⟨_, ⟨⟩, hclash'⟩
      rw [hclash.unique hclash']
  | @done path root hname hplaced =>
    rw [hname]
    constructor
    · nofun
    · rintro ⟨_, ⟨⟩, hclash⟩
      exact absurd hclash (hplaced.not_clash existing)

theorem register_of_error (name : String) (h : φ) {e : RegistryError}
    (herror : (r.register name h).1 = .error e) : (r.register name h).2 = r ∧
      (e = .invalidName name ∨ ∃ existing, e = .conflict name existing) := by
  have hregisters := registers hr name h
  generalize r.register name h = result at hregisters herror
  cases hregisters with
  | refused _ =>
    cases herror
    exact ⟨rfl, .inl rfl⟩
  | blocked _ hblocked =>
    cases herror
    obtain ⟨existing, herror, -⟩ := hblocked.clash name
    exact ⟨rfl, .inr ⟨existing, herror⟩⟩
  | done _ _ => cases herror

theorem register_of_ok (name : String) (h : φ) (hok : (r.register name h).1 = .ok ()) :
    ∃ path, segments? name = some path ∧
      (∀ other, (r.register name h).2.resolve? other =
        if segments? other = some path then some h else r.resolve? other) ∧
      ∀ other, other ∈ (r.register name h).2.paths ↔ other = path ∨ other ∈ r.paths := by
  have hregisters := registers hr name h
  generalize r.register name h = result at hregisters hok
  cases hregisters with
  | refused _ => cases hok
  | blocked _ _ => cases hok
  | @done path root hname hplaced =>
    have hroot : LevelGrown root := hplaced.grown hr (isSegment_of_segments? hname)
    refine ⟨path, hname, fun other ↦ ?_, fun other ↦ ?_⟩
    · rw [resolve?, resolve?]
      cases hother : segments? other with
      | none => simp
      | some segments => simp [hplaced.lookup segments]
    · rw [paths, paths, hroot.mem_levelPaths, hr.mem_levelPaths, hplaced.lookup other]
      by_cases heq : other = path <;> simp [heq]

theorem mem_paths_iff (path : List String) :
    path ∈ r.paths ↔ (lookup path r.root).isSome = true := hr.mem_levelPaths path

theorem dotted_inj_of_mem (hpath : path ∈ r.paths) (hother : other ∈ r.paths)
    (heq : dotted path = dotted other) : path = other := by
  rw [mem_paths_iff hr] at hpath hother
  exact dotted_inj (ne_nil_of_lookup hpath) (hr.isSegment_of_lookup hpath)
    (ne_nil_of_lookup hother) (hr.isSegment_of_lookup hother) heq

theorem nodup_names : r.names.Nodup := by
  have hpaths : r.paths.Nodup := hr.nodup_levelPaths
  refine List.pairwise_map.mpr (hpaths.imp_of_mem fun hpath hother hne heq ↦ ?_)
  exact hne (dotted_inj_of_mem hr hpath hother heq)

theorem trim_mem_names_iff (hname : segments? name = some path) :
    Text.trim name ∈ r.names ↔ path ∈ r.paths := by
  rw [← dotted_of_segments? hname]
  constructor
  · intro hmem
    obtain ⟨other, hother, heq⟩ := List.mem_map.mp hmem
    have hlookup := (mem_paths_iff hr other).mp hother
    have hsame : other = path := dotted_inj (ne_nil_of_lookup hlookup)
      (hr.isSegment_of_lookup hlookup) (ne_nil_of_segments? hname) (isSegment_of_segments? hname)
      heq
    rw [← hsame]
    exact hother
  · exact fun hpath ↦ List.mem_map.mpr ⟨path, hpath, rfl⟩

theorem isEmpty_iff_size : r.isEmpty = true ↔ r.size = 0 := by
  rw [isEmpty, size, names, List.length_map, List.length_eq_zero_iff, hr.levelPaths_eq_nil_iff,
    List.isEmpty_iff]

end Answers

theorem Holds.answersAs (hr : Holds r m) : AnswersAs r m := by
  have hm : (HandlerRegistry.lookup · r.root) = m := funext hr.lookup
  refine ⟨fun name h ↦ ?_, fun name h existing ↦ ?_,
    fun name h e ↦ register_of_error hr.grown name h,
    fun name h ↦ register_of_ok hr.grown name h, fun name ↦ ?_, fun path ↦ ?_,
    ⟨rfl, nodup_names hr.grown, fun name path ↦ trim_mem_names_iff hr.grown⟩,
    isEmpty_iff_size hr.grown⟩
  · rw [register_eq_invalidName_iff hr.grown, segments?_eq_none_iff]
  · rw [register_eq_conflict_iff hr.grown, hm]
    simp only [clash_iff]
  · rw [resolve?, hm]
  · rw [mem_paths_iff hr.grown, hr.lookup]

/-- After any attempts to register, some of which succeeded and some of which failed, a registry
answers as the map does that has, under each path, the handler of the last attempt under it that
succeeded. -/
theorem after_answersAs_lastUnder (history : List (String × φ)) :
    AnswersAs (after history) (lastUnder · history) :=
  (holds_after history).answersAs

/-- Of four attempts, the second fails for the first one's path and the last replaces the third. -/
example : (after [("a.c", 4), ("a.c", 3), ("a.b.c", 2), (" a.b", 1)]).names = ["a.b", "a.c"] ∧
    (after [("a.c", 4), ("a.c", 3), ("a.b.c", 2), (" a.b", 1)]).resolve? "a.c " = some 4 := by
  decide

end SchemaRouting.HandlerRegistry
