import Mathlib.Tactic.SplitIfs
import SchemaRouting.Path.Join
import SchemaRouting.Proofs.Text.Joining

/-!
# Joined paths

A joined path is made of kept segments (`IsKept`), none of which is empty or holds a slash
(`isKept_of_mem_joined`). So it is absolute exactly if the base is, or the base is empty and the
suffix is (`isAbsolute_join_iff`, `StartsAtRoot`). An absolute path is one whose first segment is
empty and not its only one (`isAbsolute_iff_segments`).
-/

set_option autoImplicit false
set_option relaxedAutoImplicit false

namespace SchemaRouting.Path

variable {base suffix path segment : String}

/-! ### Segments -/

theorem segments_ne_nil (path : String) : segments path ≠ [] := Text.split_ne_nil '/' path

theorem slash_notMem_of_mem_segments (h : segment ∈ segments path) : '/' ∉ segment.toList :=
  Text.notMem_of_mem_split h

/-- Assumes: at least one part, and no part that holds a slash. -/
theorem segments_intercalate {parts : List String} (hne : parts ≠ [])
    (hfree : ∀ part ∈ parts, '/' ∉ part.toList) :
    segments (String.intercalate "/" parts) = parts :=
  Text.split_intercalate hne hfree

theorem intercalate_segments (path : String) : String.intercalate "/" (segments path) = path :=
  Text.intercalate_split '/' path

theorem isAbsolute_intercalate_iff {first : String} {rest : List String}
    (hfree : '/' ∉ first.toList) :
    isAbsolute (String.intercalate "/" (first :: rest)) = true ↔ first = "" ∧ rest ≠ [] := by
  rw [isAbsolute, decide_eq_true_eq, ← String.toList_eq_nil_iff]
  cases rest with
  | nil =>
    rw [String.intercalate_singleton]
    constructor
    · intro hslash
      exact absurd (List.mem_of_head? hslash) hfree
    · rintro ⟨-, hne⟩
      exact absurd rfl hne
  | cons second rest =>
    rw [String.intercalate_cons_cons, String.toList_append, String.toList_append]
    cases hfirst : first.toList with
    | nil => simp
    | cons c cs =>
      rw [hfirst] at hfree
      simp only [List.cons_append, List.head?_cons, Option.some.injEq]
      constructor
      · rintro rfl
        exact absurd List.mem_cons_self hfree
      · rintro ⟨hnil, -⟩
        cases hnil

theorem isAbsolute_iff_segments :
    isAbsolute path = true ↔ ∃ rest, segments path = "" :: rest ∧ rest ≠ [] := by
  obtain ⟨first, rest, hsegments⟩ := List.exists_cons_of_ne_nil (segments_ne_nil path)
  have hmem : first ∈ segments path := by
    rw [hsegments]
    exact List.mem_cons_self
  have habsolute : isAbsolute (String.intercalate "/" (first :: rest)) = true ↔
      first = "" ∧ rest ≠ [] :=
    isAbsolute_intercalate_iff (slash_notMem_of_mem_segments hmem)
  rw [← hsegments, intercalate_segments] at habsolute
  rw [habsolute, hsegments]
  constructor
  · rintro ⟨rfl, hrest⟩
    exact ⟨rest, rfl, hrest⟩
  · rintro ⟨rest', hsame, hrest⟩
    cases hsame
    exact ⟨rfl, hrest⟩

/-! ### Segments that are kept -/

/-- A segment that stays on the stack of a joined path: it has characters, is no dot segment, and
holds no slash. -/
structure IsKept (segment : String) : Prop where
  ne_empty : segment ≠ ""
  ne_dot : segment ≠ "."
  ne_dotDot : segment ≠ ".."
  slash_notMem : '/' ∉ segment.toList

theorem isKept_of_mem_keep {kept : List String} {read : String} (hkept : ∀ s ∈ kept, IsKept s)
    (hread : '/' ∉ read.toList) (h : segment ∈ keep kept read) : IsKept segment := by
  rw [keep] at h
  split_ifs at h with hdropped hup
  · exact hkept segment h
  · exact hkept segment (List.dropLast_subset kept h)
  · rcases List.mem_append.mp h with hold | hnew
    · exact hkept segment hold
    · rw [List.mem_singleton.mp hnew]
      exact ⟨fun heq ↦ hdropped (.inl heq), fun heq ↦ hdropped (.inr heq), hup, hread⟩

/-- Reading more segments keeps the stack as it must be. -/
theorem isKept_of_mem_resolve {kept read : List String} (hkept : ∀ s ∈ kept, IsKept s)
    (hread : ∀ s ∈ read, '/' ∉ s.toList) (h : segment ∈ resolve kept read) : IsKept segment := by
  induction read generalizing kept with
  | nil => exact hkept segment h
  | cons first rest ih =>
    have hfirst : ∀ s ∈ keep kept first, IsKept s := fun s hs ↦
      isKept_of_mem_keep hkept (hread first List.mem_cons_self) hs
    exact ih hfirst (fun s hs ↦ hread s (List.mem_cons_of_mem first hs)) h

/-- The segments that are kept of a base and a suffix. -/
def joined (base suffix : String) : List String :=
  resolve (resolve [] (segments base)) (segments suffix)

theorem isKept_of_mem_joined (h : segment ∈ joined base suffix) : IsKept segment := by
  have hbase : ∀ s ∈ resolve [] (segments base), IsKept s := fun s hs ↦
    isKept_of_mem_resolve (fun _ h ↦ absurd h List.not_mem_nil)
      (fun _ ↦ slash_notMem_of_mem_segments) hs
  exact isKept_of_mem_resolve hbase (fun _ ↦ slash_notMem_of_mem_segments) h

/-! ### Which joined paths are absolute -/

/-- The base and the suffix of a path that begins with a slash. -/
def StartsAtRoot (base suffix : String) : Prop :=
  isAbsolute base = true ∨ base = "" ∧ isAbsolute suffix = true

instance : Decidable (StartsAtRoot base suffix) :=
  inferInstanceAs (Decidable (isAbsolute base = true ∨ base = "" ∧ isAbsolute suffix = true))

theorem join_eq (base suffix : String) :
    join base suffix =
      if StartsAtRoot base suffix then "/" ++ String.intercalate "/" (joined base suffix)
      else String.intercalate "/" (joined base suffix) := by
  have hiff : (isAbsolute base || (base.isEmpty && isAbsolute suffix)) = true ↔
      StartsAtRoot base suffix := by
    simp [StartsAtRoot]
  simp only [join, hiff, joined]

/-- Kept segments are joined to a relative path. -/
theorem isAbsolute_intercalate_joined (base suffix : String) :
    isAbsolute (String.intercalate "/" (joined base suffix)) = false := by
  cases hjoined : joined base suffix with
  | nil => rfl
  | cons first rest =>
    have hfirst : IsKept first := isKept_of_mem_joined (by rw [hjoined]; exact List.mem_cons_self)
    rw [← Bool.not_eq_true, isAbsolute_intercalate_iff hfirst.slash_notMem]
    rintro ⟨hempty, -⟩
    exact hfirst.ne_empty hempty

theorem isAbsolute_join_iff : isAbsolute (join base suffix) = true ↔ StartsAtRoot base suffix := by
  rw [join_eq]
  by_cases hroot : StartsAtRoot base suffix
  · rw [if_pos hroot]
    simp [isAbsolute, hroot]
  · rw [if_neg hroot, isAbsolute_intercalate_joined]
    simp [hroot]

end SchemaRouting.Path
