import Mathlib.Data.List.Basic
import Mathlib.Data.List.Induction
import SchemaRouting.Proofs.Path.Joining

/-!
# Paths as stacks of segments

Segments are read onto a stack (`Stacks`): what has no name is dropped, `..` takes the last segment
off, and on an empty stack it does nothing. A joined path is what the stack holds after the base and
the suffix (`parts_join`), with a slash before it or not. So it has nothing that would be dropped
when it is read again, and joining more to it goes on where the stack was
(`join_stacks_base_then_suffix`).
-/

set_option autoImplicit false
set_option relaxedAutoImplicit false

namespace SchemaRouting.Path

variable {base suffix path segment : String} {kept read : List String}

/-! ### The stack -/

/-- What is on the stack when segments have been read one after the other. -/
inductive Stacks : List String → List String → Prop
  | nil : Stacks [] []
  | drop {read kept : List String} {segment : String} : Stacks read kept →
    segment = "" ∨ segment = "." → Stacks (read ++ [segment]) kept
  | up {read kept : List String} {last : String} : Stacks read (kept ++ [last]) →
    Stacks (read ++ [".."]) kept
  | upFromNone {read : List String} : Stacks read [] → Stacks (read ++ [".."]) []
  | push {read kept : List String} {segment : String} : Stacks read kept → segment ≠ "" →
    segment ≠ "." → segment ≠ ".." → Stacks (read ++ [segment]) (kept ++ [segment])

theorem resolve_concat (kept read : List String) (segment : String) :
    resolve kept (read ++ [segment]) = keep (resolve kept read) segment := by
  rw [resolve_append]
  rfl

theorem Stacks.resolve_eq (h : Stacks read kept) : resolve [] read = kept := by
  induction h with
  | nil => rfl
  | drop _ hdropped ih => rw [resolve_concat, ih, keep, if_pos hdropped]
  | up _ ih => rw [resolve_concat, ih, keep, if_neg (by decide), if_pos rfl, List.dropLast_concat]
  | upFromNone _ ih =>
    rw [resolve_concat, ih, keep, if_neg (by decide), if_pos rfl, List.dropLast_nil]
  | push _ hempty hdot hup ih =>
    rw [resolve_concat, ih, keep, if_neg (not_or.mpr ⟨hempty, hdot⟩), if_neg hup]

theorem stacks_resolve (read : List String) : Stacks read (resolve [] read) := by
  induction read using List.reverseRecOn with
  | nil => exact .nil
  | append_singleton read segment ih =>
    rw [resolve_concat, keep]
    split_ifs with hdropped hup
    · exact .drop ih hdropped
    · subst hup
      rcases List.eq_nil_or_concat' (resolve [] read) with hnone | ⟨kept, last, hlast⟩
      · rw [hnone] at ih ⊢
        exact .upFromNone ih
      · rw [hlast] at ih ⊢
        rw [List.dropLast_concat]
        exact .up ih
    · obtain ⟨hempty, hdot⟩ := not_or.mp hdropped
      exact .push ih hempty hdot hup

/-- Reading segments leaves one stack. -/
theorem stacks_iff : Stacks read kept ↔ kept = resolve [] read :=
  ⟨fun h ↦ h.resolve_eq.symm, fun h ↦ h ▸ stacks_resolve read⟩

/-- Kept segments go on the stack as they are. -/
theorem resolve_of_isKept (h : ∀ s ∈ read, IsKept s) (kept : List String) :
    resolve kept read = kept ++ read := by
  induction read generalizing kept with
  | nil => exact (List.append_nil kept).symm
  | cons first rest ih =>
    have hfirst : IsKept first := h first List.mem_cons_self
    have hkeep : keep kept first = kept ++ [first] := by
      rw [keep, if_neg (not_or.mpr ⟨hfirst.ne_empty, hfirst.ne_dot⟩), if_neg hfirst.ne_dotDot]
    calc resolve kept (first :: rest)
        = resolve (keep kept first) rest := rfl
      _ = keep kept first ++ rest := ih (fun s hs ↦ h s (List.mem_cons_of_mem first hs)) _
      _ = kept ++ first :: rest := by rw [hkeep, List.append_assoc, List.singleton_append]

/-! ### The parts of a path -/

/-- The segments of a path after the slash that it may begin with. A path with nothing else has
none. -/
def parts (path : String) : List String :=
  if path = "" ∨ path = "/" then []
  else if isAbsolute path then (segments path).tail
  else segments path

/-- The first slash alone puts nothing on the stack. -/
theorem resolve_parts (path : String) : resolve [] (parts path) = resolve [] (segments path) := by
  rw [parts]
  split_ifs with hbare habsolute
  · rcases hbare with rfl | rfl <;> rfl
  · obtain ⟨rest, hsegments, -⟩ := isAbsolute_iff_segments.mp habsolute
    rw [hsegments]
    rfl
  · rfl

theorem slash_append_intercalate (hne : kept ≠ []) :
    "/" ++ String.intercalate "/" kept = String.intercalate "/" ("" :: kept) := by
  obtain ⟨first, rest, rfl⟩ := List.exists_cons_of_ne_nil hne
  rw [String.intercalate_cons_cons, String.empty_append]

/-- A path that has kept segments, after a slash or not, has them as its parts. -/
theorem parts_of_segments (h : ∀ s ∈ kept, IsKept s) (hne : kept ≠ [])
    (hsegments : segments path = kept ∨ segments path = "" :: kept) : parts path = kept := by
  have hbare : ¬ (path = "" ∨ path = "/") := by
    have hempty : "" ∉ kept := fun hmem ↦ (h "" hmem).ne_empty rfl
    rintro (rfl | rfl)
    · have hone : segments "" = [""] := rfl
      rw [hone] at hsegments
      rcases hsegments with hsame | hsame
      · exact hempty (hsame ▸ List.mem_singleton_self "")
      · exact hne (List.cons.inj hsame).2.symm
    · have htwo : segments "/" = ["", ""] := rfl
      rw [htwo] at hsegments
      rcases hsegments with hsame | hsame
      · exact hempty (hsame ▸ List.mem_cons_self)
      · exact hempty ((List.cons.inj hsame).2 ▸ List.mem_singleton_self "")
  rw [parts, if_neg hbare]
  split_ifs with habsolute
  · obtain ⟨rest, hcons, -⟩ := isAbsolute_iff_segments.mp habsolute
    rcases hsegments with hsame | hsame
    · have hfirst : "" ∈ kept := by
        rw [← hsame, hcons]
        exact List.mem_cons_self
      exact absurd rfl (h "" hfirst).ne_empty
    · rw [hsame, List.tail_cons]
  · rcases hsegments with hsame | hsame
    · exact hsame
    · exact absurd (isAbsolute_iff_segments.mpr ⟨kept, hsame, hne⟩) habsolute

theorem parts_join (base suffix : String) : parts (join base suffix) = joined base suffix := by
  have hkept : ∀ s ∈ joined base suffix, IsKept s := fun _ ↦ isKept_of_mem_joined
  have hfree : ∀ s ∈ joined base suffix, '/' ∉ s.toList := fun s hs ↦ (hkept s hs).slash_notMem
  rw [join_eq]
  by_cases hne : joined base suffix = []
  · rw [hne]
    split_ifs <;> rfl
  · refine parts_of_segments hkept hne ?_
    split_ifs with hroot
    · right
      rw [slash_append_intercalate hne]
      refine segments_intercalate (List.cons_ne_nil _ _) fun s hs ↦ ?_
      rcases List.mem_cons.mp hs with rfl | hs
      · exact List.not_mem_nil
      · exact hfree s hs
    · exact .inl (segments_intercalate hne hfree)

theorem resolve_segments_join (base suffix : String) :
    resolve [] (segments (join base suffix)) = joined base suffix := by
  rw [← resolve_parts, parts_join, resolve_of_isKept (fun _ ↦ isKept_of_mem_joined) [],
    List.nil_append]

theorem joined_eq (base suffix : String) :
    joined base suffix = resolve [] (segments base ++ segments suffix) := by
  rw [joined, resolve_append]

/-- What is joined to a joined path goes on its stack. -/
theorem joined_join (base suffix more : String) : joined (join base suffix) more =
    resolve [] (segments base ++ segments suffix ++ segments more) := by
  rw [joined, resolve_segments_join, joined_eq, ← resolve_append]

theorem join_join_empty (base suffix : String) :
    join (join base suffix) "" = join base suffix := by
  have hsame : joined (join base suffix) "" = joined base suffix := by
    rw [joined, resolve_segments_join]
    rfl
  have hroot : StartsAtRoot (join base suffix) "" ↔ StartsAtRoot base suffix := by
    have hrelative : isAbsolute "" = false := rfl
    rw [StartsAtRoot, isAbsolute_join_iff, hrelative]
    simp
  rw [join_eq (join base suffix), hsame]
  simp only [hroot]
  exact (join_eq base suffix).symm

/-! ### The end of a path -/

/-- The path ends with a slash. -/
def EndsWithSlash (path : String) : Prop := path.toList.getLast? = some '/'

/-- The text after the last slash is the last segment. -/
theorem endsWithSlash_intercalate {front : List String} {last : String} (h : IsKept last) :
    ¬ EndsWithSlash (String.intercalate "/" (front ++ [last])) := by
  have hne : last.toList ≠ [] := fun hnil ↦ h.ne_empty (String.toList_eq_nil_iff.mp hnil)
  have hends :
      (String.intercalate "/" (front ++ [last])).toList.getLast? = last.toList.getLast? := by
    induction front with
    | nil => rw [List.nil_append, String.intercalate_singleton]
    | cons first rest ih =>
      obtain ⟨next, others, hcons⟩ := List.exists_cons_of_ne_nil
        (List.append_ne_nil_of_right_ne_nil rest (List.cons_ne_nil last []))
      rw [hcons] at ih
      rw [List.cons_append, hcons, String.intercalate_cons_cons, String.toList_append,
        List.getLast?_append, ih, List.getLast?_eq_some_getLast hne, Option.some_or]
  intro hslash
  rw [EndsWithSlash, hends] at hslash
  exact h.slash_notMem (List.mem_of_getLast? hslash)

theorem eq_slash_of_endsWithSlash_join (h : EndsWithSlash (join base suffix)) :
    join base suffix = "/" := by
  rcases List.eq_nil_or_concat' (joined base suffix) with hnone | ⟨front, last, hlast⟩
  · rw [join_eq, hnone] at h ⊢
    split_ifs at h ⊢ with hroot
    · rfl
    · cases h
  · have hkept : IsKept last := isKept_of_mem_joined (by rw [hlast]; simp)
    rw [join_eq, hlast] at h
    split_ifs at h with hroot
    · rw [slash_append_intercalate (by simp), ← List.cons_append] at h
      exact absurd h (endsWithSlash_intercalate hkept)
    · exact absurd h (endsWithSlash_intercalate hkept)

/-- A joined path has as its parts what the stack holds after the segments of the base and then
those of the suffix. None of them is empty or a dot segment, and no slash follows the last; a slash
goes before the first exactly if one does in the base, or in the suffix of an empty base. Joining
nothing to it leaves it as it is, and joining more reads on where the stack was. -/
theorem join_stacks_base_then_suffix (base suffix more : String) :
    (∀ segment ∈ parts (join base suffix), segment ≠ "" ∧ segment ≠ "." ∧ segment ≠ "..") ∧
    (EndsWithSlash (join base suffix) → join base suffix = "/") ∧
    (isAbsolute (join base suffix) = true ↔
      isAbsolute base = true ∨ base = "" ∧ isAbsolute suffix = true) ∧
    (∀ kept, Stacks (segments base ++ segments suffix) kept ↔ kept = parts (join base suffix)) ∧
    join (join base suffix) "" = join base suffix ∧
    ∀ kept, Stacks (segments base ++ segments suffix ++ segments more) kept ↔
      kept = parts (join (join base suffix) more) := by
  refine ⟨fun segment hsegment ↦ ?_, eq_slash_of_endsWithSlash_join, isAbsolute_join_iff,
    fun kept ↦ ?_, join_join_empty base suffix, fun kept ↦ ?_⟩
  · rw [parts_join] at hsegment
    have hkept := isKept_of_mem_joined hsegment
    exact ⟨hkept.ne_empty, hkept.ne_dot, hkept.ne_dotDot⟩
  · rw [parts_join, joined_eq, stacks_iff]
  · rw [parts_join, joined_join, stacks_iff]

-- A suffix may lead out of its base, but not out of the root.
example : join "/houses/:house" "../../../lamps/./:lamp/" = "/lamps/:lamp" ∧
    join (join "houses" "..") "/lamps" = "/lamps" := by decide

end SchemaRouting.Path
