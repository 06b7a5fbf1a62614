import SchemaRouting.Text.Split

/-!
# Splitting and joining

Joining the parts of a text with the separator between them gives the text back
(`intercalate_split`), and splitting joined parts gives the parts back if none of them holds the
separator (`split_intercalate`).
-/

set_option autoImplicit false
set_option relaxedAutoImplicit false

namespace SchemaRouting.Text

variable {sep : Char}

theorem splitChars_eq_splitOn (sep : Char) (cs : List Char) :
    splitChars sep cs = cs.splitOn sep := by
  induction cs with
  | nil => simp [splitChars]
  | cons c cs ih =>
    by_cases h : c = sep
    · subst h
      rw [splitChars, if_pos rfl, ih]
      simp [List.splitOn, List.splitOnP_cons_eq_if_modifyHead]
    · have hne : cs.splitOn sep ≠ [] := List.splitOn_ne_nil sep cs
      rw [splitChars, if_neg h, ih]
      simp only [List.splitOn, List.splitOnP_cons_eq_if_modifyHead, beq_iff_eq, h,
        if_false] at hne ⊢
      cases hparts : List.splitOnP (fun d ↦ d == sep) cs with
      | nil => exact absurd hparts hne
      | cons part parts => rfl

theorem intercalate_split (sep : Char) (s : String) :
    String.intercalate (String.singleton sep) (split sep s) = s := by
  rw [← String.toList_inj, String.toList_intercalate, split, List.map_map]
  have hparts : (splitChars sep s.toList).map (String.toList ∘ String.ofList) =
      splitChars sep s.toList := by
    simp [Function.comp_def]
  rw [hparts, splitChars_eq_splitOn, String.toList_singleton, List.intercalate_splitOn]

/-- Assumes: at least one part, and no part that holds the separator. -/
theorem split_intercalate {parts : List String} (hne : parts ≠ [])
    (hfree : ∀ part ∈ parts, sep ∉ part.toList) :
    split sep (String.intercalate (String.singleton sep) parts) = parts := by
  have hchars : ∀ part ∈ parts.map String.toList, sep ∉ part := by
    intro part hpart
    obtain ⟨text, htext, rfl⟩ := List.mem_map.mp hpart
    exact hfree text htext
  have hsplit := List.splitOn_intercalate sep hchars (by simpa using hne)
  rw [split, splitChars_eq_splitOn, String.toList_intercalate, String.toList_singleton, hsplit,
    List.map_map]
  simp [Function.comp_def]

theorem notMem_of_mem_split {s part : String} (h : part ∈ split sep s) : sep ∉ part.toList := by
  obtain ⟨chars, hchars, rfl⟩ := List.mem_map.mp h
  rw [String.toList_ofList]
  exact notMem_of_mem_splitChars hchars

theorem split_ne_nil (sep : Char) (s : String) : split sep s ≠ [] := by
  have hne := splitChars_ne_nil sep s.toList
  simpa [split] using hne

end SchemaRouting.Text
