import Mathlib.Data.List.TakeWhile
import SchemaRouting.Text.Blank

/-!
# Trimming

White space around a text has no part in what is left when the text is trimmed (`trimChars_padded`,
`trim_padded`), and every text is what trimming leaves of it with white space around that
(`exists_trimChars_split`).
-/

set_option autoImplicit false
set_option relaxedAutoImplicit false

namespace SchemaRouting.Text

variable {cs front back : List Char}

theorem trimChars_padded (hfront : ∀ c ∈ front, isBlank c = true)
    (hback : ∀ c ∈ back, isBlank c = true) (cs : List Char) :
    trimChars (front ++ cs ++ back) = trimChars cs := by
  rw [trimChars, trimChars, List.append_assoc, List.dropWhile_append_of_pos hfront,
    List.dropWhile_append]
  split
  · -- Nothing but white space stands between the two ends.
    rename_i hblank
    rw [List.isEmpty_iff.mp hblank, List.dropWhile_eq_nil_iff.mpr hback]
  · have hend : ∀ c ∈ back.reverse, isBlank c = true := fun c hc ↦ hback c (List.mem_reverse.mp hc)
    rw [List.reverse_append, List.dropWhile_append_of_pos hend]

/-- What stands without white space between white space is what trimming leaves. -/
theorem trimChars_between (hfront : ∀ c ∈ front, isBlank c = true)
    (hback : ∀ c ∈ back, isBlank c = true) (h : ∀ c ∈ cs, isBlank c = false) :
    trimChars (front ++ cs ++ back) = cs := by
  have hstart : cs.dropWhile isBlank = cs :=
    dropWhile_isBlank_of_head fun c hc ↦ h c (List.mem_of_head? hc)
  have hend : cs.reverse.dropWhile isBlank = cs.reverse :=
    dropWhile_isBlank_of_head fun c hc ↦ h c (List.mem_reverse.mp (List.mem_of_head? hc))
  rw [trimChars_padded hfront hback, trimChars, hstart, hend, List.reverse_reverse]

/-- Characters are what trimming leaves of them between white space. -/
theorem exists_trimChars_split (cs : List Char) : ∃ front back, cs = front ++ trimChars cs ++ back ∧
    (∀ c ∈ front, isBlank c = true) ∧ ∀ c ∈ back, isBlank c = true := by
  refine ⟨cs.takeWhile isBlank, ((cs.dropWhile isBlank).reverse.takeWhile isBlank).reverse,
    ?_, ?_, ?_⟩
  · rw [List.append_assoc, trimChars, ← List.reverse_append, List.takeWhile_append_dropWhile,
      List.reverse_reverse, List.takeWhile_append_dropWhile]
  · exact fun c hc ↦ List.mem_takeWhile_imp hc
  · exact fun c hc ↦ List.mem_takeWhile_imp (List.mem_reverse.mp hc)

/-- Texts of white space around a text. -/
theorem trim_padded {front back : String} (hfront : ∀ c ∈ front.toList, isBlank c = true)
    (hback : ∀ c ∈ back.toList, isBlank c = true) (s : String) :
    trim (front ++ s ++ back) = trim s := by
  rw [trim, trim, String.toList_append, String.toList_append, trimChars_padded hfront hback]

end SchemaRouting.Text
