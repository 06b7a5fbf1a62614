import Mathlib.Data.Char
import SchemaRouting.Http.MediaType
import SchemaRouting.Proofs.Text.Trimming

/-!
# Spellings of a media type

A content type names a media type if it has its letters, in any case, with white space around them
or not, and after that ends or goes on with a semicolon and anything (`Names`). Reading the media
type of a content type undoes just that (`mediaType_eq_iff`): what stands before the first semicolon
is the letters within white space, and the letters in lower case are those of the media type.
-/

set_option autoImplicit false
set_option relaxedAutoImplicit false

namespace SchemaRouting.Http

variable {contentType m : String}

/-- A content type names a media type. -/
def Names (contentType m : String) : Prop :=
  ∃ front letters back parameters : List Char,
    contentType.toList = front ++ letters ++ back ++ parameters ∧
    (∀ c ∈ front, Text.isBlank c = true) ∧ (∀ c ∈ back, Text.isBlank c = true) ∧
    letters.map Char.toLower = m.toList ∧ (parameters = [] ∨ parameters.head? = some ';')

theorem toLower_of_isBlank {c : Char} (h : Text.isBlank c = true) : c.toLower = c := by
  refine dif_neg ?_
  rintro ⟨hlow, hhigh⟩
  have hlow' : 65 ≤ c.toNat := hlow
  have hhigh' : c.toNat ≤ 90 := hhigh
  simp [Text.isBlank] at h
  omega

/-- What is left of a content type at its first semicolon. -/
theorem beforeSemicolon_of_names {cs parameters : List Char} (hcs : ';' ∉ cs)
    (hparameters : parameters = [] ∨ parameters.head? = some ';')
    (h : contentType.toList = cs ++ parameters) :
    (beforeSemicolon contentType).toList = cs := by
  have hfirst : parameters.takeWhile (· ≠ ';') = [] := by
    cases parameters with
    | nil => rfl
    | cons c parameters =>
      obtain rfl : c = ';' := by simpa using hparameters
      rfl
  rw [beforeSemicolon, String.toList_ofList, h, List.takeWhile_append_of_pos, hfirst,
    List.append_nil]
  intro c hc
  exact decide_eq_true (ne_of_mem_of_not_mem hc hcs)

/-- Letters that are those of a text without white space and semicolons, but for their case, have
neither themselves. -/
theorem plain_of_map_toLower {letters cs : List Char} (h : letters.map Char.toLower = cs)
    (hcs : ∀ c ∈ cs, Text.isBlank c = false ∧ c ≠ ';') {c : Char} (hc : c ∈ letters) :
    Text.isBlank c = false ∧ c ≠ ';' := by
  obtain ⟨hblank, hne⟩ := hcs c.toLower (h ▸ List.mem_map_of_mem hc)
  constructor
  · cases hb : Text.isBlank c with
    | false => rfl
    | true =>
      rw [toLower_of_isBlank hb, hb] at hblank
      exact hblank
  · rintro rfl
    exact hne rfl

/-- Assumes: a media type without white space and semicolons. -/
theorem mediaType_eq_iff (hm : (m.toList.all fun c ↦ !Text.isBlank c && c != ';') = true) :
    mediaType contentType = m ↔ Names contentType m := by
  have hm : ∀ c ∈ m.toList, Text.isBlank c = false ∧ c ≠ ';' := by simpa using hm
  constructor
  · intro h
    obtain ⟨front, back, hsplit, hfront, hback⟩ :=
      Text.exists_trimChars_split (beforeSemicolon contentType).toList
    refine ⟨front, Text.trimChars (beforeSemicolon contentType).toList, back,
      contentType.toList.dropWhile (· ≠ ';'), ?_, hfront, hback, ?_, ?_⟩
    · rw [← hsplit, beforeSemicolon, String.toList_ofList, List.takeWhile_append_dropWhile]
    · rw [← h, mediaType, Text.lower, Text.trim, String.toList_ofList, String.toList_ofList]
    · have hhead := List.head?_dropWhile_not (fun c : Char ↦ decide (c ≠ ';')) contentType.toList
      cases hrest : contentType.toList.dropWhile (· ≠ ';') with
      | nil => exact .inl rfl
      | cons c rest =>
        rw [hrest] at hhead
        exact .inr (by simpa using hhead)
  · rintro ⟨front, letters, back, parameters, hsplit, hfront, hback, hletters, hparameters⟩
    have hplain : ∀ c ∈ letters, Text.isBlank c = false ∧ c ≠ ';' :=
      fun c ↦ plain_of_map_toLower hletters hm
    have hsemicolon : ';' ∉ front ++ letters ++ back := by
      have hnotBlank : Text.isBlank ';' = false := rfl
      intro hmem
      rcases List.mem_append.mp hmem with hmem | hmem
      · rcases List.mem_append.mp hmem with hmem | hmem
        · exact absurd (hfront _ hmem) (by simp [hnotBlank])
        · exact (hplain _ hmem).2 rfl
      · exact absurd (hback _ hmem) (by simp [hnotBlank])
    rw [mediaType, Text.lower, Text.trim, String.toList_ofList,
      beforeSemicolon_of_names hsemicolon hparameters hsplit,
      Text.trimChars_between hfront hback fun c hc ↦ (hplain c hc).1, hletters,
      String.ofList_toList]

/-- A media type is named in capitals, within white space and with parameters. -/
example : Names "\tApplication/JSON ; charset=utf-8" jsonType :=
  (mediaType_eq_iff rfl).mp rfl

end SchemaRouting.Http
