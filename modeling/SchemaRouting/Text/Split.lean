/-!
Texts cut at a separator. There is always a part, and no part holds the separator.
-/

set_option autoImplicit false

namespace SchemaRouting.Text

/-- The parts between the separators; an empty text has one empty part. -/
def splitChars (sep : Char) : List Char → List (List Char)
  | [] => [[]]
  | c :: cs =>
    if c = sep then [] :: splitChars sep cs
    else match splitChars sep cs with
      | [] => [[c]]
      | part :: parts => (c :: part) :: parts

def split (sep : Char) (s : String) : List String :=
  (splitChars sep s.toList).map String.ofList

theorem splitChars_ne_nil (sep : Char) (cs : List Char) : splitChars sep cs ≠ [] := by
  cases cs with
  | nil => simp [splitChars]
  | cons c cs =>
    rw [splitChars]
    split
    · simp
    · split <;> simp

theorem notMem_of_mem_splitChars {sep : Char} {cs part : List Char}
    (h : part ∈ splitChars sep cs) : sep ∉ part := by
  induction cs generalizing part with
  | nil =>
    simp only [splitChars, List.mem_singleton] at h
    simp [h]
  | cons c cs ih =>
    by_cases hc : c = sep
    · rw [splitChars, if_pos hc] at h
      rcases List.mem_cons.mp h with h | h
      · simp [h]
      · exact ih h
    · rw [splitChars, if_neg hc] at h
      split at h
      · simp only [List.mem_singleton] at h
        subst h
        simpa using Ne.symm hc
      · rename_i first parts heq
        rcases List.mem_cons.mp h with h | h
        · subst h
          have hfirst : sep ∉ first := ih (by rw [heq]; exact List.mem_cons_self ..)
          simp [Ne.symm hc, hfirst]
        · exact ih (by rw [heq]; exact List.mem_cons_of_mem _ h)

end SchemaRouting.Text
