import Mathlib.Data.Char
import Mathlib.Tactic.ByContra
import Mathlib.Tactic.SplitIfs
import SchemaRouting.Text.Split

/-!
# The order of texts

Texts are in the order of their characters, and that is the order of their UTF-8 bytes
(`lt_iff_bytes_lt`): the first byte of a character tells how many follow it and grows with that
number, and of two characters of as many bytes the lesser has the lesser bytes, whatever comes after
them (`utf8EncodeChar_append_lt`).

Split at a separator, texts can be compared part by part. That is the same order but for one case:
where the one text ends a part and the other goes on with a character below the separator, they are
in the one order as texts and in the other part by part (`lt_or_cutShort`, `CutShort.lt`).
-/

set_option autoImplicit false
set_option relaxedAutoImplicit false

namespace SchemaRouting.Text

/-! ### Bytes -/

/-- The UTF-8 bytes of characters. -/
def charBytes (cs : List Char) : List UInt8 := cs.flatMap String.utf8EncodeChar

/-- The UTF-8 bytes of a text. -/
def bytes (s : String) : List UInt8 := s.toByteArray.data.toList

theorem bytes_eq_charBytes (s : String) : bytes s = charBytes s.toList := by
  unfold bytes charBytes
  rw [← String.utf8Encode_toList, List.utf8Encode]
  simp

/-- Two characters are told apart within the bytes of the first one. -/
theorem utf8EncodeChar_append_lt {c d : Char} (h : c < d) (after after' : List UInt8) :
    String.utf8EncodeChar c ++ after < String.utf8EncodeChar d ++ after' := by
  have hlt : c.val.toNat < d.val.toNat := h
  have hmost : d.val.toNat < 0x110000 := by
    have hvalid := d.valid
    simp only [UInt32.isValidChar, Nat.isValidChar] at hvalid
    omega
  unfold String.utf8EncodeChar
  generalize c.val.toNat = u at *
  generalize d.val.toNat = v at *
  have hbyte (n : Nat) (hn : n < 256) : (UInt8.ofNat n).toNat = n := by
    rw [UInt8.toNat_ofNat', Nat.mod_eq_of_lt hn]
  -- The digits to the base of 64, each from the one before it.
  have hsecond (n : Nat) : n / 4096 = n / 64 / 64 := by rw [Nat.div_div_eq_div_mul]
  have hthird (n : Nat) : n / 262144 = n / 64 / 64 / 64 := by
    rw [Nat.div_div_eq_div_mul, Nat.div_div_eq_div_mul]
  dsimp only
  split_ifs <;>
    simp (disch := omega) only [List.cons_append, List.nil_append, List.cons_lt_cons_iff,
      UInt8.lt_iff_toNat_lt, ← UInt8.toNat_inj, hbyte, hsecond, hthird] <;>
    omega

theorem charBytes_lt {cs ds : List Char} (h : cs < ds) : charBytes cs < charBytes ds := by
  induction cs generalizing ds with
  | nil =>
    cases ds with
    | nil => exact absurd h (List.lt_irrefl [])
    | cons d ds =>
      show [] < String.utf8EncodeChar d ++ charBytes ds
      cases hd : String.utf8EncodeChar d with
      | nil => exact absurd hd String.utf8EncodeChar_ne_nil
      | cons b bs => exact List.nil_lt_cons b _
  | cons c cs ih =>
    cases ds with
    | nil => exact absurd h (List.not_lt_nil _)
    | cons d ds =>
      unfold charBytes
      rw [List.flatMap_cons, List.flatMap_cons]
      rcases List.cons_lt_cons_iff.mp h with hlt | ⟨rfl, hrest⟩
      · exact utf8EncodeChar_append_lt hlt _ _
      · exact List.append_left_lt (ih hrest)

theorem bytes_lt {s t : String} (h : s < t) : bytes s < bytes t := by
  rw [bytes_eq_charBytes, bytes_eq_charBytes]
  exact charBytes_lt (String.lt_iff.mp h)

theorem lt_iff_bytes_lt {s t : String} : s < t ↔ bytes s < bytes t := by
  refine ⟨bytes_lt, fun hbytes ↦ ?_⟩
  by_contra hnot
  by_cases hgt : t < s
  · exact List.lt_asymm hbytes (bytes_lt hgt)
  · have heq : s = t := String.le_antisymm (String.not_lt.mp hgt) (String.not_lt.mp hnot)
    rw [heq] at hbytes
    exact List.lt_irrefl _ hbytes

/-! ### Parts -/

variable {sep c d : Char} {cs ds : List Char}

theorem splitChars_cons_self (sep : Char) (cs : List Char) :
    splitChars sep (sep :: cs) = [] :: splitChars sep cs := by
  rw [splitChars, if_pos rfl]

theorem exists_splitChars_cons (hc : c ≠ sep) (cs : List Char) :
    ∃ part parts, splitChars sep cs = part :: parts ∧
      splitChars sep (c :: cs) = (c :: part) :: parts := by
  obtain ⟨part, parts, heq⟩ := List.exists_cons_of_ne_nil (splitChars_ne_nil sep cs)
  exact ⟨part, parts, heq, by rw [splitChars, if_neg hc, heq]⟩

theorem splitChars_cons_lt_iff (sep c : Char) (cs ds : List Char) :
    splitChars sep (c :: cs) < splitChars sep (c :: ds) ↔
      splitChars sep cs < splitChars sep ds := by
  by_cases hc : c = sep
  · subst hc
    simp [splitChars_cons_self]
  · obtain ⟨part, parts, hsplit, hcons⟩ := exists_splitChars_cons hc cs
    obtain ⟨part', parts', hsplit', hcons'⟩ := exists_splitChars_cons hc ds
    rw [hcons, hcons', hsplit, hsplit']
    simp [List.cons_lt_cons_iff]

theorem not_splitChars_lt_nil (sep : Char) (cs : List Char) :
    ¬ splitChars sep cs < splitChars sep [] := by
  obtain ⟨part, parts, heq⟩ := List.exists_cons_of_ne_nil (splitChars_ne_nil sep cs)
  rw [heq, splitChars]
  simp [List.cons_lt_cons_iff]

/-- A text that ends its first part at once comes before one that does not. -/
theorem splitChars_cons_self_lt (hd : d ≠ sep) (cs ds : List Char) :
    splitChars sep (sep :: cs) < splitChars sep (d :: ds) := by
  obtain ⟨part, parts, -, hcons⟩ := exists_splitChars_cons hd ds
  rw [splitChars_cons_self, hcons]
  simp [List.cons_lt_cons_iff]

theorem lt_of_splitChars_cons_lt (hc : c ≠ sep) (hne : c ≠ d)
    (h : splitChars sep (c :: cs) < splitChars sep (d :: ds)) : c < d := by
  obtain ⟨part, parts, -, hcons⟩ := exists_splitChars_cons hc cs
  by_cases hd : d = sep
  · subst hd
    exact absurd (splitChars_cons_self_lt hc ds cs) (List.lt_asymm h)
  · obtain ⟨part', parts', -, hcons'⟩ := exists_splitChars_cons hd ds
    rw [hcons, hcons'] at h
    simpa [List.cons_lt_cons_iff, hne] using h

/-- Where two texts part, the first has the separator and the second a character below it. -/
inductive CutShort (sep : Char) : List Char → List Char → Prop
  | here {c : Char} (cs ds : List Char) : c < sep → CutShort sep (sep :: cs) (c :: ds)
  | after (c : Char) {cs ds : List Char} : CutShort sep cs ds → CutShort sep (c :: cs) (c :: ds)

/-- As texts the two are in the other order than part by part. -/
theorem CutShort.lt (h : CutShort sep cs ds) :
    ds < cs ∧ splitChars sep cs < splitChars sep ds := by
  induction h with
  | here cs ds hlt =>
    exact ⟨List.cons_lt_cons_iff.mpr (.inl hlt), splitChars_cons_self_lt (ne_of_lt hlt) cs ds⟩
  | after c _ ih =>
    refine ⟨List.cons_lt_cons_iff.mpr (.inr ⟨rfl, ih.1⟩), ?_⟩
    rw [splitChars_cons_lt_iff]
    exact ih.2

/-- That is the only way in which the two orders differ. -/
theorem lt_or_cutShort (h : splitChars sep cs < splitChars sep ds) :
    cs < ds ∨ CutShort sep cs ds := by
  induction cs generalizing ds with
  | nil =>
    cases ds with
    | nil => exact absurd h (List.lt_irrefl _)
    | cons d ds => exact .inl (List.nil_lt_cons d ds)
  | cons c cs ih =>
    cases ds with
    | nil => exact absurd h (not_splitChars_lt_nil sep _)
    | cons d ds =>
      rcases lt_trichotomy c d with hlt | rfl | hgt
      · exact .inl (List.cons_lt_cons_iff.mpr (.inl hlt))
      · rw [splitChars_cons_lt_iff] at h
        refine (ih h).imp (fun hlt ↦ ?_) (.after c)
        exact List.cons_lt_cons_iff.mpr (.inr ⟨rfl, hlt⟩)
      · by_cases hc : c = sep
        · subst hc
          exact .inr (.here cs ds hgt)
        · exact absurd (lt_of_splitChars_cons_lt hc (ne_of_gt hgt) h) (lt_asymm hgt)

theorem CutShort.exists_lt (h : CutShort sep cs ds) : ∃ c ∈ ds, c < sep := by
  induction h with
  | here cs ds hlt => exact ⟨_, List.mem_cons_self, hlt⟩
  | after c _ ih =>
    obtain ⟨d, hmem, hlt⟩ := ih
    exact ⟨d, List.mem_cons_of_mem c hmem, hlt⟩

theorem map_ofList_lt_iff {xs ys : List (List Char)} :
    xs.map String.ofList < ys.map String.ofList ↔ xs < ys := by
  induction xs generalizing ys with
  | nil => cases ys <;> simp
  | cons x xs ih =>
    cases ys with
    | nil => simp
    | cons y ys =>
      simp only [List.map_cons, List.cons_lt_cons_iff, String.lt_iff, String.toList_ofList,
        String.ofList_inj, ih]

theorem split_lt_iff {s t : String} :
    split sep s < split sep t ↔ splitChars sep s.toList < splitChars sep t.toList :=
  map_ofList_lt_iff

end SchemaRouting.Text
