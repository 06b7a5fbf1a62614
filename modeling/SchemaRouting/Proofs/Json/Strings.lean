import Mathlib.Tactic.SplitIfs
import SchemaRouting.Json.Reader

/-!
# Texts of a single string

A text whose value is a string is that string between quotes, and the quotes are no part of it, so
the string is shorter than the text (`length_lt_of_parse`). Reading a string gives no more
characters than it takes (`length_of_units?`, `length_of_ofUnits?`); and a reader that has opened an
array or an object never ends with a string (`Nested.step`), so the string was the only token
(`eq_text_of_foldl`).
-/

set_option autoImplicit false
set_option relaxedAutoImplicit false

namespace SchemaRouting.Json

/-! ### The characters of a string -/

namespace Token

theorem length_of_units? {read units : List Nat} {cs rest : List Char}
    (h : units? read cs = some (units, rest)) :
    units.length + rest.length < read.length + cs.length := by
  fun_induction units? read cs with
  | case1 => cases h
  | case2 read rest =>
    cases h
    simp
  | case3 => cases h
  | case4 read a b c d cs n _ ih =>
    have := ih h
    simp only [List.length_cons] at this ⊢
    omega
  | case5 => cases h
  | case6 read c cs d _ _ ih =>
    have := ih h
    simp only [List.length_cons] at this ⊢
    omega
  | case7 => cases h
  | case8 read c cs _ _ _ hkept ih =>
    have := ih h
    simp only [List.length_cons] at this ⊢
    omega

theorem length_of_ofUnits? {read s : List Char} {units : List Nat}
    (h : ofUnits? read units = some s) : s.length ≤ read.length + units.length := by
  fun_induction ofUnits? read units with
  | case1 read =>
    cases h
    simp
  | case2 read n m rest _ _ ih =>
    have := ih h
    simp only [List.length_cons] at this ⊢
    omega
  | case3 => cases h
  | case4 => cases h
  | case5 read n m rest _ _ ih =>
    have := ih h
    simp only [List.length_cons] at this ⊢
    omega
  | case6 => cases h
  | case7 read n _ =>
    cases h
    simp

/-- A token that is a scalar is not a string. -/
theorem ne_string_of_next {cs rest : List Char} {t : Tree} (h : next cs = (scalar t, rest))
    (s : String) : t ≠ .string s := by
  have hnumber : ∀ negative cs, numberToken negative cs = (scalar t, rest) → t ≠ .string s := by
    intro negative cs h
    rw [numberToken] at h
    split at h <;> cases h <;> nofun
  rw [next.eq_def] at h
  split at h
  all_goals first | exact hnumber _ _ h | (cases h <;> nofun) | skip
  split at h <;> cases h

/-- A string has fewer characters than what it is read from. -/
theorem length_of_next {cs rest : List Char} {s : String} (h : next cs = (text (some s), rest)) :
    s.length < cs.length := by
  have hnumber : ∀ negative cs, numberToken negative cs ≠ (text (some s), rest) := by
    intro negative cs h
    rw [numberToken] at h
    split at h <;> cases h
  rw [next.eq_def] at h
  split at h
  case h_8 body =>
    split at h
    · next units after hunits =>
      obtain ⟨htext, -⟩ := Prod.mk.inj h
      obtain ⟨chars, hchars, rfl⟩ := Option.map_eq_some_iff.mp (Token.text.inj htext)
      have htaken := length_of_units? hunits
      have hgiven := length_of_ofUnits? hchars
      rw [String.length_ofList, List.length_cons]
      rw [List.length_nil] at htaken hgiven
      omega
    · cases h
  all_goals first | exact absurd h (hnumber _ _) | cases h

theorem length_of_all {cs : List Char} {s : String} (h : all cs = [.text (some s)]) :
    s.length < cs.length := by
  obtain ⟨count, hcount⟩ : ∃ count, cs.length = count + 1 := by
    cases cs with
    | nil => cases h
    | cons c cs => exact ⟨cs.length, rfl⟩
  rw [all, hcount, upTo] at h
  have hdrop : (cs.dropWhile isSpace).length ≤ cs.length := (List.dropWhile_sublist _).length_le
  generalize cs.dropWhile isSpace = kept at h hdrop
  cases kept with
  | nil => cases h
  | cons c kept =>
    have hnext : next (c :: kept) = (text (some s), (next (c :: kept)).2) :=
      Prod.ext (List.cons.inj h).1 rfl
    exact Nat.lt_of_lt_of_le (length_of_next hnext) hdrop

theorem head_of_all {cs : List Char} {token : Token} (h : (all cs).head? = some token) :
    ∃ cs' rest, next cs' = (token, rest) := by
  rw [all] at h
  generalize cs.length = count at h
  cases count with
  | zero => cases h
  | succ count =>
    rw [upTo] at h
    generalize cs.dropWhile isSpace = kept at h
    cases kept with
    | nil => cases h
    | cons c kept => exact ⟨c :: kept, _, Prod.ext (Option.some.inj h) rfl⟩

end Token

/-! ### Inside an array or an object -/

/-- A frame that is closed as an array or an object and not as a string. -/
def Frame.Nested (frame : Frame) : Prop := ∀ ending s, frame.close ending ≠ .string s

namespace Reader

/-- A reader that is inside an array or an object, or was and is not done with a string. -/
inductive Inside : Reader → Prop
  | reading {frames : List Frame} {due : Due} : frames ≠ [] → (∀ frame ∈ frames, frame.Nested) →
    Inside (.reading frames due)
  | done {t : Tree} {clean : Bool} : (clean = true → ∀ s, t ≠ .string s) → Inside (.done t clean)

variable {frame : Frame} {frames : List Frame} {r : Reader}

theorem nested_fill (h : frame.Nested) (t : Tree) : (frame.fill t).Nested := by
  cases frame with
  | items => nofun
  | members => nofun
  | member => nofun
  | full => exact h

theorem nested_name (h : frame.Nested) (key : Option String) : (frame.name key).Nested := by
  cases frame with
  | members => cases key <;> nofun
  | items => exact h
  | member => exact h
  | full => exact h

theorem inside_cons (h : frame.Nested) (hframes : ∀ frame ∈ frames, frame.Nested) (due : Due) :
    Inside (.reading (frame :: frames) due) :=
  .reading (List.cons_ne_nil _ _) (List.forall_mem_cons.mpr ⟨h, hframes⟩)

theorem inside_finish {t : Tree} (hframes : ∀ frame ∈ frames, frame.Nested)
    (ht : frames = [] → ∀ s, t ≠ .string s) : Inside (finish t frames) := by
  cases frames with
  | nil => exact .done fun _ ↦ ht rfl
  | cons frame frames =>
    obtain ⟨hframe, hframes⟩ := List.forall_mem_cons.mp hframes
    exact inside_cons (nested_fill hframe t) hframes _

theorem inside_openFrame (hframes : ∀ frame ∈ frames, frame.Nested) (isArray : Bool) :
    Inside (openFrame isArray frames) := by
  refine inside_cons ?_ hframes _
  split_ifs <;> cases isArray <;> nofun

theorem inside_abandoned (due : Due) (frames : List Frame) :
    Inside (.done (abandon due frames) false) :=
  .done nofun

theorem inside_closeFrame (hframes : ∀ frame ∈ frames, frame.Nested) (isArray : Bool) (due : Due) :
    Inside (closeFrame isArray due frames) := by
  cases frames with
  | nil => exact inside_abandoned due []
  | cons frame outer =>
    obtain ⟨hframe, houter⟩ := List.forall_mem_cons.mp hframes
    rw [closeFrame]
    split_ifs
    · exact inside_finish houter fun _ ↦ hframe .strict
    · exact inside_abandoned due _

/-- Whatever comes next, a reader inside an array or an object is not done with a string. -/
theorem Inside.step (h : r.Inside) (token : Token) : (r.step token).Inside := by
  cases h with
  | done => exact .done nofun
  | @reading frames due hne hframes =>
    rw [Reader.step.eq_def]
    dsimp only
    -- In the order in which the steps are told: values, openings, keys, marks and closings.
    split
    iterate 4 exact inside_finish hframes fun h ↦ absurd h hne
    iterate 4 exact inside_openFrame hframes _
    iterate 2
      obtain ⟨hframe, houter⟩ := List.forall_mem_cons.mp hframes
      exact inside_cons (nested_name hframe _) houter _
    · exact .reading hne hframes
    · exact .reading hne hframes
    iterate 4 exact inside_closeFrame hframes _ _
    · exact inside_abandoned _ _

theorem Inside.foldl (h : r.Inside) (tokens : List Token) :
    (tokens.foldl Reader.step r).Inside := by
  induction tokens generalizing r with
  | nil => exact h
  | cons token tokens ih => exact ih (h.step token)

theorem Inside.result_ne (h : r.Inside) (s : String) : r.result ≠ (.string s, true) := by
  intro heq
  cases h with
  | reading => exact Bool.false_ne_true (congrArg Prod.snd heq)
  | done hdone =>
    cases heq
    exact hdone rfl s rfl

/-- Nothing may follow what a reader is done with. -/
theorem eq_nil_of_foldl_done {tokens : List Token} {t t' : Tree}
    (h : (tokens.foldl Reader.step (.done t true)).result = (t', true)) : tokens = [] ∧ t = t' := by
  cases tokens with
  | nil => exact ⟨rfl, congrArg Prod.fst h⟩
  | cons token tokens =>
    have hdone : tokens.foldl Reader.step (.done t false) = .done t false := by
      clear h
      induction tokens with
      | nil => rfl
      | cons token tokens ih => exact ih
    rw [List.foldl_cons, Reader.step, hdone] at h
    exact absurd (congrArg Prod.snd h) Bool.false_ne_true

/-- Tokens that are read as a string are that string alone. -/
theorem eq_text_of_foldl {tokens : List Token} {s : String}
    (hscalar : ∀ t, tokens.head? = some (.scalar t) → t ≠ .string s)
    (h : (tokens.foldl Reader.step start).result = (.string s, true)) :
    tokens = [.text (some s)] := by
  have hnone : ∀ frame ∈ ([] : List Frame), frame.Nested := List.forall_mem_nil _
  cases tokens with
  | nil => exact absurd (congrArg Prod.snd h) Bool.false_ne_true
  | cons token tokens =>
    rw [List.foldl_cons] at h
    cases token with
    | scalar t => exact absurd (eq_nil_of_foldl_done h).2 (hscalar t rfl)
    | text text =>
      obtain ⟨rfl, ht⟩ := eq_nil_of_foldl_done h
      cases text with
      | none => cases ht
      | some text =>
        cases ht
        rfl
    | openArray => exact absurd h (((inside_openFrame hnone true).foldl tokens).result_ne s)
    | openObject => exact absurd h (((inside_openFrame hnone false).foldl tokens).result_ne s)
    | closeArray | closeObject | comma | colon | bad =>
      exact absurd h (((inside_abandoned .value []).foldl tokens).result_ne s)

end Reader

/-! ### The string of a text -/

theorem eq_string_of_toJson? {t : Tree} {s : String} (h : t.toJson? = some (.string s)) :
    t = .string s := by
  cases t with
  | string => exact congrArg _ (Json.string.inj (Option.some.inj h))
  | null => cases h
  | bool => cases h
  | date => cases h
  | broken => cases h
  | number n =>
    cases n with
    | int => cases h
    | float x =>
      rw [Tree.toJson?] at h
      split_ifs at h <;> cases h
  | array items ending =>
    rw [Tree.toJson?] at h
    split_ifs at h
    obtain ⟨_, -, hvalue⟩ := Option.map_eq_some_iff.mp h
    cases hvalue
  | object members ending =>
    rw [Tree.toJson?] at h
    split_ifs at h
    obtain ⟨_, -, hvalue⟩ := Option.map_eq_some_iff.mp h
    cases hvalue

/-- A string is shorter than a text that is parsed to it. -/
theorem length_lt_of_parse {text s : String} (h : parse text = some (.string s)) :
    s.length < text.length := by
  rw [parse] at h
  split at h
  · next t hread =>
    obtain rfl := eq_string_of_toJson? h
    have hscalar : ∀ t, (Token.all text.toList).head? = some (.scalar t) → t ≠ .string s := by
      intro t hhead
      obtain ⟨cs, rest, hnext⟩ := Token.head_of_all hhead
      exact Token.ne_string_of_next hnext s
    rw [← String.length_toList]
    exact Token.length_of_all (Reader.eq_text_of_foldl hscalar hread)
  · cases h

end SchemaRouting.Json
