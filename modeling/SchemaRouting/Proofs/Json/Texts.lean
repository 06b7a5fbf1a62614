import SchemaRouting.Proofs.Json.Nesting

/-!
# Texts of values

The text of a value has its tokens one after the other, each as it is spelled, with any space before
and after them (`Json.IsText`). Of a string every character may be written as it is or by an escape
(`Json.Token.Spelled`), a number by its digits with or without a fraction and an exponent
(`Json.Token.NumberText`). Such a text falls apart into these tokens and no others
(`Json.Token.all_eq`), so that it is read as the value (`Json.readTree_of_isText`).
-/

set_option autoImplicit false
set_option relaxedAutoImplicit false

namespace SchemaRouting.Json

namespace Token

variable {cs rest : List Char}

/-! ### Strings -/

/-- The characters of a string as they are written between its quotes. -/
inductive Spelled : List Char → List Char → Prop
  | nil : Spelled [] []
  | plain {c : Char} {s cs : List Char} : 0x20 ≤ c.toNat → c ≠ '"' → c ≠ '\\' → Spelled s cs →
    Spelled (c :: s) (c :: cs)
  | escape {c e : Char} {s cs : List Char} : escaped? e = some c → Spelled s cs →
    Spelled (c :: s) ('\\' :: e :: cs)
  | unit {a b c d : Char} {n : Nat} {s cs : List Char} : unit? a b c d = some n →
    isFirstOfPair n = false → isSecondOfPair n = false → Spelled s cs →
    Spelled (Char.ofNat n :: s) ('\\' :: 'u' :: a :: b :: c :: d :: cs)
  | pair {a b c d a' b' c' d' : Char} {n m : Nat} {s cs : List Char} : unit? a b c d = some n →
    unit? a' b' c' d' = some m → isFirstOfPair n = true → isSecondOfPair m = true → Spelled s cs →
    Spelled (Char.ofNat (0x10000 + (n - 0xD800) * 0x400 + (m - 0xDC00)) :: s)
      ('\\' :: 'u' :: a :: b :: c :: d :: '\\' :: 'u' :: a' :: b' :: c' :: d' :: cs)

theorem units?_plain {c : Char} (hlow : 0x20 ≤ c.toNat) (hquote : c ≠ '"') (hslash : c ≠ '\\')
    (read : List Nat) (cs : List Char) : units? read (c :: cs) = units? (c.toNat :: read) cs := by
  have hkept : ¬ (c.toNat < 0x20 || c = '\\') = true := by
    simpa using ⟨hlow, hslash⟩
  rw [units?.eq_def]
  split
  case h_5 heq =>
    cases heq
    exact if_neg hkept
  all_goals simp_all

theorem units?_escape {c e : Char} (h : escaped? e = some c) (read : List Nat) (cs : List Char) :
    units? read ('\\' :: e :: cs) = units? (c.toNat :: read) cs := by
  have he : e ≠ 'u' := by
    rintro rfl
    cases h
  rw [units?.eq_def]
  split
  case h_5 hother heq =>
    cases heq
    exact absurd rfl (hother e cs rfl)
  all_goals simp_all

theorem units?_unit {a b c d : Char} {n : Nat} (h : unit? a b c d = some n) (read : List Nat)
    (cs : List Char) :
    units? read ('\\' :: 'u' :: a :: b :: c :: d :: cs) = units? (n :: read) cs := by
  rw [units?.eq_def]
  simp [h]

theorem ofUnits?_cons {n : Nat} (hfirst : isFirstOfPair n = false)
    (hsecond : isSecondOfPair n = false) (read : List Char) (units : List Nat) :
    ofUnits? read (n :: units) = ofUnits? (Char.ofNat n :: read) units := by
  cases units <;> simp [ofUnits?, hfirst, hsecond]

theorem isFirstOfPair_toNat (c : Char) : isFirstOfPair c.toNat = false := by
  have hvalid := c.valid
  simp only [UInt32.isValidChar, Nat.isValidChar] at hvalid
  simp only [isFirstOfPair, Char.toNat]
  grind

theorem isSecondOfPair_toNat (c : Char) : isSecondOfPair c.toNat = false := by
  have hvalid := c.valid
  simp only [UInt32.isValidChar, Nat.isValidChar] at hvalid
  simp only [isSecondOfPair, Char.toNat]
  grind

theorem ofUnits?_toNat (c : Char) (read : List Char) (units : List Nat) :
    ofUnits? read (c.toNat :: units) = ofUnits? (c :: read) units := by
  rw [ofUnits?_cons (isFirstOfPair_toNat c) (isSecondOfPair_toNat c), Char.ofNat_toNat]

/-- What is written between two quotes is read up to the second one, as the characters. -/
theorem Spelled.read {s : List Char} (h : Spelled s cs) : ∃ units,
    (∀ read rest, units? read (cs ++ '"' :: rest) = some (read.reverse ++ units, rest)) ∧
      ∀ read, ofUnits? read units = some (read.reverse ++ s) := by
  induction h with
  | nil => exact ⟨[], fun _ _ ↦ by simp [units?], fun _ ↦ by simp [ofUnits?]⟩
  | @plain c _ _ hlow hquote hslash _ ih =>
    obtain ⟨units, hunits, hchars⟩ := ih
    refine ⟨c.toNat :: units, fun read rest ↦ ?_, fun read ↦ ?_⟩
    · rw [List.cons_append, units?_plain hlow hquote hslash, hunits]
      simp
    · rw [ofUnits?_toNat, hchars]
      simp
  | @escape c _ _ _ hescape _ ih =>
    obtain ⟨units, hunits, hchars⟩ := ih
    refine ⟨c.toNat :: units, fun read rest ↦ ?_, fun read ↦ ?_⟩
    · rw [List.cons_append, List.cons_append, units?_escape hescape, hunits]
      simp
    · rw [ofUnits?_toNat, hchars]
      simp
  | @unit _ _ _ _ n _ _ hunit hfirst hsecond _ ih =>
    obtain ⟨units, hunits, hchars⟩ := ih
    refine ⟨n :: units, fun read rest ↦ ?_, fun read ↦ ?_⟩
    · simp only [List.cons_append]
      rw [units?_unit hunit, hunits]
      simp
    · rw [ofUnits?_cons hfirst hsecond, hchars]
      simp
  | @pair _ _ _ _ _ _ _ _ n m _ _ hunit hunit' hfirst hsecond _ ih =>
    obtain ⟨units, hunits, hchars⟩ := ih
    refine ⟨n :: m :: units, fun read rest ↦ ?_, fun read ↦ ?_⟩
    · simp only [List.cons_append]
      rw [units?_unit hunit, units?_unit hunit', hunits]
      simp
    · simp [ofUnits?, hfirst, hsecond, hchars]

/-! ### Numbers -/

/-- A run of digits, not empty. -/
structure IsDigits (ds : List Char) : Prop where
  ne_nil : ds ≠ []
  digits : ∀ c ∈ ds, isDigit c = true

/-- The digits of a whole number do not start with a zero, unless it is zero. -/
def IsWhole (ds : List Char) : Prop := IsDigits ds ∧ (ds = ['0'] ∨ ds.head? ≠ some '0')

/-- The number that the digits of an exponent stand for. -/
def digitsValue (ds : List Char) : Int := ds.foldl (fun n d ↦ n * 10 + Decimal.digitValue d) 0

/-- The digits of a fraction as they are written, or that there is none. -/
inductive FractionText : List Char → List Char → Prop
  | none : FractionText [] []
  | point {ds : List Char} : IsDigits ds → FractionText ds ('.' :: ds)

/-- An exponent as it is written, or that there is none. -/
inductive ExponentText : Int → List Char → Prop
  | none : ExponentText 0 []
  | plain {e : Char} {ds : List Char} : e = 'e' ∨ e = 'E' → IsDigits ds →
    ExponentText (digitsValue ds) (e :: ds)
  | plus {e : Char} {ds : List Char} : e = 'e' ∨ e = 'E' → IsDigits ds →
    ExponentText (digitsValue ds) (e :: '+' :: ds)
  | minus {e : Char} {ds : List Char} : e = 'e' ∨ e = 'E' → IsDigits ds →
    ExponentText (-digitsValue ds) (e :: '-' :: ds)

/-- A number in range as it is written after its sign. -/
inductive NumberText (negative : Bool) : Number → List Char → Prop
  | whole {ds : List Char} {n : Number} : IsWhole ds →
    wholeNumber negative (.whole ds) = some n → NumberText negative n ds
  | scaled {ds fs fraction exponent : List Char} {e : Int} {n : Number} : IsWhole ds →
    FractionText fs fraction → ExponentText e exponent → fraction ++ exponent ≠ [] →
    scaledNumber negative ((Decimal.Significand.whole ds).fraction fs) e = some n →
    NumberText negative n (ds ++ (fraction ++ exponent))

/-- What follows does not go on with a number. -/
def EndsNumber (rest : List Char) : Prop :=
  ∀ c, rest.head? = some c → isDigit c = false ∧ c ≠ '.' ∧ c ≠ 'e' ∧ c ≠ 'E'

theorem digits_append {ds : List Char} (h : ∀ c ∈ ds, isDigit c = true)
    (hrest : ∀ c, rest.head? = some c → isDigit c = false) : digits (ds ++ rest) = (ds, rest) := by
  have hnone : rest.takeWhile isDigit = [] ∧ rest.dropWhile isDigit = rest := by
    cases rest with
    | nil => exact ⟨rfl, rfl⟩
    | cons c rest => simp [hrest c rfl]
  rw [digits, List.takeWhile_append_of_pos h, List.dropWhile_append_of_pos h, hnone.1, hnone.2,
    List.append_nil]

theorem fraction?_append {ds : List Char} (h : IsDigits ds)
    (hrest : ∀ c, rest.head? = some c → isDigit c = false) (s : Decimal.Significand) :
    fraction? s (ds ++ rest) = some (s.fraction ds, rest) := by
  rw [fraction?, digits_append h.digits hrest]
  simp [h.ne_nil]

theorem exponent?_append {e : Int} {mark : Char} (h : ExponentText e (mark :: cs))
    (hrest : EndsNumber rest) : exponent? (cs ++ rest) = some (e, rest) := by
  have hend : ∀ c, rest.head? = some c → isDigit c = false := fun c hc ↦ (hrest c hc).1
  have hsigned : ∀ {ds : List Char}, IsDigits ds → ds ≠ [] ∧ digits (ds ++ rest) = (ds, rest) :=
    fun hds ↦ ⟨hds.ne_nil, digits_append hds.digits hend⟩
  cases h with
  | plain _ hds =>
    obtain ⟨hne, hdigits⟩ := hsigned hds
    obtain ⟨d, more, rfl⟩ := List.exists_cons_of_ne_nil hne
    have hd := hds.digits d List.mem_cons_self
    have hplus : d ≠ '+' := by
      rintro rfl
      cases hd
    have hminus : d ≠ '-' := by
      rintro rfl
      cases hd
    rw [List.cons_append] at hdigits
    simp [exponent?, hdigits, digitsValue, hplus, hminus]
  | plus _ hds =>
    obtain ⟨hne, hdigits⟩ := hsigned hds
    simp [exponent?, hdigits, hne, digitsValue]
  | minus _ hds =>
    obtain ⟨hne, hdigits⟩ := hsigned hds
    simp [exponent?, hdigits, hne, digitsValue]

/-- What is read of a number after its fraction, if it has one. -/
def afterFraction (negative : Bool) (s : Decimal.Significand) (pointed : Bool) :
    List Char → Option (Option Number × List Char)
  | 'e' :: rest | 'E' :: rest => do
    let (exponent, rest) ← exponent? rest
    return (scaledNumber negative s exponent, rest)
  | rest => return (if pointed then scaledNumber negative s 0 else wholeNumber negative s, rest)

/-- What is read of a number after its whole digits. -/
def afterWhole (negative : Bool) (s : Decimal.Significand) :
    List Char → Option (Option Number × List Char)
  | '.' :: rest => (fraction? s rest).bind fun (s, rest) ↦ afterFraction negative s true rest
  | rest => afterFraction negative s false rest

theorem number?_whole {negative : Bool} {ds : List Char} (h : IsWhole ds)
    (hrest : ∀ c, rest.head? = some c → isDigit c = false) :
    number? negative (ds ++ rest) = afterWhole negative (.whole ds) rest := by
  rw [number?, digits_append h.1.digits hrest]
  dsimp only
  split
  case h_1 => exact absurd rfl h.1.ne_nil
  case h_3 hother => exact absurd h.2 (by simpa using hother)
  all_goals
    split
    · rw [afterWhole, Option.bind_eq_bind, Option.bind_some]
      cases fraction? (.whole _) _ <;> rfl
    · rename_i hpoint
      rw [afterWhole]
      · rfl
      · exact hpoint

theorem ExponentText.mark {e : Int} {mark : Char} (h : ExponentText e (mark :: cs)) :
    mark = 'e' ∨ mark = 'E' := by
  cases h <;> assumption

/-- An exponent, or what follows the number where there is none, does not go on with digits. -/
theorem ExponentText.head {e : Int} {exponent : List Char} (h : ExponentText e exponent)
    (hrest : EndsNumber rest) {c : Char} (hc : (exponent ++ rest).head? = some c) :
    isDigit c = false ∧ c ≠ '.' := by
  cases exponent with
  | nil => exact ⟨(hrest c hc).1, (hrest c hc).2.1⟩
  | cons mark cs =>
    cases hc
    rcases h.mark with rfl | rfl <;> decide

theorem afterFraction_exponent {negative pointed : Bool} {s : Decimal.Significand} {e : Int}
    {exponent : List Char} (h : ExponentText e exponent) (hrest : EndsNumber rest) :
    afterFraction negative s pointed (exponent ++ rest) =
      some (if exponent ≠ [] ∨ pointed = true then scaledNumber negative s e else
        wholeNumber negative s, rest) := by
  cases exponent with
  | nil =>
    cases h
    rw [List.nil_append, afterFraction]
    · simp
    · rintro more rfl
      exact (hrest 'e' rfl).2.2.1 rfl
    · rintro more rfl
      exact (hrest 'E' rfl).2.2.2 rfl
  | cons mark cs =>
    have hread := exponent?_append h hrest
    rcases h.mark with rfl | rfl <;> rw [List.cons_append, afterFraction, hread] <;> simp

theorem afterWhole_exponent {negative : Bool} {s : Decimal.Significand} {e : Int}
    {exponent : List Char} (h : ExponentText e exponent) (hrest : EndsNumber rest) :
    afterWhole negative s (exponent ++ rest) =
      some (if exponent ≠ [] then scaledNumber negative s e else wholeNumber negative s, rest) := by
  rw [afterWhole, afterFraction_exponent h hrest]
  · simp
  · intro more hpoint
    exact (h.head hrest (by rw [hpoint]; rfl)).2 rfl

/-- A number is read up to where it ends. -/
theorem number?_append {negative : Bool} {n : Number} (h : NumberText negative n cs)
    (hrest : EndsNumber rest) : number? negative (cs ++ rest) = some (some n, rest) := by
  cases h with
  | whole hds hn =>
    have htail : afterWhole negative (.whole cs) rest =
        some (wholeNumber negative (.whole cs), rest) := afterWhole_exponent .none hrest
    rw [number?_whole hds fun c hc ↦ (hrest c hc).1, htail, hn]
  | @scaled ds fs fraction exponent e _ hds hfraction hexponent hne hn =>
    have hhead : ∀ c, (exponent ++ rest).head? = some c → isDigit c = false :=
      fun c hc ↦ (hexponent.head hrest hc).1
    rw [List.append_assoc, List.append_assoc]
    cases hfraction with
    | none =>
      rw [List.nil_append] at hne
      rw [List.nil_append, number?_whole hds hhead, afterWhole_exponent hexponent hrest, if_pos hne]
      exact congrArg (fun n ↦ some (n, rest)) hn
    | point hfs =>
      have hpoint : ∀ c, ('.' :: fs ++ (exponent ++ rest)).head? = some c → isDigit c = false := by
        rintro c ⟨⟩
        rfl
      rw [number?_whole hds hpoint, List.cons_append, afterWhole, fraction?_append hfs hhead,
        Option.bind_some]
      dsimp only
      rw [afterFraction_exponent hexponent hrest, if_pos (.inr rfl), hn]

/-! ### Tokens -/

/-- The characters of a token. -/
inductive Spells : Token → List Char → Prop
  | openArray : Spells .openArray ['[']
  | closeArray : Spells .closeArray [']']
  | openObject : Spells .openObject ['\x7b']
  | closeObject : Spells .closeObject ['\x7d']
  | comma : Spells .comma [',']
  | colon : Spells .colon [':']
  | null : Spells (.scalar .null) ['n', 'u', 'l', 'l']
  | isTrue : Spells (.scalar (.bool true)) ['t', 'r', 'u', 'e']
  | isFalse : Spells (.scalar (.bool false)) ['f', 'a', 'l', 's', 'e']
  | number {n : Number} {cs : List Char} : NumberText false n cs → Spells (.scalar (.number n)) cs
  | minus {n : Number} {cs : List Char} : NumberText true n cs →
    Spells (.scalar (.number n)) ('-' :: cs)
  | text {s cs : List Char} : Spelled s cs →
    Spells (.text (some (String.ofList s))) ('"' :: (cs ++ ['"']))

/-- The characters of tokens one after the other, with any space between them, where what follows a
number does not go on with it. -/
inductive Writes : List Token → List Char → Prop
  | nil {space : List Char} : (∀ c ∈ space, isSpace c = true) → Writes [] space
  | cons {token : Token} {tokens : List Token} {space cs rest : List Char} :
    (∀ c ∈ space, isSpace c = true) → Spells token cs →
    (∀ n, token = .scalar (.number n) → EndsNumber rest) → Writes tokens rest →
    Writes (token :: tokens) (space ++ (cs ++ rest))

theorem NumberText.exists_digit {negative : Bool} {n : Number} (h : NumberText negative n cs) :
    ∃ d more, cs = d :: more ∧ isDigit d = true := by
  have hstart : ∀ {ds : List Char} (more : List Char), IsWhole ds →
      ∃ d rest, ds ++ more = d :: rest ∧ isDigit d = true := by
    rintro ds more ⟨⟨hne, hdigits⟩, -⟩
    obtain ⟨d, ds, rfl⟩ := List.exists_cons_of_ne_nil hne
    exact ⟨d, ds ++ more, rfl, hdigits d List.mem_cons_self⟩
  cases h with
  | whole hds => simpa using hstart [] hds
  | scaled hds => exact hstart _ hds

theorem next_digit {d : Char} (h : isDigit d = true) (cs : List Char) :
    next (d :: cs) = numberToken false (d :: cs) := by
  rw [next.eq_def]
  split
  case h_1 heq => cases heq
  case h_13 heq =>
    cases heq
    rfl
  all_goals
    rename_i heq
    cases heq
    cases h

theorem next_append {token : Token} (h : Spells token cs)
    (hrest : ∀ n, token = .scalar (.number n) → EndsNumber rest) :
    next (cs ++ rest) = (token, rest) := by
  cases h with
  | openArray | closeArray | openObject | closeObject | comma | colon | null | isTrue | isFalse =>
    rfl
  | number hn =>
    obtain ⟨d, more, rfl, hd⟩ := hn.exists_digit
    have hread := number?_append hn (hrest _ rfl)
    rw [List.cons_append] at hread
    rw [List.cons_append, next_digit hd, numberToken, hread]
  | minus hn =>
    rw [List.cons_append, next, numberToken, number?_append hn (hrest _ rfl)]
  | @text s cs h =>
    obtain ⟨units, hunits, hchars⟩ := h.read
    rw [List.cons_append, next, List.append_assoc, List.singleton_append, hunits]
    simp [hchars]

theorem isSpace_of_isDigit {c : Char} (h : isDigit c = true) : isSpace c = false := by
  cases hspace : isSpace c with
  | false => rfl
  | true =>
    simp only [isSpace, Bool.or_eq_true, beq_iff_eq] at hspace
    rcases hspace with ((rfl | rfl) | rfl) | rfl <;> cases h

theorem Spells.exists_start {token : Token} (h : Spells token cs) :
    ∃ c more, cs = c :: more ∧ isSpace c = false := by
  cases h with
  | number hn =>
    obtain ⟨d, more, hcs, hd⟩ := hn.exists_digit
    exact ⟨d, more, hcs, isSpace_of_isDigit hd⟩
  | openArray | closeArray | openObject | closeObject | comma | colon | null | isTrue | isFalse
  | minus _ | text _ => exact ⟨_, _, rfl, by decide⟩

theorem dropWhile_space {space : List Char} (h : ∀ c ∈ space, isSpace c = true) :
    space.dropWhile isSpace = [] := by
  rw [← List.append_nil space, List.dropWhile_append_of_pos h]
  rfl

/-- Characters fall apart into the tokens that they write. -/
theorem upTo_of_writes {tokens : List Token} (h : Writes tokens cs) {count : Nat}
    (hcount : cs.length ≤ count) : upTo count cs = tokens := by
  induction h generalizing count with
  | @nil space hspace =>
    cases count with
    | zero => rfl
    | succ count => rw [upTo, dropWhile_space hspace]
  | @cons token tokens space cs rest hspace hspells hrest _ ih =>
    obtain ⟨c, more, rfl, hc⟩ := hspells.exists_start
    have hstart : (space ++ (c :: more ++ rest)).dropWhile isSpace = c :: (more ++ rest) := by
      rw [List.dropWhile_append_of_pos hspace, List.cons_append, List.dropWhile_cons, hc]
      rfl
    have hnext : next (c :: (more ++ rest)) = (token, rest) := next_append hspells hrest
    simp only [List.length_append, List.length_cons] at hcount
    obtain ⟨count, rfl⟩ : ∃ k, count = k + 1 := ⟨count - 1, by omega⟩
    rw [upTo, hstart]
    simp only [hnext]
    rw [ih (by omega)]

theorem all_eq {tokens : List Token} (h : Writes tokens cs) : all cs = tokens :=
  upTo_of_writes h (Nat.le_refl _)

end Token

/-! ### Texts -/

/-- A text of a value: its tokens one after the other. -/
def IsText (t : Tree) (text : String) : Prop := Token.Writes t.tokens text.toList

/-- A text of a value is read as it, if the value is not nested too deep. -/
theorem readTree_of_isText {t : Tree} (h : t.IsJson) (hdepth : t.depth ≤ depthLimit) {text : String}
    (htext : IsText t text) : readTree text = (t, true) :=
  readTree_eq h hdepth (Token.all_eq htext)

end SchemaRouting.Json
