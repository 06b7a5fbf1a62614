/-!
Numbers read from decimal digits. The significand is kept in a 64-bit word: digits that no
longer fit are dropped and move the exponent instead. The word is then scaled by powers of
ten, each step rounded to binary64, and a number too large for binary64 is refused.
-/

set_option autoImplicit false

namespace SchemaRouting.Decimal

/-- The largest significand that is held exactly. -/
def wordLimit : Nat := UInt64.size - 1

/-- The power of ten as a binary64 number. -/
def powerOfTen (n : Nat) : Float := Float.ofScientific 1 false n

/-- A word scaled by `10 ^ exponent`; `none` where the result would be infinite. Below
`10 ^ (-308)` the division is made in two steps, and no word survives a third one. -/
def scaleWord (x : Float) (exponent : Int) : Option Float :=
  if 0 ≤ exponent then
    if exponent ≤ 308 then
      let y := x * powerOfTen exponent.toNat
      if y.isInf then none else some y
    else if x == 0.0 then some x else none
  else if -308 ≤ exponent then some (x / powerOfTen exponent.natAbs)
  else if -616 ≤ exponent then
    some (x / powerOfTen 308 / powerOfTen (exponent + 308).natAbs)
  else some 0.0

/-- The number `significand * 10 ^ exponent`, negated if asked. -/
def ofParts (negative : Bool) (significand : Nat) (exponent : Int) : Option Float :=
  (scaleWord significand.toUInt64.toFloat exponent).map fun x => if negative then -x else x

/-- A significand as far as it is read: the word, and the power of ten that its last digit
stands for. -/
structure Significand where
  word : Nat
  shift : Int

/-- The value of a decimal digit character. -/
def digitValue (c : Char) : Nat := c.toNat - '0'.toNat

/-- Whole digits: once the word is full, every further digit only raises the exponent. -/
def Significand.whole (digits : List Char) : Significand :=
  let rec go (word : Nat) : List Char → Significand
    | [] => ⟨word, 0⟩
    | c :: cs =>
      if wordLimit < word * 10 + digitValue c then ⟨word, (cs.length : Int) + 1⟩
      else go (word * 10 + digitValue c) cs
  go 0 digits

/-- Digits after the point: once the word is full, every further digit is dropped. -/
def Significand.fraction : Significand → List Char → Significand
  | s, [] => s
  | s, c :: cs =>
    if wordLimit < s.word * 10 + digitValue c then s
    else Significand.fraction ⟨s.word * 10 + digitValue c, s.shift - 1⟩ cs

end SchemaRouting.Decimal
