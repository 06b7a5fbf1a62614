/-!
The shortest decimal of a binary64 number: of all decimals that lie in the interval of reals
rounding to the number, one with the fewest digits, and of those the one closest to it. The
number is taken apart into a natural multiple of a power of two, and every comparison is made
on naturals.
-/

set_option autoImplicit false

namespace SchemaRouting.Decimal

/-- A positive number `mantissa * 2 ^ exponent`; `narrowBelow` holds where the next smaller
representable number is only half as far away as the next larger one. -/
structure Binary where
  mantissa : Nat
  exponent : Int
  narrowBelow : Bool

/-- The magnitude of a finite binary64 number. -/
def Binary.ofFloat (x : Float) : Binary :=
  let bits : Nat := x.toBits.toNat
  let leading : Nat := Nat.pow 2 52
  let fraction := bits % leading
  let scale := bits / leading % 2048
  if scale = 0 then ⟨fraction, -1074, false⟩
  else ⟨leading + fraction, (scale : Int) - 1075, fraction = 0 && scale ≠ 1⟩

/-- Which of two equally close decimals is taken. -/
inductive Tie
  | toEven
  | up
  deriving DecidableEq

/-- A decimal `significand * 10 ^ exponent`. -/
structure Digits where
  significand : Nat
  exponent : Int
  deriving DecidableEq, Repr

/-- A quotient of naturals, used for exact comparisons. -/
private structure Quotient where
  num : Nat
  den : Nat

private def Quotient.scaled (q : Quotient) (base : Nat) (power : Int) : Quotient :=
  if power < 0 then ⟨q.num, q.den * Nat.pow base (-power).toNat⟩
  else ⟨q.num * Nat.pow base power.toNat, q.den⟩

/-- Whether the decimal `significand * 10 ^ exponent` rounds to the number: it lies between the
midpoints to the two neighbours, which belong to the interval when the mantissa is even. -/
def Binary.readsBack (b : Binary) (d : Digits) : Bool :=
  -- Over four times the number's scale the ends of the interval are whole numbers.
  let decimal := Quotient.scaled ⟨4 * d.significand, 1⟩ 10 d.exponent
  let unit := Quotient.scaled ⟨1, 1⟩ 2 b.exponent
  let low := 4 * b.mantissa - (if b.narrowBelow then 1 else 2)
  let high := 4 * b.mantissa + 2
  let left := decimal.num * unit.den
  let right := unit.num * decimal.den
  if b.mantissa % 2 = 0 then low * right ≤ left && left ≤ high * right
  else low * right < left && left < high * right

/-- The number of decimal digits of a natural. -/
def digitCount (n : Nat) : Nat :=
  (Nat.toDigits 10 n).length

/-- The exponent `k` with `10 ^ (k - 1) ≤ b < 10 ^ k`, for a positive number. -/
def Binary.decimalPoint (b : Binary) : Int :=
  let shifted := Quotient.scaled (Quotient.scaled ⟨b.mantissa, 1⟩ 2 b.exponent) 10 400
  (digitCount (shifted.num / shifted.den) : Int) - 400

/-- The best decimal whose last digit stands for `10 ^ exponent`, if one reads back. -/
def Binary.onGrid (b : Binary) (tie : Tie) (exponent : Int) : Option Digits :=
  let cell := Quotient.scaled (Quotient.scaled ⟨b.mantissa, 1⟩ 2 b.exponent) 10 (-exponent)
  let below : Digits := ⟨cell.num / cell.den, exponent⟩
  let above : Digits := ⟨cell.num / cell.den + 1, exponent⟩
  let rest := cell.num % cell.den
  match b.readsBack below, b.readsBack above with
  | false, false => none
  | true, false => some below
  | false, true => some above
  | true, true =>
    if 2 * rest < cell.den then some below
    else if cell.den < 2 * rest then some above
    else match tie with
      | .up => some above
      | .toEven => some (if below.significand % 2 = 0 then below else above)

/-- A decimal without trailing zeros in its significand. -/
def Digits.stripped (d : Digits) : Digits :=
  let digits := (Nat.toDigits 10 d.significand).reverse
  let zeros := (digits.takeWhile (· = '0')).length
  if d.significand = 0 then ⟨0, 0⟩ else ⟨d.significand / Nat.pow 10 zeros, d.exponent + zeros⟩

/-- The shortest decimal that reads back, the closest of those, with no trailing zeros. -/
def Binary.shortest (b : Binary) (tie : Tie) : Digits :=
  if b.mantissa = 0 then ⟨0, 0⟩
  else
    let point := b.decimalPoint
    let grids := (List.range 17).map fun (n : Nat) => point - ((n : Int) + 1)
    (grids.findSome? (b.onGrid tie)).getD ⟨b.mantissa, 0⟩ |>.stripped

end SchemaRouting.Decimal
