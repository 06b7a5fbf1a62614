import SchemaRouting.Decimal.Shortest

/-!
How a decimal is written out. A layout says which exponents of the leading digit are written
with the point in its place, whether a whole number keeps `.0`, and how a tie between two
shortest decimals is settled.
-/

set_option autoImplicit false

namespace SchemaRouting.Decimal

/-- The decisions of a number format. -/
structure Layout where
  /-- The exponents of the leading digit that are written with the point in place;
  `none` for all of them. -/
  positional : Option (Int × Int)
  /-- Whether a whole number ends in `.0`. -/
  pointZero : Bool
  /-- Which of two equally close shortest decimals is written. -/
  tie : Tie

/-- Digits with the decimal point after the first `point` of them, padded with zeros. -/
def positionalText (digits : String) (point : Int) (pointZero : Bool) : String :=
  let count : Int := digits.length
  if count ≤ point then
    digits ++ String.ofList (List.replicate (point - count).toNat '0') ++
      (if pointZero then ".0" else "")
  else if 0 < point then
    String.ofList (digits.toList.take point.toNat) ++ "." ++
      String.ofList (digits.toList.drop point.toNat)
  else
    "0." ++ String.ofList (List.replicate (-point).toNat '0') ++ digits

/-- Digits in scientific notation, with the sign of the exponent written. -/
def scientificText (digits : String) (leading : Int) : String :=
  let head := String.ofList (digits.toList.take 1)
  let tail := String.ofList (digits.toList.drop 1)
  head ++ (if tail.isEmpty then "" else "." ++ tail) ++ "e" ++
    (if leading < 0 then "-" else "+") ++ Nat.repr leading.natAbs

def Layout.digitsText (layout : Layout) (d : Digits) : String :=
  let digits := Nat.repr d.significand
  let point := (digits.length : Int) + d.exponent
  if d.significand = 0 then (if layout.pointZero then "0.0" else "0")
  else match layout.positional with
    | none => positionalText digits point layout.pointZero
    | some (low, high) =>
      if low ≤ point - 1 && point - 1 ≤ high then positionalText digits point layout.pointZero
      else scientificText digits (point - 1)

/-- The text of a finite number, with the sign of a negative zero kept. -/
def Layout.text (layout : Layout) (x : Float) : String :=
  let negative := x.toBits >>> 63 = 1
  (if negative then "-" else "") ++
    layout.digitsText ((Binary.ofFloat x).shortest layout.tie)

end SchemaRouting.Decimal
