import SchemaRouting.Toml.Scalar

/-!
Dates and times of a TOML text: a date, a time, or both, then with or without an offset. They
are kept as text in one spelling, with `T` between date and time and no trailing zeros in the
fraction of a second.
-/

set_option autoImplicit false

namespace SchemaRouting.Toml

private def twoDigits (low high : Nat) : Take String
  | a :: b :: rest =>
    let n := natOf 10 [a, b]
    if isDigit a && isDigit b && low ≤ n && n ≤ high then some (String.ofList [a, b], rest)
    else none
  | _ => none

private def isLeapYear (year : Nat) : Bool :=
  (year % 4 = 0 && year % 100 ≠ 0) || year % 400 = 0

private def daysIn (year month : Nat) : Nat :=
  if month = 2 then (if isLeapYear year then 29 else 28)
  else if month = 4 || month = 6 || month = 9 || month = 11 then 30
  else 31

/-- A date: year, month and day. -/
def date : Take String
  | a :: b :: c :: d :: '-' :: m :: n :: '-' :: e :: f :: rest =>
    let year := natOf 10 [a, b, c, d]
    let month := natOf 10 [m, n]
    let day := natOf 10 [e, f]
    if [a, b, c, d, m, n, e, f].all isDigit && 1 ≤ month && month ≤ 12 && 1 ≤ day &&
        day ≤ daysIn year month then
      some (String.ofList [a, b, c, d, '-', m, n, '-', e, f], rest)
    else none
  | _ => none

private def fractionText (digits : List Char) : String :=
  let kept := ((digits.take 9).reverse.dropWhile (· = '0')).reverse
  if kept.isEmpty then "" else "." ++ String.ofList kept

/-- A time of day, with an optional fraction of a second. -/
def time : Take String := fun cs => do
  let (hour, rest) ← twoDigits 0 23 cs
  let rest ← match rest with
    | ':' :: rest => some rest
    | _ => none
  let (minute, rest) ← twoDigits 0 59 rest
  let rest ← match rest with
    | ':' :: rest => some rest
    | _ => none
  let (second, rest) ← twoDigits 0 60 rest
  let text := hour ++ ":" ++ minute ++ ":" ++ second
  match rest with
  | '.' :: c :: more =>
    if isDigit c then
      let digits := (c :: more).takeWhile isDigit
      return (text ++ fractionText digits, (c :: more).dropWhile isDigit)
    else none
  | rest => return (text, rest)

/-- An offset from universal time; one of nothing is written ahead of it. -/
def offset : Take String
  | 'Z' :: rest | 'z' :: rest => some ("Z", rest)
  | c :: rest =>
    if c = '+' || c = '-' then do
      let (hour, rest) ← twoDigits 0 23 rest
      match rest with
      | ':' :: rest =>
        let (minute, rest) ← twoDigits 0 59 rest
        let ahead := c = '+' || (hour = "00" && minute = "00")
        return ((if ahead then "+" else "-") ++ hour ++ ":" ++ minute, rest)
      | _ => none
    else none
  | [] => none

/-- A date, a time, or a date with a time and perhaps an offset. -/
def datetime : Take String := fun cs =>
  match date cs with
  | none => time cs
  | some (day, rest) =>
    let both (more : List Char) : Option (String × List Char) := do
      let (clock, rest) ← time more
      match offset rest with
      | some (shift, rest) => return (day ++ "T" ++ clock ++ shift, rest)
      | none => return (day ++ "T" ++ clock, rest)
    match rest with
    | 'T' :: more | 't' :: more => both more
    | ' ' :: more => (both more).getD (day, rest)
    | rest => some (day, rest)

end SchemaRouting.Toml
