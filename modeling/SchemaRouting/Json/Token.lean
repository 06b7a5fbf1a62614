import SchemaRouting.Json.Tree
import SchemaRouting.Decimal.Reading

/-!
The tokens of a JSON text: marks, and scalars already read. Each token takes at least one
character, so a text has at most as many tokens as characters, and what cannot be read as a
token ends the list with `bad`.
-/

set_option autoImplicit false

namespace SchemaRouting.Json

inductive Token
  | openArray | closeArray | openObject | closeObject | comma | colon
  /-- A string, unless a unit of a pair stands alone in it. -/
  | text (s : Option String)
  | scalar (t : Tree)
  | bad

namespace Token

/-- The four characters between tokens that mean nothing. -/
def isSpace (c : Char) : Bool := c == ' ' || c == '\n' || c == '\t' || c == '\r'

def hexValue? (c : Char) : Option Nat :=
  if '0' ≤ c && c ≤ '9' then some (c.toNat - '0'.toNat)
  else if 'a' ≤ c && c ≤ 'f' then some (c.toNat - 'a'.toNat + 10)
  else if 'A' ≤ c && c ≤ 'F' then some (c.toNat - 'A'.toNat + 10)
  else none

/-- The unit written by four hexadecimal digits. -/
def unit? (a b c d : Char) : Option Nat := do
  let a ← hexValue? a
  let b ← hexValue? b
  let c ← hexValue? c
  let d ← hexValue? d
  return ((a * 16 + b) * 16 + c) * 16 + d

/-- The character that a one-letter escape stands for. -/
def escaped? : Char → Option Char
  | '"' => some '"'
  | '\\' => some '\\'
  | '/' => some '/'
  | 'b' => some '\x08'
  | 'f' => some '\x0c'
  | 'n' => some '\n'
  | 'r' => some '\r'
  | 't' => some '\t'
  | _ => none

/-- The rest of a string after its opening quote, as numbers of characters and of units that
were written by escapes; those read so far are in reverse. -/
def units? (read : List Nat) : List Char → Option (List Nat × List Char)
  | [] => none
  | '"' :: rest => some (read.reverse, rest)
  | '\\' :: 'u' :: a :: b :: c :: d :: rest =>
    match unit? a b c d with
    | none => none
    | some n => units? (n :: read) rest
  | '\\' :: c :: rest =>
    match escaped? c with
    | none => none
    | some d => units? (d.toNat :: read) rest
  | c :: rest => if c.toNat < 0x20 || c = '\\' then none else units? (c.toNat :: read) rest

def isFirstOfPair (n : Nat) : Bool := 0xD800 ≤ n && n ≤ 0xDBFF

def isSecondOfPair (n : Nat) : Bool := 0xDC00 ≤ n && n ≤ 0xDFFF

/-- The characters of such numbers: a character above U+FFFF may be written as two units, and
a unit of such a pair alone is no character. -/
def ofUnits? (read : List Char) : List Nat → Option (List Char)
  | [] => some read.reverse
  | n :: m :: rest =>
    if isFirstOfPair n then
      if isSecondOfPair m then
        ofUnits? (Char.ofNat (0x10000 + (n - 0xD800) * 0x400 + (m - 0xDC00)) :: read) rest
      else none
    else if isSecondOfPair n then none
    else ofUnits? (Char.ofNat n :: read) (m :: rest)
  | [n] =>
    if isFirstOfPair n || isSecondOfPair n then none else some (Char.ofNat n :: read).reverse

def isDigit (c : Char) : Bool := '0' ≤ c && c ≤ '9'

/-- Leading digits, and the rest. -/
def digits (cs : List Char) : List Char × List Char :=
  (cs.takeWhile isDigit, cs.dropWhile isDigit)

/-- The exponent of a number, after its `e`: its sign, its digits and the rest. -/
def exponent? (cs : List Char) : Option (Int × List Char) :=
  let (negative, cs) := match cs with
    | '+' :: rest => (false, rest)
    | '-' :: rest => (true, rest)
    | rest => (false, rest)
  let (ds, rest) := digits cs
  if ds.isEmpty then none
  else
    let n : Int := ds.foldl (fun n d => n * 10 + Decimal.digitValue d) 0
    some (if negative then -n else n, rest)

/-- The fraction of a number, after its point, added to the whole part. -/
def fraction? (s : Decimal.Significand) (cs : List Char) :
    Option (Decimal.Significand × List Char) :=
  let (ds, rest) := digits cs
  if ds.isEmpty then none else some (s.fraction ds, rest)

/-- A whole number: within 64 bits as it stands, beyond them and for a negative zero the
closest binary64 number. -/
def wholeNumber (negative : Bool) (s : Decimal.Significand) : Option Number :=
  if s.shift = 0 then
    if !negative then some (.int s.word)
    else if s.word = 0 || Int64.minValue.toInt.natAbs < s.word then
      some (.float (-s.word.toUInt64.toFloat))
    else some (.int (-s.word))
  else (Decimal.ofParts negative s.word s.shift).map .float

/-- A number with a fraction or an exponent. An exponent that does not fit 32 bits makes zero
of a number unless it is positive and the significand is not zero. -/
def scaledNumber (negative : Bool) (s : Decimal.Significand) (exponent : Int) : Option Number :=
  if exponent.natAbs ≤ Int32.maxValue.toInt.toNat then
    (Decimal.ofParts negative s.word (s.shift + exponent)).map .float
  else if 0 < exponent && s.word ≠ 0 then none
  else some (.float (if negative then -0.0 else 0.0))

/-- The number that a text starts with, its sign already read: none where no number is written
there, and nothing for its value where it is out of range. -/
def number? (negative : Bool) (cs : List Char) : Option (Option Number × List Char) := do
  let (ds, rest) := digits cs
  let whole ← match ds with
    | [] => none
    | ['0'] => some ds
    | '0' :: _ => none
    | _ => some ds
  let s := Decimal.Significand.whole whole
  let (s, pointed, rest) ← match rest with
    | '.' :: rest => (fraction? s rest).map fun (s, rest) => (s, true, rest)
    | rest => some (s, false, rest)
  match rest with
  | 'e' :: rest | 'E' :: rest =>
    let (exponent, rest) ← exponent? rest
    return (scaledNumber negative s exponent, rest)
  | rest => return (if pointed then scaledNumber negative s 0 else wholeNumber negative s, rest)

/-- A number as a token; the value of one that is out of range is broken. -/
def numberToken (negative : Bool) (cs : List Char) : Token × List Char :=
  match number? negative cs with
  | some (some n, rest) => (scalar (.number n), rest)
  | some (none, rest) => (scalar .broken, rest)
  | none => (bad, [])

/-- The first token of a text that does not start with space, and the rest. -/
def next : List Char → Token × List Char
  | [] => (bad, [])
  | '[' :: rest => (openArray, rest)
  | ']' :: rest => (closeArray, rest)
  | '\x7b' :: rest => (openObject, rest)
  | '\x7d' :: rest => (closeObject, rest)
  | ',' :: rest => (comma, rest)
  | ':' :: rest => (colon, rest)
  | '"' :: rest =>
    match units? [] rest with
    | some (units, rest) => (text ((ofUnits? [] units).map String.ofList), rest)
    | none => (bad, [])
  | 'n' :: 'u' :: 'l' :: 'l' :: rest => (scalar .null, rest)
  | 't' :: 'r' :: 'u' :: 'e' :: rest => (scalar (.bool true), rest)
  | 'f' :: 'a' :: 'l' :: 's' :: 'e' :: rest => (scalar (.bool false), rest)
  | '-' :: rest => numberToken true rest
  | c :: rest => numberToken false (c :: rest)

/-- At most `count` tokens of a text. -/
def upTo : Nat → List Char → List Token
  | 0, _ => []
  | count + 1, cs =>
    match cs.dropWhile isSpace with
    | [] => []
    | c :: rest =>
      let (token, rest) := next (c :: rest)
      token :: upTo count rest

/-- The tokens of a text: no text has more tokens than characters. -/
def all (cs : List Char) : List Token := upTo cs.length cs

end Token

end SchemaRouting.Json
