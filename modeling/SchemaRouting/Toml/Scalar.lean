import SchemaRouting.Json.Token

/-!
The scalars of a TOML text: quoted strings on one line or several, whole numbers in four
bases, binary64 numbers, dates and times. A reader takes what it recognises off the front of
the text and leaves the rest.
-/

set_option autoImplicit false

namespace SchemaRouting.Toml

/-- A reader that takes something off the front of a text. -/
abbrev Take (α : Type) := List Char → Option (α × List Char)

def isGap (c : Char) : Bool := c == ' ' || c == '\t'

def isDigit (c : Char) : Bool := '0' ≤ c && c ≤ '9'

/-- A character that may stand unescaped in a string or a comment. -/
def isPlain (c : Char) : Bool := c == '\t' || (0x20 ≤ c.toNat && c.toNat ≠ 0x7F)

/-- The rest of a text after a line end, if one comes first. -/
def afterNewline? : List Char → Option (List Char)
  | '\n' :: rest => some rest
  | '\r' :: '\n' :: rest => some rest
  | _ => none

/-- The character of a code point that is one. -/
def charOf? (n : Nat) : Option Char :=
  if n < 0xD800 || (0xDFFF < n && n < 0x110000) then some (Char.ofNat n) else none

def hexChar? (digits : List Char) : Option Char := do
  let n ← digits.foldlM (fun n c => (Json.Token.hexValue? c).map (n * 16 + ·)) 0
  charOf? n

def escaped? : Char → Option Char
  | 'b' => some '\x08'
  | 't' => some '\t'
  | 'n' => some '\n'
  | 'f' => some '\x0c'
  | 'r' => some '\r'
  | '"' => some '"'
  | '\\' => some '\\'
  | _ => none

/-- A string on one line after its opening quote. -/
def basicString (read : List Char) : Take String
  | [] => none
  | '"' :: rest => some (String.ofList read.reverse, rest)
  | '\\' :: 'u' :: a :: b :: c :: d :: rest =>
    match hexChar? [a, b, c, d] with
    | some x => basicString (x :: read) rest
    | none => none
  | '\\' :: 'U' :: a :: b :: c :: d :: e :: f :: g :: h :: rest =>
    match hexChar? [a, b, c, d, e, f, g, h] with
    | some x => basicString (x :: read) rest
    | none => none
  | '\\' :: c :: rest =>
    match escaped? c with
    | some x => basicString (x :: read) rest
    | none => none
  | c :: rest => if isPlain c && c != '\\' then basicString (c :: read) rest else none

def literalString (read : List Char) : Take String
  | [] => none
  | '\'' :: rest => some (String.ofList read.reverse, rest)
  | c :: rest => if isPlain c then literalString (c :: read) rest else none

/-- The end of a string on several lines: three quotes, and before them up to two that belong
to the string. -/
def closing? (quote : Char) (cs : List Char) : Option (List Char × List Char) :=
  let run := (cs.takeWhile (· = quote)).length
  if run < 3 then none
  else some (List.replicate (min (run - 3) 2) quote, cs.drop (min run 5))

/-- Whether a line ends here but for gaps. -/
def endsLine (cs : List Char) : Bool := (afterNewline? (cs.dropWhile isGap)).isSome

/-- A string on several lines. After a backslash at the end of a line, all gaps and line ends
are skipped up to the next other character. -/
def basicLines (skipping : Bool) (read : List Char) : Take String
  | [] => none
  | '\\' :: 'u' :: a :: b :: c :: d :: rest =>
    match hexChar? [a, b, c, d] with
    | some x => basicLines false (x :: read) rest
    | none => none
  | '\\' :: 'U' :: a :: b :: c :: d :: e :: f :: g :: h :: rest =>
    match hexChar? [a, b, c, d, e, f, g, h] with
    | some x => basicLines false (x :: read) rest
    | none => none
  | '\\' :: c :: rest =>
    if endsLine (c :: rest) then basicLines true read (c :: rest)
    else match escaped? c with
      | some x => basicLines false (x :: read) rest
      | none => none
  | '\r' :: '\n' :: rest => basicLines skipping (if skipping then read else '\n' :: read) rest
  | c :: rest =>
    match if c = '"' then closing? '"' (c :: rest) else none with
    | some (last, rest) => some (String.ofList (read.reverse ++ last), rest)
    | none =>
      if skipping && (isGap c || c = '\n') then basicLines true read rest
      else if (isPlain c || c = '\n') && c != '\\' then basicLines false (c :: read) rest
      else none

def literalLines (read : List Char) : Take String
  | [] => none
  | '\r' :: '\n' :: rest => literalLines ('\n' :: read) rest
  | c :: rest =>
    match if c = '\'' then closing? '\'' (c :: rest) else none with
    | some (last, rest) => some (String.ofList (read.reverse ++ last), rest)
    | none => if isPlain c || c = '\n' then literalLines (c :: read) rest else none

/-- The text without the line end that may follow an opening of several lines. -/
def withoutFirstNewline (cs : List Char) : List Char := (afterNewline? cs).getD cs

/-- A string of any of the four forms. -/
def anyString : Take String
  | '"' :: '"' :: '"' :: rest => basicLines false [] (withoutFirstNewline rest)
  | '"' :: rest => basicString [] rest
  | '\'' :: '\'' :: '\'' :: rest => literalLines [] (withoutFirstNewline rest)
  | '\'' :: rest => literalString [] rest
  | _ => none

/-- Further digits, each of which may follow one underscore; an underscore that no digit
follows makes the whole unreadable. -/
def moreDigits (isDigit : Char → Bool) (read : List Char) : Take (List Char)
  | '_' :: c :: rest => if isDigit c then moreDigits isDigit (c :: read) rest else none
  | ['_'] => none
  | c :: rest =>
    if isDigit c then moreDigits isDigit (c :: read) rest else some (read.reverse, c :: rest)
  | [] => some (read.reverse, [])

def digitRun (isDigit : Char → Bool) : Take (List Char)
  | c :: rest => if isDigit c then moreDigits isDigit [c] rest else none
  | [] => none

/-- The sign that may come first: whether it is a minus. -/
def sign : List Char → Bool × List Char
  | '+' :: rest => (false, rest)
  | '-' :: rest => (true, rest)
  | rest => (false, rest)

/-- The digits of a whole decimal number, which starts with zero only if it is zero. -/
def wholeDigits : Take (List Char)
  | '0' :: rest => some (['0'], rest)
  | rest => digitRun isDigit rest

def natOf (base : Nat) (digits : List Char) : Nat :=
  digits.foldl (fun n c => n * base + (Json.Token.hexValue? c).getD 0) 0

def inWord (n : Int) : Option Int := if Json.fitsWord n then some n else none

/-- A whole number within 64 bits. -/
def integer : Take Int := fun cs => do
  let based (base : Nat) (isDigit : Char → Bool) (cs : List Char) : Option (Int × List Char) := do
    let (ds, rest) ← digitRun isDigit cs
    return (← inWord (natOf base ds), rest)
  match cs with
  | '0' :: 'x' :: rest => based 16 (fun c => (Json.Token.hexValue? c).isSome) rest
  | '0' :: 'o' :: rest => based 8 (fun c => '0' ≤ c && c ≤ '7') rest
  | '0' :: 'b' :: rest => based 2 (fun c => c = '0' || c = '1') rest
  | cs =>
    let (negative, cs) := sign cs
    let (ds, rest) ← wholeDigits cs
    let n : Int := natOf 10 ds
    return (← inWord (if negative then -n else n), rest)

/-- The binary64 number closest to `significand * 10 ^ exponent`. -/
def closest (significand : Nat) (exponent : Int) : Float :=
  if significand = 0 then 0.0
  else
    let size : Int := (Nat.repr significand).length + exponent
    if 400 < size then 1.0 / 0.0
    else if size < -400 then 0.0
    else if exponent < 0 then Float.ofScientific significand true exponent.natAbs
    else Float.ofScientific significand false exponent.natAbs

/-- The exponent of a number, if one comes next. -/
def exponent : Take Int
  | c :: rest =>
    if c = 'e' || c = 'E' then do
      let (negative, rest) := sign rest
      let (ds, rest) ← digitRun isDigit rest
      let n : Int := natOf 10 ds
      return (if negative then -n else n, rest)
    else none
  | [] => none

/-- A binary64 number: one with a fraction or an exponent, an infinity, or not a number. -/
def float : Take Float := fun cs => do
  let (negative, cs) := sign cs
  let signed (x : Float) : Float := if negative then -x else x
  match cs with
  | 'i' :: 'n' :: 'f' :: rest => return (signed (1.0 / 0.0), rest)
  | 'n' :: 'a' :: 'n' :: rest => return (signed (0.0 / 0.0), rest)
  | cs =>
    let (whole, rest) ← wholeDigits cs
    let (fraction, scale, rest) ← match rest with
      | '.' :: rest => do
        let (fraction, rest) ← digitRun isDigit rest
        match exponent rest with
        | some (e, rest) => some (fraction, e, rest)
        | none => some (fraction, 0, rest)
      | rest => (exponent rest).map fun (e, rest) => ([], e, rest)
    let x := signed (closest (natOf 10 (whole ++ fraction)) (scale - fraction.length))
    if x.isInf && !negative then none else some (x, rest)

end SchemaRouting.Toml
