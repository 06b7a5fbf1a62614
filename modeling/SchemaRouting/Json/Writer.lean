import SchemaRouting.Json.Tree
import SchemaRouting.Decimal.Layout

/-!
The compact text of a JSON value: no white space, members in their order, a whole number
without a point and a binary64 one in its shortest form, and in strings only the quote, the
backslash and control characters escaped.
-/

set_option autoImplicit false

namespace SchemaRouting.Json

/-- The layout of binary64 numbers: the point is written in place for leading exponents from
-5 to 15, a whole number ends in `.0`, and of two equally close decimals the even one is
taken. -/
def numberLayout : Decimal.Layout := ⟨some (-5, 15), true, .toEven⟩

def Number.text : Number → String
  | int n => if n < 0 then "-" ++ Nat.repr n.natAbs else Nat.repr n.natAbs
  | float x => numberLayout.text x

def hexDigit (n : Nat) : Char :=
  if n < 10 then Char.ofNat ('0'.toNat + n) else Char.ofNat ('a'.toNat + (n - 10))

/-- A character inside a string. -/
def escapeChar (c : Char) : List Char :=
  if c = '"' then ['\\', '"']
  else if c = '\\' then ['\\', '\\']
  else if c = '\x08' then ['\\', 'b']
  else if c = '\x0c' then ['\\', 'f']
  else if c = '\n' then ['\\', 'n']
  else if c = '\r' then ['\\', 'r']
  else if c = '\t' then ['\\', 't']
  else if c.toNat < 0x20 then
    ['\\', 'u', '0', '0', hexDigit (c.toNat / 16), hexDigit (c.toNat % 16)]
  else [c]

def quote (s : String) : String :=
  "\"" ++ String.ofList (s.toList.flatMap escapeChar) ++ "\""

mutual

/-- The text of a tree; nothing is written for what is broken. -/
def writeTree : Tree → String
  | .null => "null"
  | .bool true => "true"
  | .bool false => "false"
  | .number n => n.text
  | .string s => quote s
  | .date s => "\x7b" ++ quote Tree.dateKey ++ ":" ++ quote s ++ "\x7d"
  | .array items _ => "[" ++ String.intercalate "," (writeItems items) ++ "]"
  | .object members _ => "\x7b" ++ String.intercalate "," (writeMembers members) ++ "\x7d"
  | .broken => ""

def writeItems : List Tree → List String
  | [] => []
  | x :: xs => writeTree x :: writeItems xs

def writeMembers : List (String × Tree) → List String
  | [] => []
  | (key, x) :: xs => (quote key ++ ":" ++ writeTree x) :: writeMembers xs

end

/-- The text of a value. -/
def text (v : Json) : String := writeTree (Tree.ofJson v)

end SchemaRouting.Json
