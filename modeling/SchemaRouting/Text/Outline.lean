import SchemaRouting.Text.Hidden

/-!
One-line descriptions of data for people: records with named fields, constructors with
arguments, lists and maps. Texts stand between quotes; a character that would not be seen is
written by its code point.
-/

set_option autoImplicit false

namespace SchemaRouting

/-- What a description shows. -/
inductive Outline
  | word (s : String)
  | quoted (s : String)
  | call (name : String) (arguments : List Outline)
  | list (items : List Outline)
  | map (entries : List (Outline × Outline))
  /-- An open record ends in `..` for what it leaves out. -/
  | record (name : String) (fields : List (String × Outline)) (isOpen : Bool)

namespace Text

def hexText (n : Nat) : List Char := Nat.toDigits 16 n

/-- A character between double quotes. -/
def quotedChar (c : Char) : List Char :=
  if c = '"' then ['\\', '"']
  else if c = '\\' then ['\\', '\\']
  else if c = '\n' then ['\\', 'n']
  else if c = '\r' then ['\\', 'r']
  else if c = '\t' then ['\\', 't']
  else if c = '\x00' then ['\\', '0']
  else if isHidden c then ['\\', 'u', '\x7b'] ++ hexText c.toNat ++ ['\x7d']
  else [c]

def quoted (s : String) : String :=
  "\"" ++ String.ofList (s.toList.flatMap quotedChar) ++ "\""

end Text

namespace Outline

def bool (b : Bool) : Outline := word (if b then "true" else "false")

def nat (n : Nat) : Outline := word (Nat.repr n)

/-- A value that may be absent. -/
def option {α : Type} (write : α → Outline) : Option α → Outline
  | none => word "None"
  | some a => call "Some" [write a]

def optionalText (s : Option String) : Outline := option quoted s

mutual

def text : Outline → String
  | word s => s
  | quoted s => Text.quoted s
  | call name arguments => name ++ "(" ++ String.intercalate ", " (texts arguments) ++ ")"
  | list items => "[" ++ String.intercalate ", " (texts items) ++ "]"
  | map entries => "\x7b" ++ String.intercalate ", " (entryTexts entries) ++ "\x7d"
  | record name fields isOpen =>
    let shown := fieldTexts fields ++ (if isOpen then [".."] else [])
    if shown.isEmpty then name
    else name ++ " \x7b " ++ String.intercalate ", " shown ++ " \x7d"

def texts : List Outline → List String
  | [] => []
  | x :: xs => text x :: texts xs

def fieldTexts : List (String × Outline) → List String
  | [] => []
  | (name, x) :: xs => (name ++ ": " ++ text x) :: fieldTexts xs

def entryTexts : List (Outline × Outline) → List String
  | [] => []
  | (x, y) :: xs => (text x ++ ": " ++ text y) :: entryTexts xs

end

end Outline

end SchemaRouting
