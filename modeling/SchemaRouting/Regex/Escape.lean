import SchemaRouting.Regex.Basic
import SchemaRouting.Json.Token
import SchemaRouting.Text.Blank

/-!
The small parts of a regular expression: the space that may be skipped, and escapes. An escape
is a character, a class of characters or an edge of the text. There is none here that is
written with braces. The edges of words are told by bytes only, and what would match a byte
that is no character is refused.
-/

set_option autoImplicit false

namespace SchemaRouting.Regex

/-- What is left after white space and comments, each of which goes on to the end of its line. -/
def skipSpace (inComment : Bool) : List Char → List Char
  | [] => []
  | c :: rest =>
    if inComment then skipSpace (c != '\n') rest
    else if Text.isBlank c then skipSpace false rest
    else if c = '#' then skipSpace true rest
    else c :: rest

/-- What is left after space that means nothing. -/
def skip (mode : Mode) (cs : List Char) : List Char :=
  if mode.spaced then skipSpace false cs else cs

/-- What one escape stands for. -/
inductive Atom
  | character (c : Char)
  | named
  | edge

/-- Some number of hexadecimal digits, added to the value so far. -/
def hexDigits? (mode : Mode) : Nat → Nat → List Char → Option (Nat × List Char)
  | 0, value, rest => some (value, rest)
  | _ + 1, _, [] => none
  | count + 1, value, c :: rest => do
    let digit ← Json.Token.hexValue? c
    hexDigits? mode count (value * 16 + digit) (skip mode rest)

/-- How many digits the escape of a code point takes, by its letter. -/
def hexLength? : Char → Option Nat
  | 'x' => some 2
  | 'u' => some 4
  | 'U' => some 8
  | _ => none

/-- The letters of the general categories, in either case. -/
def categories : List Char := ['C', 'L', 'M', 'N', 'P', 'S', 'Z']

/-- The characters that are escaped by a letter. -/
def letterEscape? : Char → Option Char
  | 'a' => some '\x07'
  | 'f' => some '\x0c'
  | 't' => some '\t'
  | 'n' => some '\n'
  | 'r' => some '\r'
  | 'v' => some '\x0b'
  | _ => none

/-- Whether a character may be escaped as itself. -/
def isEscapable (c : Char) : Bool :=
  c.toNat < 0x80 && !c.isAlphanum && c != '<' && c != '>'

/-- What follows a backslash. -/
def escape? (mode : Mode) : List Char → Option (Atom × List Char)
  | [] => none
  | c :: rest =>
    match hexLength? c with
    | some count => do
      let (n, rest) ← hexDigits? mode count 0 (skip mode rest)
      if c = 'x' && 0x7F < n && !mode.unicode then none
      else if n.isValidChar then some (.character (Char.ofNat n), rest)
      else none
    | none =>
      if c = 'p' || c = 'P' then
        match skip mode rest with
        | letter :: rest =>
          if mode.unicode && categories.contains letter.toUpper then some (.named, skip mode rest)
          else none
        | [] => none
      else if ['d', 's', 'w'].contains c then some (.named, rest)
      else if ['D', 'S', 'W'].contains c then
        if mode.unicode then some (.named, rest) else none
      else if ['b', 'B', '<', '>'].contains c then
        if mode.unicode then none else some (.edge, rest)
      else if c = 'A' || c = 'z' then some (.edge, rest)
      else if isEscapable c then some (.character c, rest)
      else (letterEscape? c).map fun d => (.character d, rest)

end SchemaRouting.Regex
