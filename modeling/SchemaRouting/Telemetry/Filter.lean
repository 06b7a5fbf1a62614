import SchemaRouting.Regex.Reader
import SchemaRouting.Text.Split
import SchemaRouting.Text.Utf8

/-!
Log filters. A filter is a list of directives with commas between them, of which empty ones
count for nothing. A directive says how much detail is kept: of everything, or of what comes
from a target, or inside a span of some name or with some field, which may have to have a
value. Where it names no level it keeps everything.
-/

set_option autoImplicit false

namespace SchemaRouting.Telemetry

/-- How much is kept, from nothing to everything. -/
inductive Threshold
  | off | error | warn | info | debug | trace
  deriving DecidableEq

namespace Threshold

def all : List Threshold := [off, error, warn, info, debug, trace]

def name : Threshold → String
  | off => "off"
  | error => "error"
  | warn => "warn"
  | info => "info"
  | debug => "debug"
  | trace => "trace"

private def number? (cs : List Char) : Option Nat :=
  let digits := match cs with
    | '+' :: rest => rest
    | cs => cs
  if digits.isEmpty || !digits.all Char.isDigit then none
  else some (digits.foldl (fun n c => n * 10 + (c.toNat - '0'.toNat)) 0)

/-- A level by its place among them, or by its name in any case of letters. -/
def ofText? (s : String) : Option Threshold :=
  match number? s.toList with
  | some n => all[n]?
  | none => all.find? fun level => level.name.toList = s.toList.map Char.toLower

end Threshold

/-- What a filter keeps, and how much of it. -/
structure Directive where
  target : Option String
  span : Option String
  fields : List String
  level : Threshold
  deriving DecidableEq

namespace Directive

/-- What may follow a target or a span: nothing, or an equals sign and a level. A level is set
only where no white space is around the directive. -/
def levelAfter? (padded : Bool) : List Char → Option Threshold
  | [] => some .trace
  | ['='] => if padded then none else some .trace
  | '=' :: rest => if padded then none else Threshold.ofText? (String.ofList rest)
  | _ => none

private def isDigits (cs : List Char) : Bool := !cs.isEmpty && cs.all Char.isDigit

private def unsigned : List Char → List Char
  | '+' :: rest | '-' :: rest => rest
  | cs => cs

/-- A number in decimal notation, perhaps with a sign, a point and an exponent, an infinity, or
not a number. -/
def isNumber (cs : List Char) : Bool :=
  let cs := unsigned cs
  let name := String.ofList (cs.map Char.toLower)
  let whole := cs.takeWhile Char.isDigit
  let (fraction, rest) := match cs.dropWhile Char.isDigit with
    | '.' :: rest => (rest.takeWhile Char.isDigit, rest.dropWhile Char.isDigit)
    | rest => ([], rest)
  let scaled := match rest with
    | [] => true
    | e :: rest => (e == 'e' || e == 'E') && isDigits (unsigned rest)
  name == "inf" || name == "infinity" || name == "nan" ||
    (!(whole ++ fraction).isEmpty && scaled)

/-- A field is a name, and perhaps an equals sign and the value that it has to have: a number or
a regular expression. What follows a second equals sign is passed over. -/
def isField (s : String) : Bool :=
  match Text.split '=' s with
  | _ :: value :: _ => isNumber value.toList || (Regex.ofText? value).isSome
  | _ => !s.isEmpty

/-- What stands in square brackets: the name of a span, and perhaps a field in braces. The text
of the field is told from what follows its brace and how much of that it takes. -/
def spanPart? (fieldAt : List Char → List Char → Option String) (cs : List Char) :
    Option (Option String × List String × List Char) :=
  let isName (c : Char) : Bool := c ≠ ']' && c ≠ '\x7b'
  let name := String.ofList (cs.takeWhile isName)
  match cs.dropWhile isName with
  | ']' :: rest => some (some name, [], rest)
  | '\x7b' :: inner =>
    match inner.dropWhile (· ≠ '\x7d') with
    | '\x7d' :: ']' :: rest => do
      let field ← fieldAt inner (inner.takeWhile (· ≠ '\x7d'))
      if isField field then return (if name.isEmpty then none else some name, [field], rest)
      else none
    | _ => none
  | _ => none

/-- Whether a directive may start with a character. -/
def isStart (c : Char) : Bool :=
  c == '[' || c == '-' || c == ':' || c == '_' || Text.isWordChar c

/-- White space around a directive is passed over, but makes of a level a target. A field is
taken from its place in the directive without white space, though from the text with it. -/
def ofText? (s : String) : Option Directive :=
  let cs := Text.trimChars s.toList
  let padded := cs ≠ s.toList
  let isTarget (c : Char) : Bool := c ≠ '=' && c ≠ '['
  let target := String.ofList (cs.takeWhile isTarget)
  let size (part : List Char) : Nat := (String.ofList part).utf8ByteSize
  let fieldAt (inner field : List Char) : Option String :=
    Text.ofUtf8? (((Text.utf8 s).drop (size cs - size inner)).take (size field))
  if !cs.head?.any isStart then none
  else
    match cs.dropWhile isTarget with
    | [] =>
      match Threshold.ofText? s with
      | some level => some ⟨none, none, [], level⟩
      | none => some ⟨some target, none, [], .trace⟩
    | '[' :: rest => do
      let (span, fields, rest) ← spanPart? fieldAt rest
      let level ← levelAfter? padded rest
      return ⟨if target.isEmpty then none else some target, span, fields, level⟩
    | rest => (levelAfter? padded rest).map fun level => ⟨some target, none, [], level⟩

end Directive

abbrev Filter := List Directive

/-- The directives of a filter, if each of them is one. -/
def Filter.ofText? (s : String) : Option Filter :=
  ((Text.split ',' s).filter fun part => !part.isEmpty).mapM Directive.ofText?

end SchemaRouting.Telemetry
