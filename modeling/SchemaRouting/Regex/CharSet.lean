import SchemaRouting.Regex.Escape

/-!
Sets of characters in square brackets. A set holds characters, ranges, classes and other sets,
and may be combined with a second one; a caret first negates it. A minus or a closing bracket
that comes first stands for itself.
-/

set_option autoImplicit false

namespace SchemaRouting.Regex

/-- A set that is open: what it is to be combined with, and its parts so far in reverse. -/
structure OpenSet where
  negated : Bool
  left : Option CharSet
  parts : List CharSet

namespace OpenSet

def add (s : OpenSet) (part : CharSet) : OpenSet := { s with parts := part :: s.parts }

/-- What was read so far. -/
def whole (s : OpenSet) : CharSet :=
  let right := CharSet.ofParts s.parts.reverse
  match s.left with
  | some left => .combined left right
  | none => right

/-- Starts the second set of a combination. -/
def combine (s : OpenSet) : OpenSet := { s with left := some s.whole, parts := [] }

def close (s : OpenSet) : CharSet := .bracketed s.negated s.whole

end OpenSet

/-- The minus signs at the start of a set, each of which stands for itself. -/
def dashes (mode : Mode) : Nat → List CharSet → List Char → List CharSet × List Char
  | fuel + 1, read, '-' :: rest => dashes mode fuel (.character '-' :: read) (skip mode rest)
  | _, read, rest => (read, rest)

/-- The start of a set, after its bracket. A negated set would match bytes that are no
characters. -/
def openSet? (mode : Mode) (cs : List Char) : Option (OpenSet × List Char) :=
  let (negated, cs) := match skip mode cs with
    | '^' :: rest => (true, skip mode rest)
    | rest => (false, rest)
  if negated && !mode.unicode then none
  else
    match dashes mode cs.length [] cs with
    | ([], ']' :: rest) => some (⟨negated, none, [.character ']']⟩, skip mode rest)
    | (read, rest) => some (⟨negated, none, read⟩, rest)

/-- The classes that are written by their names. -/
def classNames : List String :=
  ["alnum", "alpha", "ascii", "blank", "cntrl", "digit", "graph", "lower", "print", "punct",
    "space", "upper", "word", "xdigit"]

/-- A class written by its name, after its bracket, and whether it is negated. -/
def namedClass? : List Char → Option (Bool × List Char)
  | ':' :: rest =>
    let (negated, rest) := match rest with
      | '^' :: rest => (true, rest)
      | rest => (false, rest)
    match rest.dropWhile (· ≠ ':') with
    | ':' :: ']' :: after =>
      if classNames.contains (String.ofList (rest.takeWhile (· ≠ ':'))) then some (negated, after)
      else none
    | _ => none
  | _ => none

/-- A character or class; what stands for bytes takes no character of several bytes. -/
def setAtom? (mode : Mode) : List Char → Option (CharSet × List Char)
  | [] => none
  | '\\' :: rest => do
    match ← escape? mode rest with
    | (.character c, rest) =>
      if mode.unicode || c.toNat < 0x80 then some (.character c, rest) else none
    | (.named, rest) => some (.named, rest)
    | (.edge, _) => none
  | c :: rest => if mode.unicode || c.toNat < 0x80 then some (.character c, rest) else none

/-- The character after a minus; of a comment only its mark is passed over. -/
def afterDash (mode : Mode) (cs : List Char) : Option Char :=
  if mode.spaced then
    match cs.dropWhile Text.isBlank with
    | '#' :: rest => (rest.dropWhile Text.isBlank).head?
    | rest => rest.head?
  else cs.head?

/-- A character, a class, or a range of characters that does not run backwards. A minus before
another one or before the end of the set makes no range. -/
def setPart? (mode : Mode) (cs : List Char) : Option (CharSet × List Char) := do
  let (first, rest) ← setAtom? mode cs
  match skip mode rest with
  | '-' :: after =>
    if afterDash mode after = some ']' || afterDash mode after = some '-' then
      some (first, '-' :: after)
    else
      match first, ← setAtom? mode (skip mode after) with
      | .character first, (.character last, rest) =>
        if first ≤ last then some (.range first last, rest) else none
      | _, _ => none
  | rest => some (first, rest)

/-- The rest of a set that is open inside others; each round takes at least one character. -/
def readSet? (mode : Mode) : Nat → OpenSet → List OpenSet → List Char → Option (CharSet × List Char)
  | 0, _, _, _ => none
  | fuel + 1, s, outer, cs =>
    match skip mode cs with
    | [] => none
    | '[' :: rest =>
      match namedClass? rest with
      | some (negated, rest) =>
        if negated && !mode.unicode then none else readSet? mode fuel (s.add .named) outer rest
      | none => do
        let (inner, rest) ← openSet? mode rest
        readSet? mode fuel inner (s :: outer) rest
    | ']' :: rest =>
      match outer with
      | [] => some (s.close, rest)
      | t :: outer => readSet? mode fuel (t.add s.close) outer rest
    | '&' :: '&' :: rest | '-' :: '-' :: rest | '~' :: '~' :: rest =>
      readSet? mode fuel s.combine outer rest
    | cs => do
      let (part, rest) ← setPart? mode cs
      readSet? mode fuel (s.add part) outer rest

/-- A set, after its bracket. -/
def set? (mode : Mode) (cs : List Char) : Option (CharSet × List Char) := do
  let (s, rest) ← openSet? mode cs
  readSet? mode (cs.length + 1) s [] rest

end SchemaRouting.Regex
