/-!
Regular expressions as trees: single characters and classes of them, sets in square brackets,
edges of the text, and what is built of these by repeating, grouping, following and choosing.
An expression may nest only so deep.
-/

set_option autoImplicit false

namespace SchemaRouting.Regex

/-- What stands in a set of characters. -/
inductive CharSet
  | character (c : Char)
  | range (first last : Char)
  /-- A class of characters that has a name, such as the digits. -/
  | named
  | bracketed (negated : Bool) (inner : CharSet)
  | union (parts : List CharSet)
  /-- What two sets have in common, or one of them without the other. -/
  | combined (left right : CharSet)

inductive Expression
  | character (c : Char)
  | anyCharacter
  | named
  | set (s : CharSet)
  /-- A place between characters, such as the start of the text. -/
  | edge
  /-- A change of how the rest of the group is read. -/
  | flags
  | repeated (inner : Expression)
  | group (inner : Expression)
  | sequence (parts : List Expression)
  | either (branches : List Expression)

namespace CharSet

/-- The set of some parts, itself if there is but one. -/
def ofParts : List CharSet → CharSet
  | [s] => s
  | parts => union parts

mutual

/-- How deep a set nests. -/
def depth : CharSet → Nat
  | character _ | range .. | named => 0
  | bracketed _ inner => depth inner + 1
  | union parts => if parts.isEmpty then 0 else partsDepth parts + 1
  | combined left right => max (depth left) (depth right) + 1

def partsDepth : List CharSet → Nat
  | [] => 0
  | s :: rest => max (depth s) (partsDepth rest)

end

end CharSet

namespace Expression

/-- The sequence of some parts, itself if there is but one. -/
def ofParts : List Expression → Expression
  | [e] => e
  | parts => sequence parts

mutual

/-- How deep an expression nests; the empty one does not. -/
def depth : Expression → Nat
  | character _ | anyCharacter | named | edge | flags => 0
  | set s => s.depth
  | repeated inner | group inner => depth inner + 1
  | sequence parts => if parts.isEmpty then 0 else partsDepth parts + 1
  | either branches => partsDepth branches + 1

def partsDepth : List Expression → Nat
  | [] => 0
  | e :: rest => max (depth e) (partsDepth rest)

end

/-- How deep an expression may nest. -/
def depthLimit : Nat := 250

end Expression

/-- How a part of an expression is read. -/
structure Mode where
  /-- White space and comments mean nothing. -/
  spaced : Bool
  /-- It stands for characters; otherwise for bytes, of which it may match only those that are
  characters by themselves. -/
  unicode : Bool
  deriving DecidableEq

def Mode.standard : Mode := ⟨false, true⟩

end SchemaRouting.Regex
