import SchemaRouting.Toml.Table
import SchemaRouting.Toml.Datetime

/-!
TOML documents. A document is a sequence of lines that assign a value to a dotted key or open
a table; its tree holds the tables in the order in which they were made. A text that is no
TOML document has no tree at all, so a reader of typed data sees either a whole tree or none.
-/

set_option autoImplicit false

namespace SchemaRouting.Toml

/-- How many arrays and tables may be nested inside a value, and how many parts a key may
have. -/
def depthLimit : Nat := 79

def isKeyChar (c : Char) : Bool :=
  ('a' ≤ c && c ≤ 'z') || ('A' ≤ c && c ≤ 'Z') || isDigit c || c == '_' || c == '-'

/-- One part of a key. -/
def keyPart : Take String
  | '"' :: rest => basicString [] rest
  | '\'' :: rest => literalString [] rest
  | cs =>
    match cs.takeWhile isKeyChar with
    | [] => none
    | run => some (String.ofList run, cs.dropWhile isKeyChar)

def skipGap (cs : List Char) : List Char := cs.dropWhile isGap

/-- A key of at most some number of parts with points between them, as its path and its last
part; what follows it starts with no gap. -/
def keyUpTo : Nat → Take (List String × String)
  | 0, _ => none
  | count + 1, cs => do
    let (part, rest) ← keyPart (skipGap cs)
    match skipGap rest with
    | '.' :: rest =>
      let ((path, last), rest) ← keyUpTo count rest
      return ((part :: path, last), rest)
    | rest => return (([], part), rest)

def dottedKey : Take (List String × String) := keyUpTo depthLimit

/-- The rest of a line after a comment, which holds no control characters. -/
def skipComment : List Char → Option (List Char)
  | '#' :: rest => some (rest.dropWhile isPlain)
  | rest => some rest

/-- Gaps, comments and line ends, as they may stand between the items of an array. -/
def skipBlank : Nat → List Char → Option (List Char)
  | 0, _ => none
  | fuel + 1, cs =>
    match skipGap cs with
    | '#' :: rest =>
      match afterNewline? (rest.dropWhile isPlain) with
      | some rest => skipBlank fuel rest
      | none => none
    | rest =>
      match afterNewline? rest with
      | some rest => skipBlank fuel rest
      | none => some rest

/-- A value that is neither an array nor an inline table. -/
def scalar : Take Tree := fun cs =>
  match cs with
  | 't' :: 'r' :: 'u' :: 'e' :: rest => some (.bool true, rest)
  | 'f' :: 'a' :: 'l' :: 's' :: 'e' :: rest => some (.bool false, rest)
  | '"' :: _ | '\'' :: _ => (anyString cs).map fun (s, rest) => (.string s, rest)
  | _ =>
    match datetime cs with
    | some (s, rest) => some (.date s, rest)
    | none =>
      match float cs with
      | some (x, rest) => some (.number (.float x), rest)
      | none => (integer cs).map fun (n, rest) => (.number (.int n), rest)

mutual

/-- A value; `depth` counts the arrays and tables around it. -/
def value : Nat → Nat → Take Tree
  | 0, _, _ => none
  | fuel + 1, depth, cs =>
    match cs with
    | '[' :: rest =>
      if depth < depthLimit then do
        let (items, rest) ← arrayItems fuel (depth + 1) rest
        return (.array items .lenient, rest)
      else none
    | '\x7b' :: rest =>
      if depth < depthLimit then do
        match skipGap rest with
        | '\x7d' :: rest => return (.object [] .lenient, rest)
        | rest =>
          let (entries, rest) ← inlineEntries fuel (depth + 1) [] rest
          return ((Item.table false false entries).toTree, rest)
      else none
    | cs => scalar cs

/-- The items of an array up to its closing bracket. -/
def arrayItems : Nat → Nat → Take (List Tree)
  | 0, _, _ => none
  | fuel + 1, depth, cs => do
    match ← skipBlank (fuel + 1) cs with
    | ']' :: rest => return ([], rest)
    | cs =>
      let (item, rest) ← value fuel depth cs
      match ← skipBlank (fuel + 1) rest with
      | ',' :: rest =>
        let (items, rest) ← arrayItems fuel depth rest
        return (item :: items, rest)
      | ']' :: rest => return ([item], rest)
      | _ => none

/-- The entries of an inline table up to its closing brace. -/
def inlineEntries : Nat → Nat → Entries → Take Entries
  | 0, _, _, _ => none
  | fuel + 1, depth, entries, cs => do
    let ((path, key), rest) ← dottedKey cs
    match rest with
    | '=' :: rest =>
      let (t, rest) ← value fuel depth (skipGap rest)
      let entries ← entries.assign path key t
      match skipGap rest with
      | ',' :: rest => inlineEntries fuel depth entries rest
      | '\x7d' :: rest => return (entries, rest)
      | _ => none
    | _ => none

end

/-- The table that lines assign to: the root, or one opened by a header and not yet put back. -/
inductive Place
  | root
  | table (path : List String) (key : String)
  | element (path : List String) (key : String)

/-- The document as far as it is read: the tables that are put back, and the current one. -/
structure Draft where
  done : Entries
  current : Entries
  place : Place

namespace Draft

/-- Puts the current table back into the document. -/
def settle (d : Draft) : Option Entries :=
  match d.place with
  | .root => some d.current
  | .table path key => d.done.close path key d.current
  | .element path key => d.done.closeList path key d.current

def openTable (d : Draft) (path : List String) (key : String) : Option Draft := do
  let done ← d.settle
  let (current, done) ← done.open? path key
  return ⟨done, current, .table path key⟩

def openElement (d : Draft) (path : List String) (key : String) : Option Draft := do
  let done ← d.settle
  let done ← done.openList path key
  return ⟨done, [], .element path key⟩

def assign (d : Draft) (path : List String) (key : String) (t : Tree) : Option Draft := do
  let current ← d.current.assign path key t
  return { d with current }

end Draft

/-- The rest of the text after the end of a line, which only a comment may come before. -/
def endLine (cs : List Char) : Option (List Char) := do
  match ← skipComment (skipGap cs) with
  | [] => return []
  | rest => afterNewline? rest

/-- One line: a header, an assignment, or nothing. -/
def line (d : Draft) (cs : List Char) : Option (Draft × List Char) := do
  let fuel := cs.length + 1
  match skipGap cs with
  | '[' :: '[' :: rest =>
    let ((path, key), rest) ← dottedKey rest
    match rest with
    | ']' :: ']' :: rest =>
      let d ← d.openElement path key
      return (d, ← endLine rest)
    | _ => none
  | '[' :: rest =>
    let ((path, key), rest) ← dottedKey rest
    match rest with
    | ']' :: rest =>
      let d ← d.openTable path key
      return (d, ← endLine rest)
    | _ => none
  | cs =>
    if cs.isEmpty || cs.head? = some '#' || (afterNewline? cs).isSome then
      return (d, ← endLine cs)
    else
      let ((path, key), rest) ← dottedKey cs
      match rest with
      | '=' :: rest =>
        let (t, rest) ← value fuel 0 (skipGap rest)
        let rest ← endLine rest
        let d ← d.assign path key t
        return (d, rest)
      | _ => none

/-- At most `count` lines. -/
def lines : Nat → Draft → List Char → Option Draft
  | 0, d, _ => some d
  | _, d, [] => some d
  | count + 1, d, cs => do
    let (d, rest) ← line d cs
    lines count d rest

/-- The tree of a document; each line takes at least one character. -/
def readTree? (text : String) : Option Tree := do
  let cs := match text.toList with
    | '\uFEFF' :: rest => rest
    | cs => cs
  let d ← lines cs.length ⟨[], [], .root⟩ cs
  let entries ← d.settle
  return .object (Item.entriesToTree entries) .lenient

end SchemaRouting.Toml
