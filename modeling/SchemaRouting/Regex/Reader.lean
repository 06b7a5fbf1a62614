import SchemaRouting.Regex.CharSet
import SchemaRouting.Text.Word

/-!
Regular expressions from text. The reader keeps the groups that are open; each step takes one
part of the text. A group may have a name, and flags that say how it is read; it is nothing
that looks ahead or behind. A closing brace never stands in the text, so neither does what
needs one, such as a counted repetition.
-/

set_option autoImplicit false

namespace SchemaRouting.Regex

/-- The letters of flags, and the minus that turns the flags after it off. -/
def flagLetters : List Char := ['i', 'm', 's', 'U', 'u', 'R', 'x', '-']

/-- What flags make of a setting: a flag before the minus turns it on. -/
def flagValue (flags : List Char) (flag : Char) (before : Bool) : Bool :=
  if flags.contains flag then (flags.takeWhile (· ≠ '-')).contains flag else before

/-- The mode that flags change a mode to; no flag is given twice, and a minus is followed by
one. -/
def Mode.withFlags? (mode : Mode) (flags : List Char) : Option Mode :=
  if flags.all flagLetters.contains && flags.eraseDups.length = flags.length &&
      flags.getLast? ≠ some '-' then
    some ⟨flagValue flags 'x' mode.spaced, flagValue flags 'u' mode.unicode⟩
  else none

/-- The name of a group. -/
def isName : List Char → Bool
  | [] => false
  | c :: rest => (c == '_' || Text.isLetter c) &&
    rest.all fun d => ['_', '.', '[', ']'].contains d || Text.isWordChar d

/-- What an opening bracket opens. -/
inductive Opening
  | flags (mode : Mode)
  | group (mode : Mode)
  | namedGroup (name : String)

private def namedGroup? (cs : List Char) : Option (Opening × List Char) :=
  let name := cs.takeWhile (· ≠ '>')
  match cs.dropWhile (· ≠ '>') with
  | '>' :: rest => if isName name then some (.namedGroup (String.ofList name), rest) else none
  | _ => none

/-- What follows an opening bracket. -/
def opening? (mode : Mode) (cs : List Char) : Option (Opening × List Char) :=
  match skip mode cs with
  | '?' :: '=' :: _ | '?' :: '!' :: _ | '?' :: '<' :: '=' :: _ | '?' :: '<' :: '!' :: _ => none
  | '?' :: 'P' :: '<' :: rest | '?' :: '<' :: rest => namedGroup? rest
  | '?' :: rest =>
    let isEnd (c : Char) : Bool := c == ':' || c == ')'
    let flags := rest.takeWhile (!isEnd ·)
    match rest.dropWhile (!isEnd ·) with
    | ':' :: rest => (mode.withFlags? flags).map fun mode => (.group mode, rest)
    | ')' :: rest =>
      if flags.isEmpty then none
      else (mode.withFlags? flags).map fun mode => (.flags mode, rest)
    | _ => none
  | rest => some (.group mode, rest)

/-- A group that is open: its finished branches and the parts of the current one, both in
reverse. -/
structure Level where
  branches : List Expression
  parts : List Expression

namespace Level

def empty : Level := ⟨[], []⟩

def add (l : Level) (e : Expression) : Level := { l with parts := e :: l.parts }

private def branch (l : Level) : Expression := .ofParts l.parts.reverse

/-- Starts the next branch. -/
def next (l : Level) : Level := ⟨l.branch :: l.branches, []⟩

/-- Repeats the last part, which is neither missing nor a change of flags. -/
def repeatLast? (l : Level) : Option Level :=
  match l.parts with
  | [] | .flags :: _ => none
  | e :: before => some { l with parts := .repeated e :: before }

def expression (l : Level) : Expression :=
  if l.branches.isEmpty then l.branch else .either (l.branch :: l.branches).reverse

end Level

/-- The reader between two parts: the innermost group, how it is read, the groups around it with
their modes, and the names of groups so far. -/
structure Reader where
  level : Level
  mode : Mode
  outer : List (Level × Mode)
  names : List String

namespace Reader

def start : Reader := ⟨.empty, .standard, [], []⟩

def add (r : Reader) (e : Expression) : Reader := { r with level := r.level.add e }

/-- Opens a group that is read in a mode. -/
def openGroup (r : Reader) (mode : Mode) : Reader :=
  { r with level := .empty, mode, outer := (r.level, r.mode) :: r.outer }

def begin? (r : Reader) : Opening → Option Reader
  | .flags mode => some { r.add .flags with mode }
  | .group mode => some (r.openGroup mode)
  | .namedGroup name =>
    if r.names.contains name then none
    else some { r.openGroup r.mode with names := name :: r.names }

def closeGroup? (r : Reader) : Option Reader :=
  match r.outer with
  | [] => none
  | (level, mode) :: outer =>
    some { r with level := level.add (.group r.level.expression), mode, outer }

def ofAtom : Atom → Expression
  | .character c => .character c
  | .named => .named
  | .edge => .edge

/-- One part of the text. -/
def step? (r : Reader) : List Char → Option (Reader × List Char)
  | [] => none
  | '(' :: rest => do
    let (opening, rest) ← opening? r.mode rest
    return (← r.begin? opening, rest)
  | ')' :: rest => return (← r.closeGroup?, rest)
  | '|' :: rest => some ({ r with level := r.level.next }, rest)
  | '[' :: rest => do
    let (s, rest) ← set? r.mode rest
    return (r.add (.set s), rest)
  | '?' :: rest | '*' :: rest | '+' :: rest => do
    let level ← r.level.repeatLast?
    return ({ r with level }, if rest.head? = some '?' then rest.tail else rest)
  | '\x7b' :: _ => none
  | '\\' :: rest => do
    let (atom, rest) ← escape? r.mode rest
    return (r.add (ofAtom atom), rest)
  | '.' :: rest => if r.mode.unicode then some (r.add .anyCharacter, rest) else none
  | '^' :: rest | '$' :: rest => some (r.add .edge, rest)
  | c :: rest => some (r.add (.character c), rest)

/-- Reads to the end of the text; each step takes at least one character. -/
def run? : Nat → Reader → List Char → Option Reader
  | 0, _, _ => none
  | fuel + 1, r, cs =>
    match skip r.mode cs with
    | [] => some r
    | cs => do
      let (r, rest) ← r.step? cs
      run? fuel r rest

end Reader

/-- The regular expression that a text without closing braces is, if it is one. -/
def ofText? (s : String) : Option Expression := do
  let r ← Reader.start.run? (s.toList.length + 1) s.toList
  if r.outer.isEmpty && r.level.expression.depth ≤ Expression.depthLimit then
    some r.level.expression
  else none

end SchemaRouting.Regex
