import SchemaRouting.Config.Environment
import SchemaRouting.Text.Blank
import SchemaRouting.Text.Split
import SchemaRouting.Text.Word

/-!
Files of variables. A line assigns a value to a name; a line whose quotes are still open at its
end goes on in the next one. Values may be quoted, weakly or strongly, and outside strong
quotes a dollar sign stands for the value of a variable. A variable that a value is read of
already keeps it.
-/

set_option autoImplicit false

namespace SchemaRouting.Config

namespace Dotenv

/-- What is open while the end of a line is looked for. -/
inductive Scan
  | closed | blank | escape | weak | weakEscape | strong | strongEscape
  deriving DecidableEq

/-- Takes one character; none if a comment starts there. -/
def Scan.step : Scan → Char → Option Scan
  | escape, _ => some closed
  | weakEscape, _ => some weak
  | strongEscape, _ => some strong
  | weak, c => some (if c = '\\' then weakEscape else if c = '"' then closed else weak)
  | strong, c => some (if c = '\\' then strongEscape else if c = '\'' then closed else strong)
  | s, c =>
    if c = '#' && s = blank then none
    else if c = '\\' then some escape
    else if c = '"' then some weak
    else if c = '\'' then some strong
    else if s = closed && Text.isBlank c && c ≠ '\n' && c ≠ '\r' then some blank
    else some closed

/-- The characters of a line up to a comment, and what is open after it: nothing if there is a
comment. -/
def scanLine (s : Scan) : List Char → List Char × Scan
  | [] => ([], s)
  | c :: rest =>
    match s.step c with
    | none => ([], .closed)
    | some s =>
      let (kept, s) := scanLine s rest
      (c :: kept, s)

/-- The lines of a text, each with the line feed that ends it. -/
def physicalLines (cs : List Char) : List (List Char) :=
  let parts := Text.splitChars '\n' cs
  parts.dropLast.map (· ++ ['\n']) ++ parts.getLast?.toList.filter fun last => !last.isEmpty

def trimStart (cs : List Char) : List Char := cs.dropWhile Text.isBlank

/-- Lines joined where something is open at the end of one; none if something is open at the
end of the text. -/
def logicalLines (s : Scan) (pending : List Char) : List (List Char) → Option (List (List Char))
  | [] => if s = .closed then some [] else none
  | line :: rest =>
    if (trimStart (pending ++ line)).head? = some '#' then logicalLines .closed [] rest
    else
      match scanLine s line with
      | (kept, .closed) => (logicalLines .closed [] rest).map ((pending ++ kept) :: ·)
      | (kept, s) => logicalLines s (pending ++ kept) rest

/-- Where in a value the reader stands. -/
inductive Mode
  | bare | weak | strong
  | escape (inWeak : Bool)
  | name (inWeak : Bool) (chars : List Char)
  | braced (inWeak : Bool) (chars : List Char)
  | ended
  deriving DecidableEq

namespace Mode

def outside (inWeak : Bool) : Mode := if inWeak then weak else bare

/-- The characters that an escape sequence may stand for. -/
def escaped? : Char → Option Char
  | 'n' => some '\n'
  | c => if ['\\', '\'', '"', '$', ' '].contains c then some c else none

/-- The value of a variable, empty if it is not set. -/
def valueOf (env : Environment) (chars : List Char) : List Char :=
  ((env.valueOf? (String.ofList chars)).getD "").toList

/-- Takes one character: where the reader stands then, and what it writes. -/
def step (env : Environment) : Mode → Char → Option (Mode × List Char)
  | ended, c => if c = ' ' || c = '\t' then some (ended, []) else none
  | escape inWeak, c => (escaped? c).map fun c => (outside inWeak, [c])
  | strong, c => some (if c = '\'' then (bare, []) else (strong, [c]))
  | name inWeak chars, c =>
    if Text.isWordChar c then some (name inWeak (chars ++ [c]), [])
    else if c = '\x7b' && chars.isEmpty then some (braced inWeak [], [])
    else if c = '$' then some (name inWeak [], valueOf env chars)
    else some (outside inWeak, valueOf env chars ++ [c])
  | braced inWeak chars, c =>
    if c = '\x7d' then some (outside inWeak, valueOf env chars)
    else some (braced inWeak (chars ++ [c]), [])
  | weak, c => some (
      if c = '$' then (name true [], []) else if c = '"' then (bare, [])
      else if c = '\\' then (escape true, []) else (weak, [c]))
  | bare, c => some (
      if c = '$' then (name false [], []) else if c = '\'' then (strong, [])
      else if c = '"' then (weak, []) else if c = '\\' then (escape false, [])
      else if c = ' ' || c = '\t' then (ended, []) else (bare, [c]))

/-- What is written at the end of a value, if it may end there. -/
def finish (env : Environment) : Mode → Option (List Char)
  | bare | ended | escape false => some []
  | name false chars => some (valueOf env chars)
  | _ => none

end Mode

/-- The value that some characters write; a comment after it is not part of it. -/
def value? (env : Environment) (m : Mode) : List Char → Option (List Char)
  | [] => m.finish env
  | c :: rest =>
    if m = .ended && c = '#' then some []
    else do
      let (m, written) ← m.step env c
      return written ++ (← value? env m rest)

private def isNameStart (c : Char) : Bool := c.isAlpha || c == '_'

private def isNameChar (c : Char) : Bool := c.isAlphanum || c == '_' || c == '.'

/-- A name, and what follows it after white space. -/
def name? (cs : List Char) : Option (String × List Char) :=
  if cs.head?.any isNameStart then
    some (String.ofList (cs.takeWhile isNameChar), trimStart (cs.dropWhile isNameChar))
  else none

/-- The name that a line assigns to and what it assigns; the word `export` may come first. -/
def target? (cs : List Char) : Option (String × List Char) := do
  match ← name? cs with
  | (key, '=' :: rest) => return (key, trimStart rest)
  | ("export", rest) =>
    match ← name? rest with
    | (key, '=' :: rest) => return (key, trimStart rest)
    | _ => none
  | _ => none

/-- Takes the assignment of a line into the environment. -/
def assign (env : Environment) (line : List Char) : Option Environment :=
  match Text.trimChars line with
  | [] => some env
  | '#' :: _ => some env
  | cs => do
    let (key, rest) ← target? cs
    let value ← if rest.head?.all (· = '#') then some [] else value? env .bare rest
    return if (env.valueOf? key).isSome then env else env.assign key (String.ofList value)

/-- Sets the variables of a file that are not set yet; none if a line cannot be read. -/
def load (env : Environment) (text : String) : Option Environment := do
  let cs := match text.toList with
    | '\uFEFF' :: rest => rest
    | cs => cs
  (← logicalLines .closed [] (physicalLines cs)).foldlM assign env

end Dotenv

end SchemaRouting.Config
