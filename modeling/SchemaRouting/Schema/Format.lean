import SchemaRouting.Schema.Document
import SchemaRouting.Folder
import SchemaRouting.Text.Case

/-!
The two forms of a schema document, JSON and TOML. The form of a file is told by the ending
of its name, in any case of letters.
-/

set_option autoImplicit false

namespace SchemaRouting

/-- Why a schema cannot be read or a route cannot be compiled. -/
inductive CompileError
  | invalidSchema (field reason : String)
  | invalidDocument (problem : ReadError)
  | invalidOperationKind (kind : String)
  | unknownRoute (schema route : String)
  | unknownSchema (schema : String)
  | unreadable (path : String)
  deriving DecidableEq

namespace CompileError

private def schemaMessage (field reason : String) : String :=
  "invalid schema definition at '" ++ field ++ "': " ++ reason

def message : CompileError → String
  | invalidSchema field reason => schemaMessage field reason
  | invalidDocument problem => schemaMessage "document" problem.message
  | invalidOperationKind kind => "invalid operation kind '" ++ kind ++ "'"
  | unknownRoute schema route => "schema '" ++ schema ++ "' has no route '" ++ route ++ "'"
  | unknownSchema schema => "unknown schema '" ++ schema ++ "'"
  | unreadable path => "failed to read schema document " ++ path

/-- A document whose form cannot be told from its name. -/
def unknownFormat (path : String) : CompileError :=
  invalidSchema "document" ("unsupported schema document format: " ++ path)

end CompileError

namespace Schema

inductive Format
  | json
  | toml
  deriving DecidableEq

namespace Format

def name : Format → String
  | json => "Json"
  | toml => "Toml"

/-- The last part of a path: what follows the last slash that something follows. -/
def fileName? (path : String) : Option String :=
  let parts := (Text.split '/' path).filter fun part => part ≠ "" && part ≠ "."
  match parts.getLast? with
  | some ".." => none
  | some name => some name
  | none => none

/-- The ending of a file name: what follows its last point, unless that comes first. -/
def extension? (path : String) : Option String := do
  let name ← fileName? path
  match (Text.split '.' name).reverse with
  | last :: before :: more =>
    if before.isEmpty && more.isEmpty then none else some last
  | _ => none

def ofPath? (path : String) : Option Format :=
  match (extension? path).map Text.lower with
  | some "json" => some json
  | some "toml" => some toml
  | _ => none

/-- What a document says, read as typed data. -/
def readText {α : Type} (format : Format) (read : Tree.Read α) (text : String) :
    Except ReadError α :=
  match format with
  | json => Json.readText read text
  | toml =>
    match Toml.readTree? text with
    | some t => read t
    | none => .error .malformed

def ofPath (path : String) : Except CompileError Format :=
  match ofPath? path with
  | some format => .ok format
  | none => .error (.unknownFormat path)

/-- What a document says, or that it cannot be read. -/
def readDocument {α : Type} (format : Format) (read : Tree.Read α) (text : String) :
    Except CompileError α :=
  match format.readText read text with
  | .ok a => .ok a
  | .error problem => .error (.invalidDocument problem)

def readSchema (format : Format) (text : String) : Except CompileError Document :=
  format.readDocument read text

def readCatalog (format : Format) (text : String) : Except CompileError CatalogDocument :=
  format.readDocument Schema.readCatalog text

end Format

/-- What a file says. Its form is told by its name, before it is looked for. -/
private def readFile {α : Type} (readAs : Format → String → Except CompileError α)
    (folder : Folder) (path : String) : Except CompileError α := do
  let format ← Format.ofPath path
  match folder.readText? path with
  | some text => readAs format text
  | none => throw (.unreadable path)

def readSchemaFile (folder : Folder) (path : String) : Except CompileError Document :=
  readFile Format.readSchema folder path

def readCatalogFile (folder : Folder) (path : String) : Except CompileError CatalogDocument :=
  readFile Format.readCatalog folder path

end Schema

end SchemaRouting
