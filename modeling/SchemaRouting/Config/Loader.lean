import SchemaRouting.Config.Dotenv
import SchemaRouting.Config.Reading
import SchemaRouting.Folder
import SchemaRouting.Text.Case

/-!
Loading a configuration in layers. A preset, a text and a file each replace the whole
configuration; files of variables only fill the environment, which is applied over the rest at
the end, under the names that start as was asked for. What is loaded is checked last. To apply
the environment is to go through all variables that there are, whatever their names, and a panic
where one of them is no text.
-/

set_option autoImplicit false

namespace SchemaRouting.Config

/-- One layer of a configuration. -/
inductive Layer
  | preset (c : Config)
  | text (content format : String)
  | file (path : String)
  | optionalFile (path : String)
  | environment (start : String)
  | dotenv
  | dotenvFile (path : String)

/-- A configuration while it is loaded. -/
structure Loader where
  config : Config
  environment : Environment
  /-- The start of the names of the variables to apply. -/
  start : Option String
  fileLoaded : Bool

/-- How loading ends: with a configuration, or why there is none, or with a panic. -/
inductive Loaded
  | ok (c : Config)
  | error (e : ConfigError)
  | panicked
  deriving DecidableEq

def Loaded.ofExcept : Except ConfigError Config → Loaded
  | .ok c => ok c
  | .error e => error e

namespace Loader

def new (environment : Environment) : Loader := ⟨standard, environment, none, false⟩

def formatNamed (name : String) : Except ConfigError Schema.Format :=
  match Text.lower name with
  | "toml" => .ok .toml
  | "json" => .ok .json
  | _ => .error (.unsupportedFormat name)

def formatOfFile (path : String) : Except ConfigError Schema.Format :=
  match Schema.Format.ofPath? path with
  | some format => .ok format
  | none => .error (.unsupportedFile path)

def addText (l : Loader) (content format : String) : Except ConfigError Loader := do
  return { l with config := ← ofText (← formatNamed format) content }

/-- A file is read before its form is told. -/
def addFile (folder : Folder) (l : Loader) (path : String) : Except ConfigError Loader :=
  if !folder.contains path then .error (.fileNotFound path)
  else
    match folder.readText? path with
    | none => .error (.unreadable path)
    | some content => do
      return { l with config := ← ofText (← formatOfFile path) content, fileLoaded := true }

/-- Fills the environment from the text of a file of variables. -/
def addVariables (l : Loader) (text : Option String) : Except ConfigError Loader :=
  match text.bind (Dotenv.load l.environment) with
  | some environment => .ok { l with environment }
  | none => .error .invalidVariables

def add (folder : Folder) (l : Loader) : Layer → Except ConfigError Loader
  | .preset c => .ok { l with config := c }
  | .text content format => l.addText content format
  | .file path => l.addFile folder path
  | .optionalFile path => if folder.contains path then l.addFile folder path else .ok l
  | .environment start => .ok { l with start := some (Text.upper start) }
  | .dotenv =>
    match folder.find? ".env" with
    | some (.file bytes) => l.addVariables (Text.ofUtf8? bytes)
    | _ => .ok l
  | .dotenvFile path => l.addVariables (folder.readText? path)

/-! Variables -/

def readBoolean (name value : String) : Except ConfigError Bool :=
  let value := Text.lower value
  if ["true", "1", "yes", "on"].contains value then .ok true
  else if ["false", "0", "no", "off"].contains value then .ok false
  else .error (.notBoolean name)

def readFormat (name value : String) : Except ConfigError LogFormat :=
  match LogFormat.ofName? (Text.lower value) with
  | some format => .ok format
  | none => .error (.notLogFormat name)

/-- The ids in a text with commas between them. -/
def readIds (value : String) : List String :=
  ((Text.split ',' value).map Text.trim).filter fun id => !id.isEmpty

/-- Sets what a variable is for; `setting` is its name after the common start. -/
def applyVariable (c : Config) (name setting value : String) : Except ConfigError Config :=
  let server (s : Server) : Config := { c with server := s }
  let logging (l : Logging) : Config := { c with logging := l }
  match setting with
  | "SERVER__SERVICE_NAME" => .ok (server { c.server with serviceName := value })
  | "SERVER__SCHEMAS" => .ok (server { c.server with schemas := readIds value })
  | "SERVER__SCHEMA_FILE" =>
    .ok (server { c.server with schemaFile := if value.isEmpty then none else some value })
  | "LOGGING__ENABLED" =>
    (readBoolean name value).map fun b => logging { c.logging with enabled := b }
  | "LOGGING__LEVEL" => .ok (logging { c.logging with level := value })
  | "LOGGING__FORMAT" =>
    (readFormat name value).map fun format => logging { c.logging with format }
  | "LOGGING__INCLUDE_LOCATION" =>
    (readBoolean name value).map fun b => logging { c.logging with includeLocation := b }
  | "LOGGING__THREAD_IDS" =>
    (readBoolean name value).map fun b => logging { c.logging with threadIds := b }
  | _ => .ok c

/-- What follows the common start and two low lines in the name of a variable. -/
def settingOf? (start name : String) : Option String :=
  let lead := (start ++ "__").toList
  if lead.isPrefixOf name.toList then some (String.ofList (name.toList.drop lead.length)) else none

/-- Applies the variables; of one that is there twice the last counts. -/
def applyEnvironment (start : String) (env : Environment) (c : Config) :
    Except ConfigError Config :=
  (Keyed.ofList env.texts).foldlM (fun c (name, value) =>
    match settingOf? start name with
    | some setting => applyVariable c name setting value
    | none => .ok c) c

/-- The configuration with the variables over it that can be read, if it passes the check. -/
def overlaid (l : Loader) : Except ConfigError Config := do
  let c ← match l.start with
    | some start => applyEnvironment start l.environment l.config
    | none => .ok l.config
  c.validate
  return c

/-- The variables are gone through only if a start of their names was asked for. -/
def load (l : Loader) : Loaded :=
  if l.start.isSome && !l.environment.allTexts then .panicked else .ofExcept l.overlaid

end Loader

end SchemaRouting.Config
