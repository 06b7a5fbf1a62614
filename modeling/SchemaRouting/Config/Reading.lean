import SchemaRouting.Config.Basic
import SchemaRouting.Json.Writer
import SchemaRouting.Schema.Format

/-!
Configurations read from documents and written as them. What a document does not set has its
standard value; nothing but the settings may stand in it.
-/

set_option autoImplicit false

namespace SchemaRouting.Config

def serverKeys : List String := ["service_name", "schemas", "schema_file"]

def readServerMember (draft : List String × Server) (key : String) (t : Tree) :
    Except ReadError (List String × Server) := do
  let (seen, s) := draft
  if !serverKeys.contains key then throw (.unknownField key)
  let seen ← Tree.once seen key
  let s ← match key with
    | "service_name" => t.readString.map fun v => { s with serviceName := v }
    | "schemas" => t.readStrings.map fun v => { s with schemas := v }
    | _ => (t.readOptional Tree.readString).map fun v => { s with schemaFile := v }
  return (seen, s)

def readServer : Tree.Read Server := fun t =>
  (t.readRecord ([], .standard) readServerMember serverKeys).map Prod.snd

def loggingKeys : List String := ["enabled", "level", "format", "include_location", "thread_ids"]

def readLoggingMember (draft : List String × Logging) (key : String) (t : Tree) :
    Except ReadError (List String × Logging) := do
  let (seen, l) := draft
  if !loggingKeys.contains key then throw (.unknownField key)
  let seen ← Tree.once seen key
  let l ← match key with
    | "enabled" => t.readBool.map fun v => { l with enabled := v }
    | "level" => t.readString.map fun v => { l with level := v }
    | "format" => (t.readNamed LogFormat.ofName?).map fun v => { l with format := v }
    | "include_location" => t.readBool.map fun v => { l with includeLocation := v }
    | _ => t.readBool.map fun v => { l with threadIds := v }
  return (seen, l)

def readLogging : Tree.Read Logging := fun t =>
  (t.readRecord ([], .standard) readLoggingMember loggingKeys).map Prod.snd

def sectionKeys : List String := ["server", "logging"]

def readMember (draft : List String × Config) (key : String) (t : Tree) :
    Except ReadError (List String × Config) := do
  let (seen, c) := draft
  if !sectionKeys.contains key then throw (.unknownField key)
  let seen ← Tree.once seen key
  let c ← match key with
    | "server" => (readServer t).map fun server => { c with server }
    | _ => (readLogging t).map fun logging => { c with logging }
  return (seen, c)

def read : Tree.Read Config := fun t =>
  (t.readRecord ([], standard) readMember sectionKeys).map Prod.snd

def Server.toTree (s : Server) : Tree :=
  .object [("service_name", .string s.serviceName),
    ("schemas", .array (s.schemas.map .string) .strict),
    ("schema_file", (s.schemaFile.map Tree.string).getD .null)] .strict

def Logging.toTree (l : Logging) : Tree :=
  .object [("enabled", .bool l.enabled), ("level", .string l.level),
    ("format", .string l.format.name), ("include_location", .bool l.includeLocation),
    ("thread_ids", .bool l.threadIds)] .strict

def toTree (c : Config) : Tree :=
  .object [("server", c.server.toTree), ("logging", c.logging.toTree)] .strict

/-- The configuration as compact text, in the order of declaration. -/
def text (c : Config) : String := Json.writeTree c.toTree

/-- What a text of a known form says. -/
def ofText (format : Schema.Format) (content : String) : Except ConfigError Config :=
  match format.readText read content, format with
  | .ok c, _ => .ok c
  | .error problem, .json => .error (.invalidJson problem)
  | .error problem, .toml => .error (.invalidToml problem)

end SchemaRouting.Config
