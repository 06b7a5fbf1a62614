import SchemaRouting.Json.Decode
import SchemaRouting.Telemetry.LogOutput

/-!
The configuration of a service: which schemas it serves and from which file, and how it logs.
Every setting has a value from the start. A configuration is checked as a whole: the service
has a name, the schemas have ids and each is listed once, and logging that is on has a level.
-/

set_option autoImplicit false

namespace SchemaRouting

namespace Config

inductive LogFormat
  | json
  | pretty
  deriving DecidableEq

def LogFormat.name : LogFormat → String
  | json => "json"
  | pretty => "pretty"

def LogFormat.ofName? (s : String) : Option LogFormat :=
  [LogFormat.json, .pretty].find? fun format => format.name = s

structure Server where
  serviceName : String
  /-- The schemas to serve; if none are listed, all. -/
  schemas : List String
  schemaFile : Option String
  deriving DecidableEq

structure Logging where
  enabled : Bool
  level : String
  format : LogFormat
  includeLocation : Bool
  threadIds : Bool
  deriving DecidableEq

def Server.standard : Server := ⟨"dynaroute", [], none⟩

def Logging.standard : Logging := ⟨true, "info", .json, false, false⟩

/-- Whether a schema is served. -/
def Server.serves (s : Server) (schemaId : String) : Bool :=
  s.schemas.isEmpty || s.schemas.contains schemaId

end Config

structure Config where
  server : Config.Server
  logging : Config.Logging
  deriving DecidableEq

/-- Why there is no configuration. -/
inductive ConfigError
  | fileNotFound (path : String)
  | unreadable (path : String)
  | invalidToml (problem : ReadError)
  | invalidJson (problem : ReadError)
  | invalidVariables
  | unsupportedFormat (format : String)
  | unsupportedFile (path : String)
  | notBoolean (variableName : String)
  | notLogFormat (variableName : String)
  | emptyServiceName
  | emptySchemaId
  | duplicateSchema (id : String)
  | emptyLevel
  deriving DecidableEq

namespace ConfigError

private def invalidValue (field reason : String) : String :=
  "invalid configuration value for " ++ field ++ ": " ++ reason

private def badVariable (name expected : String) : String :=
  "failed to parse environment variable " ++ name ++ ": expected " ++ expected

def message : ConfigError → String
  | fileNotFound path => "configuration file not found: " ++ path
  | unreadable path => "failed to read configuration file: " ++ path
  | invalidToml problem => problem.message
  | invalidJson problem => problem.message
  | invalidVariables => "failed to load .env file"
  | unsupportedFormat format =>
    "configuration validation failed: unsupported configuration format: " ++ format
  | unsupportedFile path =>
    "configuration validation failed: unsupported configuration file format: " ++ path
  | notBoolean name => badVariable name "boolean"
  | notLogFormat name => badVariable name "'json' or 'pretty'"
  | emptyServiceName => invalidValue "server.service_name" "must not be empty"
  | emptySchemaId => invalidValue "server.schemas" "schema ids must not be empty"
  | duplicateSchema id => invalidValue "server.schemas" ("duplicate schema id '" ++ id ++ "'")
  | emptyLevel => invalidValue "logging.level" "must not be empty when logging is enabled"

end ConfigError

namespace Config

def standard : Config := ⟨.standard, .standard⟩

def development : Config :=
  ⟨.standard,
    { Logging.standard with level := "debug", format := .pretty, includeLocation := true }⟩

def production : Config := standard

private def isVoid (s : String) : Bool := (Text.trim s).isEmpty

/-- Checks listed ids in their order, after those that were seen. -/
def checkSchemas (seen : List String) : List String → Except ConfigError Unit
  | [] => .ok ()
  | id :: rest =>
    if isVoid id then .error .emptySchemaId
    else if seen.contains id then .error (.duplicateSchema id)
    else checkSchemas (id :: seen) rest

def validate (c : Config) : Except ConfigError Unit :=
  if isVoid c.server.serviceName then .error .emptyServiceName
  else do
    checkSchemas [] c.server.schemas
    if c.logging.enabled && isVoid c.logging.level then throw .emptyLevel

/-- How log records are to be written out. -/
def logOutput (c : Config) : Telemetry.LogOutput :=
  let base : Telemetry.LogOutput := match c.logging.format with
    | .json => .production
    | .pretty => .development
  { base with
    enabled := c.logging.enabled
    level := c.logging.level
    location := c.logging.includeLocation
    threadIds := c.logging.threadIds
    serviceName := c.server.serviceName }

end Config

end SchemaRouting
