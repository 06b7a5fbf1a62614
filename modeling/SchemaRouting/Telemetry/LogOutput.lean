import SchemaRouting.Telemetry.Filter
import SchemaRouting.Json.Basic

/-!
How log records are written out, and starting to write them. Nothing is started while logging
is off, and a filter that cannot be read is found before it is found that something else
writes the records already.
-/

set_option autoImplicit false

namespace SchemaRouting.Telemetry

structure LogOutput where
  enabled : Bool
  level : String
  json : Bool
  spanEvents : Bool
  location : Bool
  threadIds : Bool
  target : Bool
  serviceName : String
  deriving DecidableEq

inductive LogError
  | invalidFilter (filter : String)
  | alreadyStarted
  deriving DecidableEq

def LogError.message : LogError → String
  | invalidFilter filter => "Invalid log filter '" ++ filter ++ "'"
  | alreadyStarted => "Failed to initialize logging"

namespace LogOutput

/-- Readable output with much detail. -/
def development : LogOutput := ⟨true, "debug", false, true, true, false, true, "dynaroute"⟩

/-- Records as JSON. -/
def production : LogOutput := ⟨true, "info", true, false, false, false, true, "dynaroute"⟩

def toJson (o : LogOutput) : Json :=
  .ofMembers [("enabled", .bool o.enabled), ("level", .string o.level),
    ("json_format", .bool o.json), ("span_events", .bool o.spanEvents),
    ("file_line_info", .bool o.location), ("thread_ids", .bool o.threadIds),
    ("include_target", .bool o.target), ("service_name", .string o.serviceName)]

end LogOutput

def readFilter (filter : String) : Except LogError Filter :=
  match Filter.ofText? filter with
  | some directives => .ok directives
  | none => .error (.invalidFilter filter)

/-- Starts to write log records, unless something does so already. -/
def LogOutput.start (o : LogOutput) (started : Bool) : Except LogError Unit := do
  if o.enabled then
    let _ ← readFilter o.level
    if started then throw .alreadyStarted

end SchemaRouting.Telemetry
