import SchemaRouting.Json.Basic

/-!
What is told about the work while it is done: log records, and measures that count. Notes are
kept in the order in which they were made; the metrics that a reader sees are sums over them.
-/

set_option autoImplicit false

namespace SchemaRouting.Telemetry

inductive Level
  | debug | info | warn | error
  deriving DecidableEq

def Level.name : Level → String
  | debug => "DEBUG"
  | info => "INFO"
  | warn => "WARN"
  | error => "ERROR"

/-- A log record: an event, or the start of a span of work. -/
inductive Record
  | event (level : Level) (message : String) (fields : List (String × Json))
  | span (name : String) (fields : List (String × Json))
  deriving DecidableEq

/-- Fields of which some may be left out. -/
def fieldsOf (fields : List (String × Option Json)) : List (String × Json) :=
  fields.filterMap fun (name, value) => value.map fun v => (name, v)

/-- A step of a count: requests that enter and leave a pipeline, how they ended and that their
time was taken, requests that failed a validation, and routes that were compiled. -/
inductive Measure
  | entered
  | left
  | dispatched (route outcome : String)
  | timed (route : String)
  | rejected (stage : String)
  | compiled (schema : String)
  deriving DecidableEq

inductive Note
  | log (r : Record)
  | measure (m : Measure)
  deriving DecidableEq

def event (level : Level) (message : String) (fields : List (String × Json)) : Note :=
  .log (.event level message fields)

/-- The log records among some notes. -/
def records (notes : List Note) : List Record :=
  notes.filterMap fun
    | .log r => some r
    | .measure _ => none

/-- The measures among some notes. -/
def measures (notes : List Note) : List Measure :=
  notes.filterMap fun
    | .measure m => some m
    | .log _ => none

theorem measures_append (first second : List Note) :
    measures (first ++ second) = measures first ++ measures second := by
  simp [measures]

end SchemaRouting.Telemetry
