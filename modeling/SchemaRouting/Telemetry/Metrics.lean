import SchemaRouting.Telemetry.Note

/-!
The metrics that measures are shown as. Each measure adds one to a series, which is a metric
under some labels; a metric has a kind, perhaps a unit, and a line that says what it counts.
-/

set_option autoImplicit false

namespace SchemaRouting.Telemetry

/-- How a series changes. -/
inductive Change
  | counter
  | gaugeUp
  | gaugeDown
  | histogram
  deriving DecidableEq

/-- A metric under labels, sorted by name. -/
structure Series where
  change : Change
  metric : String
  labels : List (String × String)
  deriving DecidableEq

def dispatchTotal : String := "dynaroute_dispatch_total"
def dispatchDuration : String := "dynaroute_dispatch_duration_seconds"
def dispatchInFlight : String := "dynaroute_dispatch_in_flight"
def validationFailures : String := "dynaroute_validation_failures_total"
def routesCompiled : String := "dynaroute_routes_compiled_total"

/-- The series that a measure adds one to. -/
def Measure.series : Measure → Series
  | entered => ⟨.gaugeUp, dispatchInFlight, []⟩
  | left => ⟨.gaugeDown, dispatchInFlight, []⟩
  | dispatched route outcome =>
    ⟨.counter, dispatchTotal, [("outcome", outcome), ("route", route)]⟩
  | timed route => ⟨.histogram, dispatchDuration, [("route", route)]⟩
  | rejected stage => ⟨.counter, validationFailures, [("stage", stage)]⟩
  | compiled schema => ⟨.counter, routesCompiled, [("schema", schema)]⟩

/-- How often the notes add to a series. -/
def total (s : Series) (notes : List Note) : Nat :=
  ((measures notes).filter fun m => m.series = s).length

/-- What a metric is, for people. -/
structure Description where
  kind : String
  metric : String
  unit : Option String
  text : String
  deriving DecidableEq

def descriptions : List Description :=
  [⟨"counter", dispatchTotal, none, "Requests dispatched through a compiled route, by outcome"⟩,
    ⟨"histogram", dispatchDuration, some "seconds", "Time spent running a route pipeline"⟩,
    ⟨"gauge", dispatchInFlight, none, "Route pipelines currently running"⟩,
    ⟨"counter", validationFailures, none, "Requests rejected by header or body validation"⟩,
    ⟨"counter", routesCompiled, none, "Routes produced by the schema compiler"⟩]

/-- A request that ended, as counted and timed. -/
def dispatchMeasures (route outcome : String) : List Measure :=
  [.dispatched route outcome, .timed route]

end SchemaRouting.Telemetry
