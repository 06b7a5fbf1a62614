import SchemaRouting.Services
import SchemaRouting.Response
import SchemaRouting.Telemetry.Note

/-!
What the steps of a pipeline work on. A handler sees and may change the request, the response
and the state of the application; a step of the library may besides build a default factory
and make notes. How a step ends decides whether the next one runs.
-/

set_option autoImplicit false

namespace SchemaRouting

/-- What a handler works on. -/
structure Exchange (σ : Type) where
  request : Request (Factory σ)
  response : Response
  app : σ

/-- How a step ends. -/
inductive Verdict
  | proceed
  | halt
  | fail (e : RouteError)
  | panic (message : String)
  deriving DecidableEq

/-- What a handler or a step given directly does. -/
abbrev Act (σ : Type) := Exchange σ → Verdict × Exchange σ

/-- The settings of the route that a step is bound to. -/
structure Bind (σ : Type) where
  id : String
  model : Option Validator
  factoryName : Option String
  factoryMethod : Option String
  services : Services σ

/-- A handler that is bound to the settings of a route when it is used. -/
abbrev Handler (σ : Type) := Bind σ → Act σ

def Bind.outline {σ : Type} (b : Bind σ) : Outline :=
  .record "BindContext" [("id", .quoted b.id), ("has_model_schema", .bool b.model.isSome),
    ("factory_name", .optionalText b.factoryName),
    ("factory_method", .optionalText b.factoryMethod)] true

/-- The message of a panic that does not say what went wrong. -/
def unknownPanic : String := "unknown panic payload"

/-- All that a pipeline works on: besides the exchange the default factories built so far, and
the notes made. -/
structure Dispatch.State (σ : Type) extends Exchange σ where
  defaults : List (String × Factory σ)
  notes : List Telemetry.Note

namespace Dispatch.State

variable {σ : Type}

def note (s : State σ) (n : Telemetry.Note) : State σ := { s with notes := s.notes ++ [n] }

def withExchange (s : State σ) (x : Exchange σ) : State σ := { s with toExchange := x }

def withRequest (s : State σ) (r : Request (Factory σ)) : State σ := { s with request := r }

def withResponse (s : State σ) (r : Response) : State σ := { s with response := r }

end Dispatch.State

end SchemaRouting
