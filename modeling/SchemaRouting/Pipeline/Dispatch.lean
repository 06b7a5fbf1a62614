import SchemaRouting.Pipeline.Step
import SchemaRouting.Telemetry.Metrics

/-!
Pipelines and how they are run. The steps run in order, each on the state that the one before
left, up to and including the first that does not proceed. A step that panics fails with an
internal error, and what it changed before stays changed.
-/

set_option autoImplicit false

namespace SchemaRouting

open Telemetry (Note event)

structure Pipeline (σ : Type) where
  label : String
  steps : List (Step σ)

def Pipeline.stepNames {σ : Type} (p : Pipeline σ) : List String := p.steps.map Step.name

def Pipeline.outline {σ : Type} (p : Pipeline σ) : Outline :=
  .record "Pipeline" [("label", .quoted p.label), ("steps", .list (p.stepNames.map .quoted))] false

/-- How a dispatch ends; a step that halted or failed is named. -/
inductive Outcome
  | completed
  | halted (step : String)
  | failed (step : String) (e : RouteError)
  deriving DecidableEq

namespace Outcome

def label : Outcome → String
  | completed => "completed"
  | halted _ => "halted"
  | failed .. => "failed"

def isCompleted : Outcome → Bool
  | completed => true
  | _ => false

def isFailed : Outcome → Bool
  | failed .. => true
  | _ => false

def step? : Outcome → Option String
  | completed => none
  | halted step => some step
  | failed step _ => some step

def error? : Outcome → Option RouteError
  | failed _ e => some e
  | _ => none

end Outcome

/-- The error of a step that panicked. -/
def RouteError.ofPanic (message : String) : RouteError :=
  .internal ("step panicked: " ++ message) none

namespace Dispatch

variable {σ : Type}

/-- Runs steps one after the other. -/
def runSteps : List (Step σ) → State σ → Outcome × State σ
  | [], s => (.completed, s)
  | step :: rest, s =>
    match step.run s with
    | (.proceed, s) => runSteps rest s
    | (.halt, s) => (.halted step.name, s)
    | (.fail e, s) => (.failed step.name e, s)
    | (.panic message, s) => (.failed step.name (.ofPanic message), s)

def spanNote (p : Pipeline σ) (r : Request (Factory σ)) : Note :=
  .log (.span "dispatch" [("route", .string p.label), ("http.method", .string r.method.name)])

def outcomeNote (outcome : Outcome) (response : Response) : Note :=
  let status (n : Nat) : String × Json := ("http.status_code", .int n)
  match outcome with
  | .failed step e =>
    event .error "Route step failed" [("step", .string step), status e.status.code,
      ("error", .string e.message)]
  | .halted step =>
    event .debug "Route halted" [("step", .string step), status response.status.code]
  | .completed => event .debug "Route completed" [status response.status.code]

/-- Runs a pipeline, counting the request in and out and noting how it ended. -/
def run (p : Pipeline σ) (s : State σ) : Outcome × State σ :=
  let s := (s.note (.measure .entered)).note (spanNote p s.request)
  let (outcome, s) := runSteps p.steps s
  let ended := (Telemetry.dispatchMeasures p.label outcome.label).map Note.measure
  let notes := s.notes ++ [outcomeNote outcome s.response] ++ ended ++ [.measure .left]
  (outcome, { s with notes })

end Dispatch

end SchemaRouting
