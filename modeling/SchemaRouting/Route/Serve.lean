import SchemaRouting.Route.Basic

/-!
Serving a compiled route. Every request gets an answer: what the steps wrote, or else the body
of the error that the request was refused or failed with, beside the header fields that the
steps set.
-/

set_option autoImplicit false

namespace SchemaRouting

/-- What outlives a request: the application, the default factories, and the notes. -/
structure Shared (σ : Type) where
  app : σ
  defaults : List (String × Factory σ)
  notes : List Telemetry.Note

namespace Dispatch.State

variable {σ : Type}

/-- The start of a request. -/
def ofRequest (shared : Shared σ) (request : Request (Factory σ)) : State σ :=
  { request, response := .new, app := shared.app, defaults := shared.defaults,
    notes := shared.notes }

def shared (s : State σ) : Shared σ := ⟨s.app, s.defaults, s.notes⟩

end Dispatch.State

/-- An error as the whole answer. -/
def Response.ofError (e : RouteError) : Response := Response.new.withError e

namespace CompiledRoute

variable {σ : Type}

private def refusal (r : CompiledRoute σ) (request : Request (Factory σ)) (e : RouteError) :
    Telemetry.Note :=
  Telemetry.event .debug "Request rejected before dispatch" [("route", .string r.pattern.text),
    ("method", .string request.method.name), ("path", .string request.path),
    ("error", .string e.message)]

/-- The answer to a request whose dispatch is over. -/
def answer (outcome : Outcome) (response : Response) : Response :=
  match outcome.error? with
  | some e => if response.isWritten then response else response.withError e
  | none => response

/-- Answers a request. -/
def handle (r : CompiledRoute σ) (shared : Shared σ) (request : Request (Factory σ)) :
    Response × Shared σ :=
  match r.run (.ofRequest shared request) with
  | (.ok outcome, s) => (answer outcome s.response, s.shared)
  | (.error e, s) => (s.response.withError e, (s.note (refusal r s.request e)).shared)

end CompiledRoute

/-- Answers an HTTP request that is read first. -/
def serveHttp {σ : Type}
    (handle : Shared σ → Request (Factory σ) → Response × Shared σ) (shared : Shared σ)
    (incoming : Http.Incoming) : Http.Reply × Shared σ :=
  match Request.ofHttp incoming with
  | .ok request =>
    let (response, shared) := handle shared request
    (response.toReply, shared)
  | .error e => ((Response.ofError e).toReply, shared)

end SchemaRouting
