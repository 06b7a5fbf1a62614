import SchemaRouting.Pipeline.Exchange

/-!
The steps of a pipeline. A step is given directly, is a handler bound to a route, or is one of
the library's own: it validates the header fields or the body, loads the principal or the
factory, or makes the factory call that an operation stands for.
-/

set_option autoImplicit false

namespace SchemaRouting

open Telemetry (Note event fieldsOf)

inductive Step (σ : Type)
  | direct (name : String) (act : Act σ)
  | bound (name : String) (handler : Handler σ) (bind : Bind σ)
  | validateHeaders (check : Validator)
  | validateBody (check : Validator)
  | loadPrincipal (source : Option (PrincipalSource σ))
  | loadFactory (bind : Bind σ)
  | default (kind : OperationKind) (bind : Bind σ)

/-- Writes an error as the whole answer, keeping the header fields. -/
def Response.withError (r : Response) (e : RouteError) : Response :=
  (r.withStatus e.status).withJson e.body.toJson

namespace Step

variable {σ : Type}

open Dispatch

def defaultName (kind : OperationKind) : String := "default_" ++ kind.name

def name : Step σ → String
  | direct name _ => name
  | bound name _ _ => name
  | validateHeaders _ => "validate_headers"
  | validateBody _ => "validate_body"
  | loadPrincipal _ => "load_principal"
  | loadFactory _ => "load_factory"
  | default kind _ => defaultName kind

def outline (step : Step σ) : Outline := .call "Step" [.quoted step.name]

/-- Runs what was given, which makes no notes. -/
def runAct (act : Act σ) (s : State σ) : Verdict × State σ :=
  let (verdict, x) := act s.toExchange
  (verdict, s.withExchange x)

/-! Validation -/

private def rejected (stage message : String) (e : ValidationError) (s : State σ) : State σ :=
  (s.note (event .info message [("path", .string e.path), ("reason", .string e.message)])).note
    (.measure (.rejected stage))

def headersRejection : Json := .object [("message", .string "IncompleteRequestHeaders")]

def bodyRejection (e : ValidationError) : Json :=
  .ofMembers [("message", .string "InvalidRequestPayload"), ("err", e.toJson)]

/-- Checks the header fields; undeclared ones are let through, and nothing is changed. -/
def runValidateHeaders (check : Validator) (s : State σ) : Verdict × State σ :=
  match check .lenient s.request.headersJson with
  | .ok _ => (.proceed, s)
  | .error e =>
    let s := rejected "validate_headers" "Header validation failed" e s
    (.halt, s.withResponse ((s.response.withStatus .badRequest).withJson headersRejection))

/-- Checks the body and puts the normalized one in its place. -/
def runValidateBody (check : Validator) (s : State σ) : Verdict × State σ :=
  match check .strict s.request.body with
  | .ok body => (.proceed, s.withRequest { s.request with body })
  | .error e =>
    let s := rejected "validate_body" "Body validation failed" e s
    (.halt, s.withResponse ((s.response.withStatus .badRequest).withJson (bodyRejection e)))

/-! The principal -/

/-- The principal that a request and its session tell, and whether a source may know more. -/
def knownPrincipal (r : Request (Factory σ)) : Option (Principal × Bool) :=
  match r.user, r.session with
  | some user, _ => some (user, true)
  | none, some session =>
    match session.uid with
    | some uid => some (.withId uid, true)
    | none => if session.loggedIn then some (.ofSession session, false) else none
  | none, none => none

private def unknownPrincipal (p : Principal) (e : RouteError) : Note :=
  event .warn "Could not load principal" [("principal_id", .string (p.id.getD "")),
    ("error", .string e.message)]

/-- Sets the user of the request; a source that fails leaves the one known before. -/
def runLoadPrincipal (source : Option (PrincipalSource σ)) (s : State σ) : Verdict × State σ :=
  match knownPrincipal s.request with
  | none => (.proceed, s)
  | some (known, isOpen) =>
    let s := s.withRequest { s.request with user := some known }
    match source, isOpen with
    | some source, true =>
      let (reply, app) := source known s.app
      let s := { s with app }
      match reply with
      | .ok loaded => (.proceed, s.withRequest { s.request with user := some loaded })
      | .error e => (.proceed, s.note (unknownPrincipal known e))
      | .panic message => (.panic message, s)
    | _, _ => (.proceed, s)

/-! The factory -/

private def unknownFactory (bind : Bind σ) (name : String) : Note :=
  event .debug "Named factory not registered, using default" [("schema_id", .string bind.id),
    ("factory", .string name)]

private def useDefault (bind : Bind σ) (s : State σ) : Built (Factory σ) × State σ :=
  let (built, defaults, app) :=
    bind.services.factories.defaultFor bind.id bind.model s.defaults s.app
  (built, { s with defaults, app })

/-- The factory of a request: the one in its context, else the one that the route names, else
the default one of the route's id, of which the building may panic. -/
def resolveFactory (bind : Bind σ) (s : State σ) : Built (Factory σ) × State σ :=
  match s.request.context.factory with
  | some factory => (.made factory, s)
  | none =>
    match bind.factoryName with
    | none => useDefault bind s
    | some name =>
      match bind.services.factories.get? name with
      | some factory => (.made factory, s)
      | none => useDefault bind (s.note (unknownFactory bind name))

/-- Another factory in the context of the request. -/
def withFactory (s : State σ) (factory : Factory σ) : State σ :=
  s.withRequest { s.request with context := { s.request.context with factory := some factory } }

/-- Puts the factory of the request into its context. -/
def runLoadFactory (bind : Bind σ) (s : State σ) : Verdict × State σ :=
  match resolveFactory bind s with
  | (.made factory, s) => (.proceed, withFactory s factory)
  | (.panicked message, s) => (.panic message, s)

/-! The operation -/

private def unknownMethod (bind : Bind σ) (method : String) (operation : FactoryOperation) : Note :=
  event .info "No factory method for route, using default" [("schema_id", .string bind.id),
    ("method", .string method), ("fallback", .string operation.name)]

private def failedCall (bind : Bind σ) (kind : OperationKind) (e : RouteError) : Note :=
  event .warn "Factory call failed" [("schema_id", .string bind.id),
    ("operation", .string kind.name), ("error", .string e.message)]

/-- The note of a method that the route asks for and the factory does not know. -/
def methodNotes (bind : Bind σ) (operation : FactoryOperation) : List Note :=
  match bind.factoryMethod with
  | some method =>
    if method = operation.name then [] else [unknownMethod bind method operation]
  | none => []

/-- Calls the factory by the route's own method if it knows it, and else by the call that the
operation stands for. -/
def callFactory (factory : Factory σ) (bind : Bind σ) (operation : FactoryOperation)
    (call : FactoryCall) (s : State σ) : Reply FactoryOutput × State σ :=
  match factory.override? bind.factoryMethod operation call with
  | some action =>
    let (reply, app) := action s.app
    (reply.map (.ofJson operation), { s with app })
  | none =>
    let (reply, app) := factory.canonical operation call s.app
    (reply, { s with app, notes := s.notes ++ methodNotes bind operation })

/-- The status and the body that a factory's answer is given. -/
def answerOf (kind : OperationKind) (id : String) : FactoryOutput → Http.Status × Json
  | .items values =>
    (.ok, .object [(id, .array (values.filter fun v => !v.isNull))])
  | .item value => (if kind = .post then .created else .ok, value)
  | .removed => (.noContent, .object [])

/-- Makes the call of the operation and answers with what the factory returned, or with its
error. -/
def answerBy (factory : Factory σ) (kind : OperationKind) (bind : Bind σ) (s : State σ) :
    Verdict × State σ :=
  let (reply, s) := callFactory factory bind kind.factoryOperation (.ofRequest s.request) s
  match reply with
  | .panic message => (.panic message, s)
  | .error e =>
    let s := s.note (failedCall bind kind e)
    (.fail e, s.withResponse (s.response.withError e))
  | .ok output =>
    let context := { s.request.context with responseObject := some output.toJson }
    let (status, body) := answerOf kind bind.id output
    (.proceed, (s.withRequest { s.request with context }).withResponse
      ((s.response.withStatus status).withJson body))

/-- Answers by the factory of the request. -/
def runDefault (kind : OperationKind) (bind : Bind σ) (s : State σ) : Verdict × State σ :=
  match resolveFactory bind s with
  | (.made factory, s) => answerBy factory kind bind s
  | (.panicked message, s) => (.panic message, s)

def run : Step σ → State σ → Verdict × State σ
  | direct _ act, s => runAct act s
  | bound _ handler bind, s => runAct (handler bind) s
  | validateHeaders check, s => runValidateHeaders check s
  | validateBody check, s => runValidateBody check s
  | loadPrincipal source, s => runLoadPrincipal source s
  | loadFactory bind, s => runLoadFactory bind s
  | default kind bind, s => runDefault kind bind s

end Step

/-- The handler that answers with what it was asked. -/
def Handler.echo {σ : Type} : Handler σ := fun bind x =>
  let body := Json.ofMembers [("id", .string bind.id), ("method", .string x.request.method.name),
    ("path", .string x.request.path), ("params", x.request.paramsJson), ("body", x.request.body),
    ("query", .object x.request.query)]
  (.proceed, { x with response := x.response.withJson body })

end SchemaRouting
