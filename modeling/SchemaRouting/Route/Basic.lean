import SchemaRouting.Pipeline.Dispatch

/-!
Compiled routes. Before a route runs, the guard looks at the method and the content type of
the request and then the path is matched; if either refuses, no step runs and nothing is
changed. Otherwise the path parameters are set and the pipeline is run.
-/

set_option autoImplicit false

namespace SchemaRouting

/-- A route that can be served. -/
structure CompiledRoute (σ : Type) where
  schemaId : String
  routeId : String
  kind : OperationKind
  pattern : Path.Pattern
  pipeline : Pipeline σ
  bind : Bind σ

namespace CompiledRoute

variable {σ : Type}

def method (r : CompiledRoute σ) : Http.Method := r.kind.method

/-- The media types that the body of a request may have where it must have one. -/
def acceptedBodyTypes : List String := [Http.jsonType, Http.formType]

/-- Whether a method asks for a body of an accepted type. -/
def needsBody (method : Http.Method) : Bool := method = .post || method = .put

def isAcceptedBody (contentType : Option String) : Bool :=
  contentType.any fun s => acceptedBodyTypes.contains (Http.mediaType s)

/-- Refuses a body of the wrong type first, and then a wrong method; any route may be asked for
its options. -/
def guard (r : CompiledRoute σ) (method : Http.Method) (contentType : Option String) :
    Except RouteError Unit :=
  if needsBody method && !isAcceptedBody contentType then
    .error (.forbidden (method.name ++ " needs a JSON or form body, got " ++
      contentType.getD "no content type"))
  else if method = .options || method = r.method then .ok ()
  else .error (.forbidden ("invalid method " ++ method.name ++ ", wanted " ++ r.method.name))

/-- The parameters of a request path. -/
def extract (r : CompiledRoute σ) (path : String) : Except RouteError Path.Params :=
  match r.pattern.extract path with
  | .ok params => .ok params
  | .error m => .error (.ofMismatch m)

/-- What the guard and the pattern say of a request: its parameters, or why it is refused. -/
def accept (r : CompiledRoute σ) (request : Request (Factory σ)) :
    Except RouteError Path.Params := do
  r.guard request.method request.contentType?
  r.extract request.path

def dispatch (r : CompiledRoute σ) (s : Dispatch.State σ) : Outcome × Dispatch.State σ :=
  Dispatch.run r.pipeline s

/-- Runs a route on a request that it accepts. -/
def run (r : CompiledRoute σ) (s : Dispatch.State σ) :
    Except RouteError Outcome × Dispatch.State σ :=
  match r.accept s.request with
  | .error e => (.error e, s)
  | .ok params =>
    let (outcome, s) := r.dispatch (s.withRequest { s.request with params })
    (.ok outcome, s)

end CompiledRoute

end SchemaRouting
