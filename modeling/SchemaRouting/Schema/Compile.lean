import SchemaRouting.Schema.Shape
import SchemaRouting.Route.Basic
import SchemaRouting.Pipeline.Registry

/-!
Compiling a route of a schema. First the route is selected: the schema is found and has a good
shape, it has the route, and the route names an operation. Then its steps are laid out, each
name looked up in the registry; a name that is not registered counts as not given.
-/

set_option autoImplicit false

namespace SchemaRouting.Schema

open Telemetry (Note event fieldsOf)

/-- A route of a schema that names an operation. -/
structure Selection (σ : Type) where
  schemaId : String
  routeId : String
  schema : Definition σ
  route : RouteDefinition σ
  kind : OperationKind

namespace Selection

variable {σ : Type}

/-- The id under which the route is served: its own, else the schema's, else the schema id. -/
def id (s : Selection σ) : String := (s.route.id <|> s.schema.id).getD s.schemaId

def path (s : Selection σ) : String :=
  Path.join (s.schema.path.getD "") (s.route.path.getD "")

def factoryName (s : Selection σ) : Option String := s.route.useFactory <|> s.schema.useFactory

def loaderName (s : Selection σ) : Option String := s.route.loadFactory <|> s.schema.loadFactory

/-- The method by which a route names its operation: the one it sets, else its id. -/
def operationName (route : RouteDefinition σ) (routeId : String) : String :=
  route.method.getD routeId

end Selection

variable {σ : Type}

def findSchema (source : Source σ) (schemaId : String) : Except CompileError (Definition σ) :=
  match source.schema? schemaId with
  | some schema => .ok schema
  | none => .error (.unknownSchema schemaId)

/-- Selects a route by the ids of its schema and its own. -/
def select (source : Source σ) (schemaId routeId : String) : Except CompileError (Selection σ) := do
  let schema ← findSchema source schemaId
  Shape.check schema
  match schema.route? routeId with
  | none => throw (.unknownRoute schemaId routeId)
  | some entry =>
    let route := entry.definition
    let name := Selection.operationName route routeId
    match OperationKind.ofName? name with
    | none => throw (.invalidOperationKind name)
    | some kind => return ⟨schemaId, routeId, schema, route, kind⟩

/-- What routes are compiled with: the handlers by name, the services, and the handlers that
stand in for the built-in ones of some operations. -/
structure Compiler (σ : Type) where
  handlers : HandlerRegistry (Handler σ)
  services : Services σ
  overrides : List (OperationKind × Handler σ)

namespace Compiler

def new (handlers : HandlerRegistry (Handler σ)) (services : Services σ) : Compiler σ :=
  ⟨handlers, services, []⟩

/-- Sets the handler that stands in for the built-in one of an operation. -/
def withDefaultHandler (c : Compiler σ) (kind : OperationKind) (h : Handler σ) : Compiler σ :=
  { c with overrides := c.overrides.filter (·.1 ≠ kind) ++ [(kind, h)] }

def override? (c : Compiler σ) (kind : OperationKind) : Option (Handler σ) :=
  (c.overrides.find? (·.1 = kind)).map Prod.snd

def resolve? (c : Compiler σ) (name : Option String) : Option (Handler σ) :=
  name.bind c.handlers.resolve?

/-- The settings that all steps of a route are bound to. -/
def bindOf (c : Compiler σ) (s : Selection σ) : Bind σ :=
  ⟨s.id, s.schema.model, s.factoryName, s.route.useFactoryMethod, c.services⟩

/-- The step of a middleware, if it is given directly or its name is registered. -/
def middleware? (c : Compiler σ) (bind : Bind σ) : Middleware σ → Option (Step σ)
  | .step step => some step
  | .named name => (c.handlers.resolve? name).map fun h => .bound (Text.trim name) h bind

/-- A step bound to the handler of a name, if the name is registered. -/
def namedStep (c : Compiler σ) (bind : Bind σ) (step : String) (name : Option String) :
    Option (Step σ) :=
  (c.resolve? name).map fun h => .bound step h bind

def loaderStep (c : Compiler σ) (bind : Bind σ) (name : Option String) : Step σ :=
  (c.namedStep bind "load_factory" name).getD (.loadFactory bind)

/-- The step that answers: the route's own handler, else the one that stands in for the
operation, else the built-in one. -/
def mainStep (c : Compiler σ) (bind : Bind σ) (kind : OperationKind) (name : Option String) :
    Step σ :=
  match c.namedStep bind "handler" name with
  | some step => step
  | none =>
    match c.override? kind with
    | some h => .bound (Step.defaultName kind) h bind
    | none => .default kind bind

/-- The steps of a route in their order. -/
def steps (c : Compiler σ) (s : Selection σ) : List (Step σ) :=
  let bind := c.bindOf s
  s.schema.middlewares.filterMap (c.middleware? bind) ++
  s.route.middlewares.filterMap (c.middleware? bind) ++
  (s.route.headerValidation.map Step.validateHeaders).toList ++
  (s.route.validation.map Step.validateBody).toList ++
  [.loadPrincipal c.services.principals] ++
  [c.loaderStep bind s.loaderName] ++
  (c.namedStep bind "post_validation" s.route.postValidation).toList ++
  [c.mainStep bind s.kind s.route.handler] ++
  (c.namedStep bind "post_handler" s.route.postHandler).toList

def assemble (c : Compiler σ) (s : Selection σ) : CompiledRoute σ :=
  ⟨s.schemaId, s.routeId, s.kind, ⟨s.path⟩, ⟨s.path, c.steps s⟩, c.bindOf s⟩

/-- Compiles one route. -/
def compile (c : Compiler σ) (source : Source σ) (schemaId routeId : String) :
    Except CompileError (CompiledRoute σ) :=
  (select source schemaId routeId).map c.assemble

/-! Notes -/

/-- The note of a middleware whose name is not registered. -/
def unknownMiddleware (c : Compiler σ) (bind : Bind σ) : Middleware σ → Option Note
  | .step _ => none
  | .named name =>
    match c.handlers.resolve? name with
    | some _ => none
    | none => some (event .warn "Middleware not registered, skipping"
        [("middleware", .string name), ("schema_id", .string bind.id)])

private def routeNote (s : Selection σ) : Note :=
  let text (s : Option String) : Option Json := s.map Json.string
  event .info "Handling route" (fieldsOf [("schema_id", some (.string s.schemaId)),
    ("id", some (.string s.id)),
    ("handler_method", some (.string (Selection.operationName s.route s.routeId))),
    ("http_method", some (.string s.kind.method.name)), ("http_route", some (.string s.path)),
    ("using_factory", text s.factoryName), ("has_factory_loader", text s.loaderName),
    ("has_validation", some (.bool s.route.validation.isSome)),
    ("has_header_validation", some (.bool s.route.headerValidation.isSome)),
    ("has_post_validation_handler", text s.route.postValidation),
    ("has_route_handler", text s.route.handler),
    ("has_post_route_handler", text s.route.postHandler),
    ("num_middlewares", some (.int s.route.middlewares.length))])

/-- What is told of a route that was selected and compiled. -/
def selectionNotes (c : Compiler σ) (s : Selection σ) : List Note :=
  let bind := c.bindOf s
  [routeNote s] ++
    (s.schema.middlewares ++ s.route.middlewares).filterMap (c.unknownMiddleware bind) ++
    [.measure (.compiled s.schemaId)]

/-- What is told of compiling a route; a failure is not told. -/
def compileNotes (c : Compiler σ) (source : Source σ) (schemaId routeId : String) : List Note :=
  match select source schemaId routeId with
  | .ok s => c.selectionNotes s
  | .error _ => []

/-! All routes of a schema -/

/-- Compiles routes one after the other up to the first that fails. -/
def compileEach (c : Compiler σ) (source : Source σ) (schemaId : String) :
    List String → Except CompileError (List (CompiledRoute σ))
  | [] => .ok []
  | routeId :: rest => do
    let route ← c.compile source schemaId routeId
    let routes ← compileEach c source schemaId rest
    return route :: routes

def compileEachNotes (c : Compiler σ) (source : Source σ) (schemaId : String) :
    List String → List Note
  | [] => []
  | routeId :: rest =>
    match c.compile source schemaId routeId with
    | .ok _ => c.compileNotes source schemaId routeId ++ compileEachNotes c source schemaId rest
    | .error _ => []

/-- Compiles all routes of a schema in the order of their declaration. -/
def compileAll (c : Compiler σ) (source : Source σ) (schemaId : String) :
    Except CompileError (List (CompiledRoute σ)) := do
  let schema ← findSchema source schemaId
  c.compileEach source schemaId schema.routeIds

def compileAllNotes (c : Compiler σ) (source : Source σ) (schemaId : String) : List Note :=
  match source.schema? schemaId with
  | some schema => c.compileEachNotes source schemaId schema.routeIds
  | none => []

def outline (c : Compiler σ) : Outline :=
  let names := Keyed.keys (Keyed.sorted (c.overrides.map fun (kind, _) => (kind.name, ())))
  .record "SchemaCompiler" [("handlers", c.handlers.outline),
    ("default_handlers", .list (names.map .quoted))] true

end Compiler

end SchemaRouting.Schema
