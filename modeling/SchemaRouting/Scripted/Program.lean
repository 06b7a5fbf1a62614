import SchemaRouting.Scripted.Factory
import SchemaRouting.Schema.Compile

/-!
Programs of a scripted application: handlers that are lists of actions. The actions run in
order up to the first that does not proceed. A setup names the factories, the handlers and the
principals of an application; what is built from it is a compiler and the first state.
-/

set_option autoImplicit false

namespace SchemaRouting.Scripted

inductive Action
  | status (code : Nat)
  | json (v : Json)
  | header (name value : String)
  | halt
  | fail (e : RouteError)
  | panic (message : String)
  | echo
  | setBody (v : Json)
  | setUser (p : Option Principal)
  | setSession (s : Option Session)
  | setParams (pairs : List (String × String))
  /-- Puts a registered factory into the context. -/
  | setFactory (name : String)
  | setResponseObject (v : Json)
  | setText (s : String)
  | takeText
  | showRequest
  | showResponse
  | skip

/-- A response as a trace shows it. -/
def responseSummary (r : Response) : Json :=
  let fields := r.headers.fields.mergeSort fun a b => a.1 < b.1 || a.1 == b.1
  .ofMembers [("status", .int r.status.code),
    ("headers", .array (fields.map fun (name, value) => .array [.string name, .string value])),
    ("written", .bool r.isWritten), ("body", r.body.getD .null)]

/-- The settings of a route as a trace shows them. -/
def bindSummary {σ : Type} (b : Bind σ) : Json :=
  .ofMembers [("id", .string b.id), ("factory_name", textOrNull b.factoryName),
    ("factory_method", textOrNull b.factoryMethod), ("has_model_schema", .bool b.model.isSome)]

/-- Finds a registered factory. -/
abbrev Factories := FactoryRegistry App (Factory App)

namespace Action

private def onRequest (x : Exchange App)
    (change : Request (Factory App) → Request (Factory App)) : Verdict × Exchange App :=
  (.proceed, { x with request := change x.request })

private def onContext (x : Exchange App)
    (change : Context (Factory App) → Context (Factory App)) : Verdict × Exchange App :=
  onRequest x fun r => { r with context := change r.context }

private def onResponse (x : Exchange App) (change : Response → Response) : Verdict × Exchange App :=
  (.proceed, { x with response := change x.response })

private def onTrace (x : Exchange App) (entry : Json) : Verdict × Exchange App :=
  (.proceed, { x with app := x.app.push entry })

def run (factories : Factories) (bind : Option (Bind App)) (x : Exchange App) :
    Action → Verdict × Exchange App
  | status code => onResponse x fun r => r.withStatus ((Http.Status.ofNat? code).getD r.status)
  | json v => onResponse x fun r => r.withJson v
  | header name value => onResponse x fun r => r.withHeader name value
  | halt => (.halt, x)
  | fail e => (.fail e, x)
  | panic message => (.panic message, x)
  | echo =>
    match bind with
    | some b => Handler.echo b x
    | none => (.proceed, x)
  | setBody v => onRequest x fun r => { r with body := v }
  | setUser p => onRequest x fun r => { r with user := p }
  | setSession s => onRequest x fun r => { r with session := s }
  | setParams pairs => onRequest x fun r => { r with params := ⟨pairs⟩ }
  | setFactory name =>
    match factories.get? name with
    | some factory => onContext x fun c => { c with factory := some factory }
    | none => (.proceed, x)
  | setResponseObject v => onContext x fun c => { c with responseObject := some v }
  | setText s => onContext x fun c => c.setExtension (.text s)
  | takeText =>
    let took := match x.request.context.extension? .text with
      | some (.text s) => Json.string s
      | _ => .null
    let (verdict, x) := onContext x fun c => c.dropExtension .text
    (verdict, { x with app := x.app.push (.object [("took", took)]) })
  | showRequest => onTrace x x.request.summary
  | showResponse => onTrace x (responseSummary x.response)
  | skip => (.proceed, x)

/-- Runs actions up to the first that does not proceed. -/
def runAll (factories : Factories) (bind : Option (Bind App)) :
    List Action → Exchange App → Verdict × Exchange App
  | [], x => (.proceed, x)
  | action :: rest, x =>
    match action.run factories bind x with
    | (.proceed, x) => runAll factories bind rest x
    | ended => ended

end Action

/-- Runs the actions of a program, whose name and bind are put on the trace first. -/
def program (factories : Factories) (name : String) (actions : List Action)
    (bind : Option (Bind App)) : Act App := fun x =>
  let entry := [("run", .string name), ("bind", (bind.map bindSummary).getD .null)]
  Action.runAll factories bind actions { x with app := x.app.pushMembers entry }

def handler (factories : Factories) (name : String) (actions : List Action) : Handler App :=
  fun b => program factories name actions (some b)

def directStep (factories : Factories) (name : String) (actions : List Action) : Step App :=
  .direct name (program factories name actions none)

/-- A scripted application. -/
structure Setup where
  factories : List (String × FactoryKind)
  defaultFactory : Option FactoryKind
  directory : Option Directory
  handlers : List (String × List Action)
  overrides : List (OperationKind × List Action)

namespace Setup

/-- Builds default factories of one kind, each build on the trace. -/
def builder : Option FactoryKind → FactoryBuilder App (Factory App)
  | none => fun _ _ app => (.made .base, app)
  | some kind => fun id model app =>
    let entry := [("default_factory", .string id), ("has_schema", .bool model.isSome)]
    let (factory, app) := kind.make (app.pushMembers entry)
    (.made factory, app)

private def register (state : Factories × App) (entry : String × FactoryKind) : Factories × App :=
  let (factory, app) := entry.2.make state.2
  (state.1.register entry.1 factory, app)

private def registerHandler (factories : Factories) (state : HandlerRegistry (Handler App) × App)
    (entry : String × List Action) : HandlerRegistry (Handler App) × App :=
  match state.1.register entry.1 (handler factories entry.1 entry.2) with
  | (.ok (), r) => (r, state.2)
  | (.error e, r) => (r, state.2.push (.object [("not_registered", .string e.message)]))

/-- The compiler of the application, and its state before the first request. -/
def build (s : Setup) : Schema.Compiler App × App :=
  let (factories, app) := s.factories.foldl register (.new (builder s.defaultFactory), .empty)
  let services : Services App := ⟨factories, s.directory.map Directory.source, []⟩
  let (handlers, app) := s.handlers.foldl (registerHandler factories) (.empty, app)
  let compiler := s.overrides.foldl (fun c (kind, actions) =>
    c.withDefaultHandler kind (handler factories ("override_" ++ kind.name) actions))
    (Schema.Compiler.new handlers services)
  (compiler, app)

end Setup

end SchemaRouting.Scripted
