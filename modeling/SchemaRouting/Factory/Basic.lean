import SchemaRouting.Request
import SchemaRouting.Operation
import SchemaRouting.Rule.Check

/-!
Factories make, find, change and remove the items that routes are about. What they do besides
answering is a change of the application's state, a type `σ` that the library knows nothing
of. A factory may also know methods of its own; one that it does not know is no error but
falls back to the call it stands for.
-/

set_option autoImplicit false

namespace SchemaRouting

/-- How a call into the application ends: with a value, an error, or a panic. -/
inductive Reply (α : Type)
  | ok (a : α)
  | error (e : RouteError)
  | panic (message : String)

def Reply.map {α β : Type} (f : α → β) : Reply α → Reply β
  | ok a => ok (f a)
  | error e => error e
  | panic message => panic message

/-- A call into the application, which may change its state. -/
abbrev Action (σ α : Type) := σ → Reply α × σ

/-- What a factory is told of the request. -/
structure FactoryCall where
  params : Path.Params
  query : List (String × Json)
  body : Json
  user : Option Principal

def FactoryCall.ofRequest {φ : Type} (r : Request φ) : FactoryCall :=
  ⟨r.params, r.query, r.body, r.user⟩

structure Factory (σ : Type) where
  list : FactoryCall → Action σ (List Json)
  get : FactoryCall → Action σ Json
  create : FactoryCall → Action σ Json
  update : FactoryCall → Action σ Json
  remove : FactoryCall → Action σ Unit
  /-- A method of the factory's own, if it knows one by that name. -/
  custom : String → FactoryOperation → FactoryCall → Option (Action σ Json)

def Action.notImplemented {σ α : Type} (operation : FactoryOperation) : Action σ α := fun app =>
  (.error (.notImplemented operation.name), app)

/-- The factory that implements nothing. -/
def Factory.base {σ : Type} : Factory σ where
  list _ := Action.notImplemented .list
  get _ := Action.notImplemented .get
  create _ := Action.notImplemented .create
  update _ := Action.notImplemented .update
  remove _ := Action.notImplemented .remove
  custom _ _ _ := none

/-- What a factory answered. -/
inductive FactoryOutput
  | items (values : List Json)
  | item (value : Json)
  | removed
  deriving DecidableEq

namespace FactoryOutput

def toJson : FactoryOutput → Json
  | items values => .array values
  | item value => value
  | removed => .null

/-- What a value counts as under an operation. -/
def ofJson (operation : FactoryOperation) (v : Json) : FactoryOutput :=
  match operation with
  | .list =>
    match v with
    | .array values => items values
    | .null => items []
    | v => items [v]
  | .remove => removed
  | .get | .create | .update => item v

end FactoryOutput

namespace Factory

variable {σ : Type}

/-- The call that an operation stands for. -/
def canonical (f : Factory σ) (operation : FactoryOperation) (call : FactoryCall) :
    Action σ FactoryOutput := fun app =>
  match operation with
  | .list => let (reply, app) := f.list call app; (reply.map .items, app)
  | .get => let (reply, app) := f.get call app; (reply.map .item, app)
  | .create => let (reply, app) := f.create call app; (reply.map .item, app)
  | .update => let (reply, app) := f.update call app; (reply.map .item, app)
  | .remove => let (reply, app) := f.remove call app; (reply.map fun _ => .removed, app)

/-- The method of the factory's own that is to be called in place of the canonical call: one
that is asked for, is not the canonical call itself, and is known. -/
def override? (f : Factory σ) (method : Option String) (operation : FactoryOperation)
    (call : FactoryCall) : Option (Action σ Json) :=
  match method with
  | some name => if name = operation.name then none else f.custom name operation call
  | none => none

end Factory

end SchemaRouting
