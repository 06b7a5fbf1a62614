import SchemaRouting.Scripted.App
import SchemaRouting.Services

/-!
Factories of a scripted application: one that implements nothing, ones that answer every call
with a fixed answer, and ones that keep their items in a store. Beside them a directory of
principals.
-/

set_option autoImplicit false

namespace SchemaRouting.Scripted

/-- A fixed answer to a call; an echo answers with the call itself. -/
inductive Answer
  | ok (v : Json)
  | error (e : RouteError)
  | panic (message : String)
  | echo

def Answer.reply (operation : FactoryOperation) (call : FactoryCall) : Answer → Reply Json
  | ok v => .ok v
  | error e => .error e
  | panic message => .panic message
  | echo => .ok (.ofMembers [("operation", .string operation.name),
      ("params", .array (call.params.pairs.map fun (key, value) =>
        .array [.string key, .string value])),
      ("query", .object call.query), ("body", call.body),
      ("user", (call.user.map Principal.toJson).getD .null)])

/-- What a factory is. -/
inductive FactoryKind
  | base
  | fixed (operations : FactoryOperation → Option Answer) (custom : List (String × Answer))
  | memory (items : List Json)

namespace FactoryKind

private def answered (operations : FactoryOperation → Option Answer)
    (operation : FactoryOperation) (call : FactoryCall) : Action App Json := fun app =>
  match operations operation with
  | some answer => (answer.reply operation call, app)
  | none => Action.notImplemented operation app

/-- Answers with what is fixed; a list that is no array counts as its only item. -/
def fixedFactory (operations : FactoryOperation → Option Answer) (custom : List (String × Answer)) :
    Factory App where
  list call app :=
    let (reply, app) := answered operations .list call app
    (reply.map fun v => v.asArray?.getD [v], app)
  get := answered operations .get
  create := answered operations .create
  update := answered operations .update
  remove call app :=
    let (reply, app) := answered operations .remove call app
    (reply.map fun _ => (), app)
  custom method operation call :=
    (Keyed.find? method custom).map fun answer app => (answer.reply operation call, app)

/-- Whether a value is the item that a call is about. -/
def isItem (call : FactoryCall) (v : Json) : Bool :=
  v.get? "id" = some (.string ((call.params.named? "id").getD ""))

def missingItem : RouteError := .factory .notFound "NotFound" none

/-- A new item: an object gets an id, and the user as its owner. -/
def newItem (count : Nat) (call : FactoryCall) : Json :=
  match call.body with
  | .object members =>
    let members := Keyed.insert "id" (.string ("d" ++ Nat.repr (count + 1))) members
    match call.user.bind Principal.id with
    | some owner => .object (Keyed.insert "owner" (.string owner) members)
    | none => .object members
  | v => v

/-- An object with the members of another set; anything else stays as it is. -/
def merged : Json → Json → Json
  | .object members, .object changes =>
    .object (changes.foldl (fun members (key, v) => Keyed.insert key v members) members)
  | v, _ => v

/-- Keeps its items in a store. -/
def memoryFactory (store : Nat) : Factory App where
  list _ app := (.ok (app.items store), app)
  get call app :=
    match (app.items store).find? (isItem call) with
    | some v => (.ok v, app)
    | none => (.error missingItem, app)
  create call app :=
    let items := app.items store
    let item := newItem items.length call
    (.ok item, app.setItems store (items ++ [item]))
  update call app :=
    let items := app.items store
    match items.findIdx? (isItem call) with
    | none => (.error missingItem, app)
    | some i =>
      let item := merged ((items[i]?).getD .null) call.body
      (.ok item, app.setItems store (items.set i item))
  remove call app :=
    (.ok (), app.setItems store ((app.items store).filter fun v => !isItem call v))
  custom method _ _ :=
    match method with
    | "listActive" => some fun app =>
      (.ok (.array ((app.items store).filter fun v => v.get? "active" = some (.bool true))), app)
    | "first" => some fun app => (.ok ((app.items store).head?.getD .null), app)
    | "count" => some fun app => (.ok (.int (app.items store).length), app)
    | _ => none

/-- The factory of a kind, with a new store if it keeps items. -/
def make (kind : FactoryKind) (app : App) : Factory App × App :=
  match kind with
  | base => (.base, app)
  | fixed operations custom => (fixedFactory operations custom, app)
  | memory items =>
    let (store, app) := app.openStore items
    (memoryFactory store, app)

end FactoryKind

/-- Principals by id, and an id at which looking up panics; no id counts as the empty one. -/
structure Directory where
  users : List (String × Principal)
  panicsAt : Option String

def Directory.source (d : Directory) : PrincipalSource App := fun p app =>
  let id := p.id.getD ""
  if d.panicsAt = some id then (.panic "directory down", app)
  else match Keyed.find? id d.users with
    | some user => (.ok user, app)
    | none => (.error (.notFound ("no principal '" ++ id ++ "'")), app)

end SchemaRouting.Scripted
