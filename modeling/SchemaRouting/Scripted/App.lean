import SchemaRouting.Factory.Basic

/-!
The state of a scripted application: the trace of what its handlers and factories did, and
the items that its factories keep. Each factory that keeps items has a store of its own.
-/

set_option autoImplicit false

namespace SchemaRouting.Scripted

structure App where
  trace : List Json
  /-- The items of each store, by the number of the store. -/
  stores : List (List Json)

namespace App

def empty : App := ⟨[], []⟩

/-- Adds an entry to the trace. -/
def push (app : App) (entry : Json) : App := { app with trace := app.trace ++ [entry] }

def pushMembers (app : App) (members : List (String × Json)) : App :=
  app.push (.ofMembers members)

def items (app : App) (store : Nat) : List Json := (app.stores[store]?).getD []

def setItems (app : App) (store : Nat) (values : List Json) : App :=
  { app with stores := app.stores.set store values }

/-- Opens a store with some items, and gives its number. -/
def openStore (app : App) (values : List Json) : Nat × App :=
  (app.stores.length, { app with stores := app.stores ++ [values] })

end App

/-- A text, or null for none. -/
def textOrNull : Option String → Json
  | some s => .string s
  | none => .null

end SchemaRouting.Scripted

namespace SchemaRouting.Request

/-- A request as a trace shows it. -/
def summary {φ : Type} (r : Request φ) : Json :=
  let extension := match r.context.extension? .text with
    | some (.text s) => Json.string s
    | _ => .null
  .ofMembers [("method", .string r.method.name), ("path", .string r.path),
    ("params", .array (r.params.pairs.map fun (key, value) =>
      .array [.string key, .string value])),
    ("body", r.body), ("query", .object r.query),
    ("user", (r.user.map Principal.toJson).getD .null),
    ("session", (r.session.map Session.toJson).getD .null),
    ("has_factory", .bool r.context.factory.isSome),
    ("response_object", r.context.responseObject.getD .null), ("extension", extension)]

end SchemaRouting.Request
