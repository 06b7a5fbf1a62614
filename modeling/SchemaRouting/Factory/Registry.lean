import SchemaRouting.Factory.Basic

/-!
Factories by name, and the factories that stand in where none is named: one for each id,
built at the first use of the id and kept from then on. Where building one panics, none is kept
and the next use of the id builds again.
-/

set_option autoImplicit false

namespace SchemaRouting

/-- How the building of a factory ends: it is made, or there is a panic. -/
inductive Built (φ : Type)
  | made (factory : φ)
  | panicked (message : String)

/-- Makes the default factory of an id, given the validator of its model. -/
abbrev FactoryBuilder (σ φ : Type) := String → Option Validator → σ → Built φ × σ

/-- Factories of type `φ` by name, and the builder of default ones. -/
structure FactoryRegistry (σ φ : Type) where
  named : List (String × φ)
  builder : FactoryBuilder σ φ

namespace FactoryRegistry

variable {σ φ : Type}

def new (builder : FactoryBuilder σ φ) : FactoryRegistry σ φ := ⟨[], builder⟩

/-- Sets the factory of a name. -/
def register (r : FactoryRegistry σ φ) (name : String) (factory : φ) : FactoryRegistry σ φ :=
  { r with named := Keyed.insert name factory r.named }

def get? (r : FactoryRegistry σ φ) (name : String) : Option φ := Keyed.find? name r.named

def contains (r : FactoryRegistry σ φ) (name : String) : Bool := (r.get? name).isSome

def size (r : FactoryRegistry σ φ) : Nat := r.named.length

/-- The default factory of an id, built if the id has none yet. One that is built is kept. -/
def defaultFor (r : FactoryRegistry σ φ) (id : String) (model : Option Validator)
    (defaults : List (String × φ)) (app : σ) : Built φ × List (String × φ) × σ :=
  match Keyed.find? id defaults with
  | some factory => (.made factory, defaults, app)
  | none =>
    match r.builder id model app with
    | (.made factory, app) => (.made factory, Keyed.insert id factory defaults, app)
    | (.panicked message, app) => (.panicked message, defaults, app)

/-- The description of a base factory. -/
def baseOutline (id : String) (model : Option Validator) : Outline :=
  .record "BaseFactory" [("id", .quoted id), ("has_schema", .bool model.isSome)] false

def outline (r : FactoryRegistry σ φ) (defaults : List (String × φ)) : Outline :=
  .record "FactoryRegistry" [("named", .list (r.named.map fun entry => .quoted entry.1)),
    ("default_count", .nat defaults.length)] true

end FactoryRegistry

end SchemaRouting
