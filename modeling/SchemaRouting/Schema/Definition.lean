import SchemaRouting.Schema.Document
import SchemaRouting.Pipeline.Step

/-!
Schema definitions: schemas with any validators, whose middlewares are steps or the names of
registered handlers. A definition comes from a document or is built setting by setting. Where
a route is looked for, the source is one definition, which stands for every schema id, or a
catalog of them.
-/

set_option autoImplicit false

namespace SchemaRouting.Schema

/-- A step given directly, or the name of a handler. -/
inductive Middleware (σ : Type)
  | step (s : Step σ)
  | named (name : String)

abbrev RouteDefinition (σ : Type) := RouteSettings Validator (Middleware σ)
abbrev EntryDefinition (σ : Type) := Entry Validator (Middleware σ)
abbrev Definition (σ : Type) := Settings Validator (Middleware σ)
abbrev CatalogDefinition (σ : Type) := Catalog Validator (Middleware σ)

variable {σ : Type}

/-- The definition that a document writes down. -/
def Settings.toDefinition (d : Document) : Definition σ := d.map Rule.validate .named

def toCatalogDefinition (c : CatalogDocument) : CatalogDefinition σ :=
  c.map fun (id, d) => (id, d.toDefinition)

/-- The settings that an entry stands for. -/
def Entry.definition {ν μ : Type} : Entry ν μ → RouteSettings ν μ
  | route r => r
  | path s => if s.isEmpty then .empty else { RouteSettings.empty with path := some s }
  | empty => .empty

namespace Settings

variable {ν μ : Type}

def routeIds (s : Settings ν μ) : List String := Keyed.keys s.routes

def route? (s : Settings ν μ) (id : String) : Option (Entry ν μ) := Keyed.find? id s.routes

/-- Sets a route, in its place if its id is known. -/
def withRoute (s : Settings ν μ) (id : String) (entry : Entry ν μ) : Settings ν μ :=
  { s with routes := Keyed.put id entry s.routes }

end Settings

/-- Where schemas are looked for. -/
inductive Source (σ : Type)
  | single (d : Definition σ)
  | catalog (c : CatalogDefinition σ)

def Source.schema? (source : Source σ) (id : String) : Option (Definition σ) :=
  match source with
  | .single d => some d
  | .catalog c => Keyed.find? id c

/-! Descriptions -/

def Middleware.outline : Middleware σ → Outline
  | step s => .call "Step" [.quoted s.name]
  | named name => .call "Named" [.quoted name]

def routeOutline (r : RouteDefinition σ) : Outline :=
  .record "RouteDefinition" [("id", .optionalText r.id), ("method", .optionalText r.method),
    ("path", .optionalText r.path), ("has_header_validation", .bool r.headerValidation.isSome),
    ("has_validation", .bool r.validation.isSome),
    ("post_validation", .optionalText r.postValidation),
    ("load_factory", .optionalText r.loadFactory), ("handler", .optionalText r.handler),
    ("post_handler", .optionalText r.postHandler), ("use_factory", .optionalText r.useFactory),
    ("use_factory_method", .optionalText r.useFactoryMethod),
    ("middlewares", .list (r.middlewares.map Middleware.outline))] false

def entryOutline : EntryDefinition σ → Outline
  | .route r => .call "Route" [routeOutline r]
  | .path s => .call "Path" [.quoted s]
  | .empty => .word "Empty"

def outline (d : Definition σ) : Outline :=
  .record "SchemaDefinition" [("id", .optionalText d.id),
    ("has_model_schema", .bool d.model.isSome), ("use_factory", .optionalText d.useFactory),
    ("load_factory", .optionalText d.loadFactory), ("path", .optionalText d.path),
    ("routes", .map (d.routes.map fun (id, entry) => (.quoted id, entryOutline entry))),
    ("middlewares", .list (d.middlewares.map Middleware.outline))] false

end SchemaRouting.Schema
