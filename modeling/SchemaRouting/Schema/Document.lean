import SchemaRouting.Rule.Writing
import SchemaRouting.Toml.Reader

/-!
Schema documents. A schema has optional settings, routes in order of declaration, and
middlewares; a route is written as settings, as a bare path, or as nothing at all. The same
types hold documents, whose validators are rules and whose middlewares are names, and
definitions, which may hold any validator and steps given directly. A catalog holds schemas
by id.
-/

set_option autoImplicit false

namespace SchemaRouting.Schema

/-- The settings of one route, over validators `ν` and middlewares `μ`. -/
structure RouteSettings (ν μ : Type) where
  id : Option String
  method : Option String
  path : Option String
  headerValidation : Option ν
  validation : Option ν
  postValidation : Option String
  loadFactory : Option String
  handler : Option String
  postHandler : Option String
  useFactory : Option String
  useFactoryMethod : Option String
  middlewares : List μ
  deriving DecidableEq

/-- A route that sets nothing. -/
def RouteSettings.empty {ν μ : Type} : RouteSettings ν μ :=
  ⟨none, none, none, none, none, none, none, none, none, none, none, []⟩

/-- The three ways of writing a route. -/
inductive Entry (ν μ : Type)
  | path (path : String)
  | route (settings : RouteSettings ν μ)
  | empty
  deriving DecidableEq

/-- A schema over validators `ν` and middlewares `μ`. -/
structure Settings (ν μ : Type) where
  id : Option String
  model : Option ν
  useFactory : Option String
  loadFactory : Option String
  path : Option String
  routes : List (String × Entry ν μ)
  middlewares : List μ
  deriving DecidableEq

def Settings.empty {ν μ : Type} : Settings ν μ := ⟨none, none, none, none, none, [], []⟩

abbrev RouteDocument := RouteSettings Rule String
abbrev EntryDocument := Entry Rule String
abbrev Document := Settings Rule String

/-- Schemas by id, in order of declaration. -/
abbrev Catalog (ν μ : Type) := List (String × Settings ν μ)

abbrev CatalogDocument := Catalog Rule String

section Map

variable {ν ν' μ μ' : Type}

/-- The same settings over other validators and middlewares. -/
def RouteSettings.map (f : ν → ν') (g : μ → μ') (r : RouteSettings ν μ) : RouteSettings ν' μ' :=
  ⟨r.id, r.method, r.path, r.headerValidation.map f, r.validation.map f, r.postValidation,
    r.loadFactory, r.handler, r.postHandler, r.useFactory, r.useFactoryMethod,
    r.middlewares.map g⟩

/-- The entry of a bare path; one that is empty says as much as nothing at all. -/
def Entry.ofPath (s : String) : Entry ν μ := if s.isEmpty then empty else path s

/-- The same entry over others. -/
def Entry.map (f : ν → ν') (g : μ → μ') : Entry ν μ → Entry ν' μ'
  | path s => ofPath s
  | route r => route (r.map f g)
  | empty => empty

def Settings.map (f : ν → ν') (g : μ → μ') (s : Settings ν μ) : Settings ν' μ' :=
  ⟨s.id, s.model.map f, s.useFactory, s.loadFactory, s.path,
    s.routes.map fun (id, entry) => (id, entry.map f g), s.middlewares.map g⟩

end Map

/-! Reading -/

def routeKeys : List String :=
  ["id", "method", "path", "headerValidation", "validation", "postValidation", "loadFactory",
    "handler", "postHandler", "useFactory", "useFactoryMethod", "middlewares"]

/-- Takes one member of a route into its settings and the keys seen so far. -/
def readRouteMember (draft : List String × RouteDocument) (key : String) (t : Tree) :
    Except ReadError (List String × RouteDocument) := do
  let (seen, r) := draft
  if !routeKeys.contains key then throw (.unknownField key)
  let seen ← Tree.once seen key
  let name : Except ReadError (Option String) := t.readOptional Tree.readString
  let rule : Except ReadError (Option Rule) := t.readOptional Rule.read
  let r ← match key with
    | "id" => name.map fun v => { r with id := v }
    | "method" => name.map fun v => { r with method := v }
    | "path" => name.map fun v => { r with path := v }
    | "headerValidation" => rule.map fun v => { r with headerValidation := v }
    | "validation" => rule.map fun v => { r with validation := v }
    | "postValidation" => name.map fun v => { r with postValidation := v }
    | "loadFactory" => name.map fun v => { r with loadFactory := v }
    | "handler" => name.map fun v => { r with handler := v }
    | "postHandler" => name.map fun v => { r with postHandler := v }
    | "useFactory" => name.map fun v => { r with useFactory := v }
    | "useFactoryMethod" => name.map fun v => { r with useFactoryMethod := v }
    | _ => t.readStrings.map fun v => { r with middlewares := v }
  return (seen, r)

def readRoute : Tree.Read RouteDocument := fun t =>
  (t.readRecord ([], .empty) readRouteMember routeKeys).map Prod.snd

/-- A route entry: a path, the settings of a route, or null. The entry is read as a whole
first, all of which is to be used, and then whatever is wrong inside it is reported as one
error. -/
def readEntry : Tree.Read EntryDocument := fun t =>
  match t.strict? with
  | none => .error .malformed
  | some (.string s) => .ok (.path s)
  | some .null => .ok .empty
  | some t =>
    match readRoute t with
    | .ok r => .ok (.route r)
    | .error _ => .error .noMatchingVariant

def schemaKeys : List String :=
  ["id", "schema", "useFactory", "loadFactory", "path", "routes", "middlewares"]

def readMember (draft : List String × Document) (key : String) (t : Tree) :
    Except ReadError (List String × Document) := do
  let (seen, s) := draft
  if !schemaKeys.contains key then throw (.unknownField key)
  let seen ← Tree.once seen key
  let name : Except ReadError (Option String) := t.readOptional Tree.readString
  let s ← match key with
    | "id" => name.map fun v => { s with id := v }
    | "schema" => (t.readOptional Rule.read).map fun v => { s with model := v }
    | "useFactory" => name.map fun v => { s with useFactory := v }
    | "loadFactory" => name.map fun v => { s with loadFactory := v }
    | "path" => name.map fun v => { s with path := v }
    | "routes" => (t.readKeyed readEntry).map fun v => { s with routes := v }
    | _ => t.readStrings.map fun v => { s with middlewares := v }
  return (seen, s)

def read : Tree.Read Document := fun t =>
  (t.readRecord ([], .empty) readMember schemaKeys).map Prod.snd

def readCatalog : Tree.Read CatalogDocument := Tree.readKeyed read

/-! Writing -/

private def member {α : Type} (key : String) (write : α → Tree) (value : Option α) :
    List (String × Tree) :=
  (value.map fun a => (key, write a)).toList

private def namesMember (names : List String) : List (String × Tree) :=
  if names.isEmpty then [] else [("middlewares", .array (names.map .string) .strict)]

def RouteSettings.toTree (r : RouteDocument) : Tree :=
  .object (member "id" .string r.id ++ member "method" .string r.method ++
    member "path" .string r.path ++ member "headerValidation" Rule.toTree r.headerValidation ++
    member "validation" Rule.toTree r.validation ++
    member "postValidation" .string r.postValidation ++
    member "loadFactory" .string r.loadFactory ++ member "handler" .string r.handler ++
    member "postHandler" .string r.postHandler ++ member "useFactory" .string r.useFactory ++
    member "useFactoryMethod" .string r.useFactoryMethod ++ namesMember r.middlewares) .strict

def Entry.toTree : EntryDocument → Tree
  | path s => .string s
  | route r => r.toTree
  | empty => .null

def Settings.toTree (s : Document) : Tree :=
  .object (member "id" .string s.id ++ member "schema" Rule.toTree s.model ++
    member "useFactory" .string s.useFactory ++ member "loadFactory" .string s.loadFactory ++
    member "path" .string s.path ++
    [("routes", .object (s.routes.map fun (id, entry) => (id, entry.toTree)) .strict)] ++
    namesMember s.middlewares) .strict

/-- The document as compact text, in the order of declaration. -/
def Settings.text (s : Document) : String := Json.writeTree s.toTree

def catalogText (c : CatalogDocument) : String :=
  Json.writeTree (.object (c.map fun (id, s) => (id, s.toTree)) .strict)

end SchemaRouting.Schema
