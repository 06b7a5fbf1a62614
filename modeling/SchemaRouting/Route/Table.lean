import SchemaRouting.Config.Loader
import SchemaRouting.Route.Serve
import SchemaRouting.Schema.Compile

/-!
Route tables. Of the routes that answer a method on a path, the one with the fewest
placeholders is found, and of several such the one that was mounted first; a request for
options is answered on its path alone. A schema is mounted with all its routes or not at all.
-/

set_option autoImplicit false

namespace SchemaRouting

open Schema (CatalogDefinition Compiler Source)
open Telemetry (Note event)

/-- The mounted routes in the order in which they were mounted. -/
structure RouteTable (σ : Type) where
  routes : List (CompiledRoute σ)

/-- Why a table cannot be made from a configuration. -/
inductive ServeError
  | compile (e : CompileError)
  | config (e : ConfigError)
  | missingCatalog
  deriving DecidableEq

def ServeError.message : ServeError → String
  | compile e => e.message
  | config e => e.message
  | missingCatalog => "no schema catalog configured, set server.schema_file"

namespace RouteTable

variable {σ : Type}

def empty : RouteTable σ := ⟨[]⟩

def size (t : RouteTable σ) : Nat := t.routes.length

def mount (t : RouteTable σ) (route : CompiledRoute σ) : RouteTable σ := ⟨t.routes ++ [route]⟩

/-! Finding a route -/

/-- Whether a route answers a method on a path. -/
def answers (method : Http.Method) (path : String) (r : CompiledRoute σ) : Bool :=
  (method = .options || r.method = method) && r.pattern.isMatch path

/-- The first of some routes with the fewest placeholders. -/
def fewestPlaceholders : List (CompiledRoute σ) → Option (CompiledRoute σ)
  | [] => none
  | r :: rest =>
    match fewestPlaceholders rest with
    | none => some r
    | some other =>
      if other.pattern.placeholderCount < r.pattern.placeholderCount then some other else some r

def find? (t : RouteTable σ) (method : Http.Method) (path : String) : Option (CompiledRoute σ) :=
  fewestPlaceholders (t.routes.filter (answers method path))

/-- Answers a request through the route that is found for it. -/
def handle (t : RouteTable σ) (shared : Shared σ) (request : Request (Factory σ)) :
    Response × Shared σ :=
  match t.find? request.method request.path with
  | some route => route.handle shared request
  | none =>
    let method := request.method.name
    let note := event .debug "No route matched"
      [("method", .string method), ("path", .string request.path)]
    (.ofError (.notFound ("no route for " ++ method ++ " " ++ request.path)),
      { shared with notes := shared.notes ++ [note] })

/-! Mounting schemas -/

/-- Mounts all routes of a schema in the order of their declaration, and tells their number. The
table is told as the attempt leaves it, also where it fails. -/
def mountAll (t : RouteTable σ) (c : Compiler σ) (source : Source σ) (schemaId : String) :
    Except CompileError Nat × RouteTable σ :=
  match c.compileAll source schemaId with
  | .ok routes => (.ok routes.length, ⟨t.routes ++ routes⟩)
  | .error e => (.error e, t)

/-- The table with a schema mounted, or why it cannot be. -/
def mountSchema (t : RouteTable σ) (c : Compiler σ) (source : Source σ) (schemaId : String) :
    Except CompileError (RouteTable σ) :=
  let (mounted, t) := t.mountAll c source schemaId
  mounted.map fun _ => t

def mountNotes (c : Compiler σ) (source : Source σ) (schemaId : String) : List Note :=
  c.compileAllNotes source schemaId ++
    match c.compileAll source schemaId with
    | .ok routes => [event .info "Mounted schema"
        [("schema", .string schemaId), ("routes", .int routes.length)]]
    | .error _ => []

/-- The schemas to mount: those that are listed, or else all of the catalog. -/
def schemaIds (catalog : CatalogDefinition σ) (listed : List String) : List String :=
  if listed.isEmpty then Keyed.keys catalog else listed

/-- Mounts schemas one after the other; ids that the catalog does not have are passed over. -/
def mountEach (c : Compiler σ) (catalog : CatalogDefinition σ) (t : RouteTable σ)
    (ids : List String) : Except CompileError (RouteTable σ) :=
  (ids.filter fun id => Keyed.contains id catalog).foldlM
    (fun t id => t.mountSchema c (.catalog catalog) id) t

def mountEachNotes (c : Compiler σ) (catalog : CatalogDefinition σ) : List String → List Note
  | [] => []
  | id :: rest =>
    if Keyed.contains id catalog then
      mountNotes c (.catalog catalog) id ++
        match c.compileAll (.catalog catalog) id with
        | .ok _ => mountEachNotes c catalog rest
        | .error _ => []
    else
      event .warn "Configured schema not found in catalog, skipping" [("schema", .string id)] ::
        mountEachNotes c catalog rest

def ofCatalog (c : Compiler σ) (catalog : CatalogDefinition σ) (listed : List String) :
    Except CompileError (RouteTable σ) :=
  mountEach c catalog .empty (schemaIds catalog listed)

def ofCatalogNotes (c : Compiler σ) (catalog : CatalogDefinition σ) (listed : List String) :
    List Note :=
  mountEachNotes c catalog (schemaIds catalog listed)

/-! Tables from a configuration -/

/-- The catalog that a configuration names. -/
def readCatalog (folder : Folder) (config : Config) :
    Except ServeError (String × CatalogDefinition σ) :=
  match config.validate, config.server.schemaFile with
  | .error e, _ => .error (.config e)
  | .ok _, none => .error .missingCatalog
  | .ok _, some path =>
    match Schema.readCatalogFile folder path with
    | .ok catalog => .ok (path, Schema.toCatalogDefinition catalog)
    | .error e => .error (.compile e)

def ofConfig (c : Compiler σ) (folder : Folder) (config : Config) :
    Except ServeError (RouteTable σ) := do
  let (_, catalog) ← readCatalog folder config
  match ofCatalog c catalog config.server.schemas with
  | .ok t => return t
  | .error e => throw (.compile e)

/-- The note of the document that a valid configuration names. -/
def fileNotes (config : Config) : List Note :=
  match config.validate, config.server.schemaFile with
  | .ok _, some path =>
    match Schema.Format.ofPath? path with
    | some format => [event .debug "Loading schema document"
        [("path", .string path), ("format", .string format.name)]]
    | none => []
  | _, _ => []

def ofConfigNotes (c : Compiler σ) (folder : Folder) (config : Config) : List Note :=
  fileNotes config ++
    match readCatalog folder config with
    | .ok (path, catalog) =>
      event .info "Loaded schema catalog" [("service", .string config.server.serviceName),
          ("schema_file", .string path), ("schemas", .int catalog.length)] ::
        ofCatalogNotes c catalog config.server.schemas
    | .error _ => []

end RouteTable

end SchemaRouting
