import Mathlib.Data.List.Nodup
import SchemaRouting.Proofs.Config.Valid
import SchemaRouting.Proofs.Route.Mounting
import SchemaRouting.Proofs.Schema.DistinctIds

/-!
# The order in which routes are mounted

A table that is made from a catalog holds one route for each pair of ids of a schema that is
selected and of a route that the schema declares, compiled one after the other up to the first that
fails (`RouteTable.ofCatalog_eq`). So what is mounted is told by those pairs alone: in which order,
which schemas are served, and, where each schema is listed once and each id of the catalog stands
once, that no pair is mounted twice (`RouteTable.mounts_selected_routes_in_order`).
-/

set_option autoImplicit false
set_option relaxedAutoImplicit false

namespace SchemaRouting

open Schema (CatalogDefinition Compiler Definition DistinctIds Source)

variable {σ : Type} {c : Compiler σ} {source : Source σ} {schemaId routeId : String}
  {r : CompiledRoute σ}

/-- The ids of the schema and the route that a route is made from. -/
def CompiledRoute.ids (r : CompiledRoute σ) : String × String := (r.schemaId, r.routeId)

namespace Schema.Compiler

/-- The route of a pair of ids. -/
def compileIds (c : Compiler σ) (source : Source σ) (ids : String × String) :
    Except CompileError (CompiledRoute σ) :=
  c.compile source ids.1 ids.2

theorem ids_of_compileIds {ids : String × String} (h : c.compileIds source ids = .ok r) :
    r.ids = ids := by
  obtain ⟨d, entry, kind, -, rfl⟩ := compile_eq_ok_iff.mp h
  rfl

theorem compileEach_eq_mapM (routeIds : List String) :
    c.compileEach source schemaId routeIds = routeIds.mapM (c.compile source schemaId) := by
  induction routeIds with
  | nil => rfl
  | cons routeId rest ih => rw [compileEach, ih, List.mapM_cons]

theorem compileAll_of_found {d : Definition σ} (h : source.schema? schemaId = some d) :
    c.compileAll source schemaId = d.routeIds.mapM (c.compile source schemaId) := by
  have hfound : findSchema source schemaId = .ok d := by rw [findSchema, h]
  rw [compileAll, hfound]
  exact compileEach_eq_mapM d.routeIds

theorem compileAll_eq_mapM {d : Definition σ} (h : source.schema? schemaId = some d) :
    c.compileAll source schemaId = (d.routeIds.map (schemaId, ·)).mapM (c.compileIds source) := by
  rw [compileAll_of_found h, List.mapM_map]
  rfl

theorem ids_of_mapM_compileIds {pairs : List (String × String)} {routes : List (CompiledRoute σ)}
    (h : pairs.mapM (c.compileIds source) = .ok routes) :
    routes.map CompiledRoute.ids = pairs := by
  induction pairs generalizing routes with
  | nil =>
    cases h
    rfl
  | cons ids rest ih =>
    rw [List.mapM_cons] at h
    obtain ⟨first, hfirst, h⟩ := bind_eq_ok_iff.mp h
    obtain ⟨others, hothers, h⟩ := bind_eq_ok_iff.mp h
    cases h
    rw [List.map_cons, ids_of_compileIds hfirst, ih hothers]

end Schema.Compiler

namespace RouteTable

variable {t : RouteTable σ} {catalog : CatalogDefinition σ} {server : Config.Server}

/-! ### What is selected -/

/-- The schemas of a catalog that a server mounts: all in the order of the catalog if it lists none,
and else those of its list that the catalog has, in the order of the list. -/
def selected (catalog : CatalogDefinition σ) (server : Config.Server) : List String :=
  if server.schemas = [] then Keyed.keys catalog
  else server.schemas.filter fun id ↦ Keyed.contains id catalog

/-- The pairs of ids of a schema and its routes in the order of their declaration. -/
def declared (catalog : CatalogDefinition σ) (schemaId : String) : List (String × String) :=
  ((Keyed.find? schemaId catalog).elim [] Schema.Settings.routeIds).map (schemaId, ·)

theorem mem_declared_iff {pair : String × String} : pair ∈ declared catalog schemaId ↔
    pair.1 = schemaId ∧ ∃ d, Keyed.find? schemaId catalog = some d ∧ pair.2 ∈ d.routeIds := by
  obtain ⟨id, routeId⟩ := pair
  cases h : Keyed.find? schemaId catalog <;> simp [declared, h, eq_comm, and_comm]

theorem filter_schemaIds : (schemaIds catalog server.schemas).filter (Keyed.contains · catalog) =
    selected catalog server := by
  rw [schemaIds, selected]
  by_cases hnone : server.schemas = []
  · rw [if_pos hnone, if_pos (List.isEmpty_iff.mpr hnone), List.filter_eq_self]
    intro id hid
    exact Keyed.contains_iff.mpr hid
  · rw [if_neg hnone, if_neg fun hempty ↦ hnone (List.isEmpty_iff.mp hempty)]

theorem mem_selected_iff (hid : schemaId ∈ Keyed.keys catalog) :
    schemaId ∈ selected catalog server ↔ server.serves schemaId = true := by
  rw [selected, Config.Server.serves]
  by_cases hnone : server.schemas = []
  · simp [hnone, hid]
  · simp [hnone, Keyed.contains_iff, hid]

theorem nodup_selected (hcatalog : (Keyed.keys catalog).Nodup) (hlisted : server.schemas.Nodup) :
    (selected catalog server).Nodup := by
  rw [selected]
  split
  · exact hcatalog
  · exact hlisted.filter _

/-- A pair tells its schema, so those of different schemas differ. -/
theorem nodup_flatMap_declared {ids : List String} (hids : ids.Nodup) (h : DistinctIds catalog) :
    (ids.flatMap (declared catalog)).Nodup := by
  refine List.nodup_flatMap.mpr ⟨fun id _ ↦ ?_, hids.imp fun {id other} hne pair hpair hother ↦ ?_⟩
  · cases hfound : Keyed.find? id catalog with
    | none => simp [declared, hfound]
    | some d =>
      have hroutes : d.routeIds.Nodup := h.routes id d (Keyed.mem_of_find? hfound)
      rw [declared, hfound]
      exact hroutes.map fun _ _ heq ↦ (Prod.mk.inj heq).2
  · exact hne ((mem_declared_iff.mp hpair).1.symm.trans (mem_declared_iff.mp hother).1)

/-! ### What is mounted -/

theorem mountSchema_eq (t : RouteTable σ) {d : Definition σ}
    (hfound : Keyed.find? schemaId catalog = some d) :
    t.mountSchema c (.catalog catalog) schemaId = (do
      let routes ← (declared catalog schemaId).mapM (c.compileIds (.catalog catalog))
      return ⟨t.routes ++ routes⟩) := by
  have hschema : (Source.catalog catalog).schema? schemaId = some d := hfound
  rw [mountSchema_eq_map, Compiler.compileAll_eq_mapM hschema, declared, hfound]
  rfl

/-- Mounting schemas one after the other compiles all their routes one after the other. -/
theorem mountSchemas_eq (t : RouteTable σ) {ids : List String}
    (hids : ∀ id ∈ ids, Keyed.contains id catalog = true) :
    ids.foldlM (fun t id ↦ t.mountSchema c (.catalog catalog) id) t = (do
      let routes ← (ids.flatMap (declared catalog)).mapM (c.compileIds (.catalog catalog))
      return ⟨t.routes ++ routes⟩) := by
  induction ids generalizing t with
  | nil => simp
  | cons id rest ih =>
    obtain ⟨d, hfound⟩ := Option.isSome_iff_exists.mp (hids id List.mem_cons_self)
    have hrest : ∀ id ∈ rest, Keyed.contains id catalog = true :=
      fun id hid ↦ hids id (List.mem_cons_of_mem _ hid)
    rw [List.foldlM_cons, mountSchema_eq t hfound, List.flatMap_cons, List.mapM_append]
    simp [ih _ hrest]

theorem ofCatalog_eq (c : Compiler σ) (catalog : CatalogDefinition σ) (server : Config.Server) :
    ofCatalog c catalog server.schemas = (do
      let routes ← ((selected catalog server).flatMap (declared catalog)).mapM
        (c.compileIds (.catalog catalog))
      return ⟨routes⟩) := by
  rw [ofCatalog, mountEach, filter_schemaIds, mountSchemas_eq]
  · rfl
  · intro id hid
    rw [← filter_schemaIds] at hid
    exact (List.mem_filter.mp hid).2

theorem map_ids_of_ofCatalog (h : ofCatalog c catalog server.schemas = .ok t) :
    t.routes.map CompiledRoute.ids = (selected catalog server).flatMap (declared catalog) := by
  rw [ofCatalog_eq] at h
  obtain ⟨routes, hroutes, h⟩ := bind_eq_ok_iff.mp h
  cases h
  exact Compiler.ids_of_mapM_compileIds hroutes

theorem nodup_ids_of_ofCatalog (h : ofCatalog c catalog server.schemas = .ok t)
    (hlisted : server.schemas.Nodup) (hdistinct : DistinctIds catalog) :
    (t.routes.map CompiledRoute.ids).Nodup := by
  rw [map_ids_of_ofCatalog h]
  exact nodup_flatMap_declared (nodup_selected hdistinct.schemas hlisted) hdistinct

/-- Assumes: a table that was made from a catalog. It has, in this order, for each selected schema
the routes that the schema declares: the schemas of the catalog if none are listed, and else the
listed ones without those that the catalog does not have. A route of the catalog is mounted exactly
if its schema is served. If the list is that of a configuration that passes its check, and the ids
of the catalog are distinct, no route is mounted twice. -/
theorem mounts_selected_routes_in_order (h : ofCatalog c catalog server.schemas = .ok t) :
    t.routes.map CompiledRoute.ids = (selected catalog server).flatMap (declared catalog) ∧
    (∀ schemaId d routeId, Keyed.find? schemaId catalog = some d → routeId ∈ d.routeIds →
      ((∃ r ∈ t.routes, r.ids = (schemaId, routeId)) ↔ server.serves schemaId = true)) ∧
    ∀ config : Config, config.server = server → config.validate = .ok () → DistinctIds catalog →
      (t.routes.map CompiledRoute.ids).Nodup := by
  have hids := map_ids_of_ofCatalog h
  refine ⟨hids, fun schemaId d routeId hfound hroute ↦ ?_, fun config hserver hvalid hdistinct ↦ ?_⟩
  · have hid : schemaId ∈ Keyed.keys catalog := Keyed.mem_keys_iff.mpr ⟨d, hfound⟩
    rw [← List.mem_map, hids, List.mem_flatMap, ← mem_selected_iff hid]
    constructor
    · rintro ⟨id, hselected, hpair⟩
      obtain ⟨rfl, -⟩ := mem_declared_iff.mp hpair
      exact hselected
    · intro hselected
      exact ⟨schemaId, hselected, mem_declared_iff.mpr ⟨rfl, d, hfound, hroute⟩⟩
  · subst hserver
    exact nodup_ids_of_ofCatalog h (Config.validate_eq_ok_iff.mp hvalid).listedOnce hdistinct

/-- A catalog of three schemas, each with one route. -/
def household : CatalogDefinition Unit :=
  [("lamps", lampsBelow "/lamps" ":id"), ("doors", lampsBelow "/doors" ":id"),
    ("rooms", lampsBelow "/rooms" ":id")]

theorem distinctIds_household : DistinctIds household := by
  refine ⟨by decide, fun id d hmem ↦ ?_⟩
  have hone : ∀ base, (lampsBelow base ":id").routeIds.Nodup := by
    intro base
    simp [lampsBelow, Schema.Settings.routeIds, Keyed.keys]
  simp only [household, List.mem_cons, Prod.mk.injEq, List.not_mem_nil, or_false] at hmem
  rcases hmem with ⟨-, rfl⟩ | ⟨-, rfl⟩ | ⟨-, rfl⟩ <;> exact hone _

/-- A server that lists two of them, and one that the catalog does not have. -/
def roomsAndLamps : Config.Server := ⟨"house", ["rooms", "attics", "lamps"], none⟩

/-- Routes are mounted in the order of the list, those of unlisted schemas are not. -/
theorem rooms_before_lamps :
    ∃ t, ofCatalog Schema.plainCompiler household roomsAndLamps.schemas = .ok t ∧
      t.routes.map CompiledRoute.ids = [("rooms", "get"), ("lamps", "get")] ∧
      ((∃ r ∈ t.routes, r.ids = ("doors", "get")) ↔ roomsAndLamps.serves "doors" = true) ∧
      (t.routes.map CompiledRoute.ids).Nodup := by
  have hmounted : ∃ t, ofCatalog Schema.plainCompiler household roomsAndLamps.schemas = .ok t :=
    ⟨_, rfl⟩
  have hvalid : (⟨roomsAndLamps, .standard⟩ : Config).validate = .ok () := rfl
  have hpairs : (selected household roomsAndLamps).flatMap (declared household) =
      [("rooms", "get"), ("lamps", "get")] := rfl
  have hdoors : Keyed.find? "doors" household = some (lampsBelow "/doors" ":id") := rfl
  obtain ⟨t, ht⟩ := hmounted
  obtain ⟨hids, hserved, hnodup⟩ := mounts_selected_routes_in_order ht
  exact ⟨t, ht, hids.trans hpairs, hserved "doors" _ "get" hdoors List.mem_cons_self,
    hnodup ⟨roomsAndLamps, .standard⟩ rfl hvalid distinctIds_household⟩

/-! ### Tables of configurations -/

theorem distinctIds_of_readCatalog {folder : Folder} {config : Config} {path : String}
    (h : readCatalog folder config = .ok (path, catalog)) : DistinctIds catalog := by
  rw [readCatalog] at h
  split at h
  · cases h
  · cases h
  · split at h
    · rename_i document hdocument
      cases h
      exact (Schema.distinctIds_of_readCatalogFile hdocument).toCatalogDefinition
    · cases h

/-- Of a table that is made from a configuration no more is asked: its catalog is read from a
document, and the configuration has passed its check. -/
theorem nodup_ids_of_ofConfig {folder : Folder} {config : Config}
    (h : ofConfig c folder config = .ok t) : (t.routes.map CompiledRoute.ids).Nodup := by
  obtain ⟨⟨path, catalog⟩, hread, h⟩ := bind_eq_ok_iff.mp h
  have hvalid : config.validate = .ok () := by
    cases hcheck : config.validate with
    | ok => rfl
    | error e =>
      rw [readCatalog, hcheck] at hread
      cases hread
  dsimp only at h
  split at h
  · rename_i t' ht'
    cases h
    exact nodup_ids_of_ofCatalog ht' (Config.validate_eq_ok_iff.mp hvalid).listedOnce
      (distinctIds_of_readCatalog hread)
  · cases h

end RouteTable

end SchemaRouting
