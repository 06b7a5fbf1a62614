import SchemaRouting.Route.Table
import SchemaRouting.Proofs.Path.Matching
import SchemaRouting.Proofs.Route.ValidatedCalls
import SchemaRouting.Proofs.Schema.Compiling

/-!
# Mounted routes, and which of them can be reached

Every route of a table that is made from a catalog is compiled from one of its schemas
(`RouteTable.exists_compile_of_mem_ofCatalog`), so its pattern is joined from the path of that
schema and its own. The path of a request begins with a slash. Some such path matches the route
exactly if the joined path begins with a slash, as it does where the path of the schema does or is
empty and that of the route does, or if it begins with a placeholder and goes on after it
(`RouteTable.mounted_matchesAbsolute_iff`). A route below any other path is mounted too, and no
request reaches it (`RouteTable.relative_lamps_unreachable`).
-/

set_option autoImplicit false
set_option relaxedAutoImplicit false

namespace SchemaRouting

open Schema (CatalogDefinition Compiler Definition Source)

variable {σ : Type} {c : Compiler σ} {source : Source σ} {schemaId : String} {r : CompiledRoute σ}

/-! ### Where mounted routes come from -/

theorem Schema.Compiler.exists_compile_of_mem_compileEach {ids : List String}
    {routes : List (CompiledRoute σ)} (h : c.compileEach source schemaId ids = .ok routes)
    (hr : r ∈ routes) : ∃ routeId ∈ ids, c.compile source schemaId routeId = .ok r := by
  induction ids generalizing routes with
  | nil =>
    cases h
    cases hr
  | cons routeId rest ih =>
    obtain ⟨first, hfirst, h⟩ := bind_eq_ok_iff.mp h
    obtain ⟨others, hothers, h⟩ := bind_eq_ok_iff.mp h
    cases h
    rcases List.mem_cons.mp hr with rfl | hr
    · exact ⟨routeId, List.mem_cons_self, hfirst⟩
    · obtain ⟨id, hid, hcompile⟩ := ih hothers hr
      exact ⟨id, List.mem_cons_of_mem routeId hid, hcompile⟩

namespace RouteTable

variable {t u : RouteTable σ} {catalog : CatalogDefinition σ} {listed : List String}

theorem mountSchema_eq_map (t : RouteTable σ) (c : Compiler σ) (source : Source σ)
    (schemaId : String) : t.mountSchema c source schemaId =
      (c.compileAll source schemaId).map fun routes ↦ ⟨t.routes ++ routes⟩ := by
  rw [mountSchema, mountAll]
  cases c.compileAll source schemaId <;> rfl

theorem mem_or_compile_of_mem_mountSchema (h : t.mountSchema c source schemaId = .ok u)
    (hr : r ∈ u.routes) :
    r ∈ t.routes ∨ ∃ routeId, c.compile source schemaId routeId = .ok r := by
  rw [mountSchema_eq_map] at h
  obtain ⟨routes, hroutes, rfl⟩ := map_eq_ok_iff.mp h
  rcases List.mem_append.mp hr with hr | hr
  · exact .inl hr
  · obtain ⟨d, -, hroutes⟩ := bind_eq_ok_iff.mp hroutes
    obtain ⟨routeId, -, hcompile⟩ := Compiler.exists_compile_of_mem_compileEach hroutes hr
    exact .inr ⟨routeId, hcompile⟩

theorem mem_or_compile_of_mem_mountSchemas {ids : List String}
    (h : ids.foldlM (fun t id ↦ t.mountSchema c source id) t = .ok u) (hr : r ∈ u.routes) :
    r ∈ t.routes ∨ ∃ schemaId routeId, c.compile source schemaId routeId = .ok r := by
  induction ids generalizing t with
  | nil =>
    cases h
    exact .inl hr
  | cons id rest ih =>
    rw [List.foldlM_cons] at h
    obtain ⟨mounted, hmounted, hrest⟩ := bind_eq_ok_iff.mp h
    rcases ih hrest with hr | hr
    · rcases mem_or_compile_of_mem_mountSchema hmounted hr with hr | ⟨routeId, hcompile⟩
      · exact .inl hr
      · exact .inr ⟨id, routeId, hcompile⟩
    · exact .inr hr

/-- A table that is made from a catalog holds no routes but those compiled from its schemas. -/
theorem exists_compile_of_mem_ofCatalog (h : ofCatalog c catalog listed = .ok t)
    (hr : r ∈ t.routes) :
    ∃ schemaId routeId, c.compile (.catalog catalog) schemaId routeId = .ok r :=
  (mem_or_compile_of_mem_mountSchemas h hr).resolve_left List.not_mem_nil

/-! ### Which of them can be reached -/

/-- Assumes: a table that was made from a catalog, and a route of it. The pattern of the route is
joined from the path of its schema and its own. A request path, which begins with a slash, that
matches it exists exactly if the joined path begins with a slash, or with a placeholder that is
followed by more; and it begins with a slash exactly if the path of the schema does, or the schema
has none and the path of the route does. -/
theorem mounted_matchesAbsolute_iff (h : ofCatalog c catalog listed = .ok t) (hr : r ∈ t.routes) :
    ∃ d entry, Keyed.find? r.schemaId catalog = some d ∧ d.route? r.routeId = some entry ∧
      r.pattern = ⟨Path.join (d.path.getD "") (entry.definition.path.getD "")⟩ ∧
      ((∃ path, Path.isAbsolute path = true ∧ r.pattern.isMatch path = true) ↔
        Path.StartsAtRoot (d.path.getD "") (entry.definition.path.getD "") ∨
          r.pattern.LeadsWithPlaceholder) := by
  obtain ⟨schemaId, routeId, hcompile⟩ := exists_compile_of_mem_ofCatalog h hr
  obtain ⟨d, entry, kind, hselects, rfl⟩ := Compiler.compile_eq_ok_iff.mp hcompile
  refine ⟨d, entry, hselects.found, hselects.route, rfl, ?_⟩
  rw [← Path.isAbsolute_join_iff]
  exact Path.Pattern.matchesAbsolute_iff

/-- A schema with a path and one route below it. -/
def lampsBelow (base suffix : String) : Definition Unit :=
  { (Schema.Settings.empty : Definition Unit) with
    path := some base
    routes := [("get", .path suffix)] }

/-- The one route of the table of a catalog with that schema. -/
def lampBelow (base suffix : String) : CompiledRoute Unit :=
  Schema.plainCompiler.assemble ⟨"lamps", "get", lampsBelow base suffix,
    { (Schema.RouteSettings.empty : Schema.RouteDefinition Unit) with path := some suffix }, .get⟩

/-- Lamps are reached below a path that begins with a slash, and below the name of a house. -/
theorem lamps_reached_below_root_and_house :
    (ofCatalog Schema.plainCompiler [("lamps", lampsBelow "/lamps" ":id")] [] =
        .ok ⟨[lampBelow "/lamps" ":id"]⟩ ∧
      ∃ path, Path.isAbsolute path = true ∧
        (lampBelow "/lamps" ":id").pattern.isMatch path = true) ∧
    ofCatalog Schema.plainCompiler [("lamps", lampsBelow ":house" "lamps")] [] =
        .ok ⟨[lampBelow ":house" "lamps"]⟩ ∧
      ∃ path, Path.isAbsolute path = true ∧
        (lampBelow ":house" "lamps").pattern.isMatch path = true := by
  have hroot : ofCatalog Schema.plainCompiler [("lamps", lampsBelow "/lamps" ":id")] [] =
      .ok ⟨[lampBelow "/lamps" ":id"]⟩ := rfl
  have hhouse : ofCatalog Schema.plainCompiler [("lamps", lampsBelow ":house" "lamps")] [] =
      .ok ⟨[lampBelow ":house" "lamps"]⟩ := rfl
  refine ⟨⟨hroot, ?_⟩, hhouse, ?_⟩
  · obtain ⟨d, entry, hd, hentry, -, hreached⟩ :=
      mounted_matchesAbsolute_iff hroot (List.mem_singleton_self _)
    cases hd
    cases hentry
    exact hreached.mpr (.inl (.inl rfl))
  · obtain ⟨d, entry, -, -, -, hreached⟩ :=
      mounted_matchesAbsolute_iff hhouse (List.mem_singleton_self _)
    exact hreached.mpr (.inr ⟨":house", ["lamps"], rfl, rfl, nofun⟩)

/-- It is not so that every mounted route matches some path that begins with a slash: below a path
that begins without one no request finds a lamp. -/
theorem relative_lamps_unreachable :
    ¬ ∀ (c : Compiler Unit) (catalog : CatalogDefinition Unit) (listed : List String)
      (t : RouteTable Unit), ofCatalog c catalog listed = .ok t →
      ∀ r ∈ t.routes, ∃ path, Path.isAbsolute path = true ∧ r.pattern.isMatch path = true := by
  intro h
  have hreached := h Schema.plainCompiler [("lamps", lampsBelow "lamps" ":id")] [] _ rfl
    (lampBelow "lamps" ":id") (List.mem_singleton_self _)
  rcases Path.Pattern.matchesAbsolute_iff.mp hreached with
    habsolute | ⟨token, rest, hsegments, hplaceholder, -⟩
  · cases habsolute
  · cases hsegments
    cases hplaceholder

end RouteTable

end SchemaRouting
