import SchemaRouting.Proofs.Keyed
import SchemaRouting.Proofs.Schema.Shape
import SchemaRouting.Schema.Compile

/-!
# Ways of writing a route

A route that has only a path is written as that path or as the settings of a route of which no other
is set, and one that has nothing at all is written as an empty path, as no settings or as an empty
entry (`Entry.GivesPath`). A schema is reworded by writing any of its routes in another of these
ways (`Settings.Reworded`).

Each way is checked as the path that it gives (`checkEntry_of_givesPath`), but a path that stands
alone is told by the place of the route and one among settings by that of the setting, so a
reworded schema has the same fault up to that place (`agree_check`, `SameFault`). Each way stands
for the same settings, but that an empty path may be absent (`Entry.Reworded.definition`), and a
route is compiled alike with either (`assemble_eq_of_reworded`). Compiling a route of a reworded
schema therefore agrees with compiling that of the schema (`agree_compile`).
-/

set_option autoImplicit false
set_option relaxedAutoImplicit false

namespace SchemaRouting.Schema

variable {σ ν ν' μ μ' : Type} {p : String}

/-! ### Entries that give a path -/

/-- An entry gives the path of its route, which is empty if it has none, and nothing more. -/
inductive Entry.GivesPath : Entry ν μ → String → Prop
  | path (p : String) : GivesPath (.path p) p
  | settings (p : String) : GivesPath (.route { RouteSettings.empty with path := some p }) p
  | noSettings : GivesPath (.route .empty) ""
  | empty : GivesPath .empty ""

/-- An entry is the same, or gives the same path in another way. -/
inductive Entry.Reworded : Entry ν μ → Entry ν μ → Prop
  | same (entry : Entry ν μ) : Reworded entry entry
  | path {entry entry' : Entry ν μ} {p : String} : entry.GivesPath p → entry'.GivesPath p →
    Reworded entry entry'

/-- A schema with any of its routes written in another way. -/
structure Settings.Reworded (d d' : Settings ν μ) : Prop where
  id : d'.id = d.id
  model : d'.model = d.model
  useFactory : d'.useFactory = d.useFactory
  loadFactory : d'.loadFactory = d.loadFactory
  path : d'.path = d.path
  routes : Keyed.Alongside Entry.Reworded d.routes d'.routes
  middlewares : d'.middlewares = d.middlewares

/-- One schema reworded, or any of a catalog. -/
inductive Source.Reworded : Source σ → Source σ → Prop
  | single {d d' : Definition σ} : d.Reworded d' → Reworded (.single d) (.single d')
  | catalog {c c' : CatalogDefinition σ} : Keyed.Alongside Settings.Reworded c c' →
    Reworded (.catalog c) (.catalog c')

theorem Entry.givesPath_ofPath (p : String) : (Entry.ofPath p : Entry ν μ).GivesPath p := by
  rw [ofPath]
  split_ifs with hempty
  · rw [String.isEmpty_iff.mp hempty]
    exact .empty
  · exact .path p

theorem Settings.Reworded.refl (d : Settings ν μ) : d.Reworded d :=
  ⟨rfl, rfl, rfl, rfl, rfl, List.forall₂_same.mpr fun _ _ ↦ ⟨rfl, .same _⟩, rfl⟩

/-- A route is set in one way or in another that gives the same path. -/
theorem Settings.reworded_withRoute {entry entry' : Entry ν μ} (h : entry.GivesPath p)
    (h' : entry'.GivesPath p) (d : Settings ν μ) (id : String) :
    (d.withRoute id entry).Reworded (d.withRoute id entry') where
  id := rfl
  model := rfl
  useFactory := rfl
  loadFactory := rfl
  path := rfl
  routes := (Settings.Reworded.refl d).routes.put id (.path h h')
  middlewares := rfl

/-! ### The same over other validators and middlewares -/

theorem Entry.GivesPath.map {entry : Entry ν μ} (h : entry.GivesPath p) (f : ν → ν') (g : μ → μ') :
    (entry.map f g).GivesPath p := by
  cases h with
  | path p => exact Entry.givesPath_ofPath p
  | settings p => exact .settings p
  | noSettings => exact .noSettings
  | empty => exact .empty

theorem Entry.Reworded.map {entry entry' : Entry ν μ} (h : entry.Reworded entry') (f : ν → ν')
    (g : μ → μ') : (entry.map f g).Reworded (entry'.map f g) := by
  cases h with
  | same => exact .same _
  | path hgives hgives' => exact .path (hgives.map f g) (hgives'.map f g)

theorem Settings.Reworded.map {d d' : Settings ν μ} (h : d.Reworded d') (f : ν → ν')
    (g : μ → μ') : (d.map f g).Reworded (d'.map f g) where
  id := h.id
  model := congrArg (Option.map f) h.model
  useFactory := h.useFactory
  loadFactory := h.loadFactory
  path := h.path
  routes := by
    rw [Settings.map, Settings.map, Keyed.Alongside, List.forall₂_map_left_iff,
      List.forall₂_map_right_iff]
    exact h.routes.imp fun _ _ ⟨hid, hentry⟩ ↦ ⟨hid, hentry.map f g⟩
  middlewares := congrArg (List.map g) h.middlewares

/-! ### The shape of a reworded schema -/

/-- The fault of a path that is not relative, in the given place. -/
def notRelative (field p : String) : CompileError :=
  .invalidSchema field ("'" ++ p ++ "' is not a relative path")

/-- Two errors are the same, or both are the fault of one path of one route: where the path stands
alone its place is that of the route, and among settings it is that of the setting. -/
inductive SameFault : CompileError → CompileError → Prop
  | same (e : CompileError) : SameFault e e
  | setting {id p : String} : Shape.isRelativePath p = false →
    SameFault (notRelative ("routes." ++ id) p) (notRelative ("routes." ++ id ++ ".path") p)
  | alone {id p : String} : Shape.isRelativePath p = false →
    SameFault (notRelative ("routes." ++ id ++ ".path") p) (notRelative ("routes." ++ id) p)

namespace Shape

variable {entry entry' : EntryDefinition σ} {d d' : Definition σ}

/-- What gives a path is checked as that path. -/
theorem checkEntry_of_givesPath (h : entry.GivesPath p) (field : String) :
    checkEntry field entry = checkPath field p ∨
      checkEntry field entry = checkPath (field ++ ".path") p := by
  cases h with
  | path p => exact .inl rfl
  | settings p =>
    have hroute : checkEntry field (.route { (RouteSettings.empty : RouteDefinition σ) with
        path := some p }) = (do checkPath (field ++ ".path") p; .ok ()) := rfl
    refine .inr (hroute.trans ?_)
    cases checkPath (field ++ ".path") p <;> rfl
  | noSettings => exact .inl rfl
  | empty => exact .inl rfl

theorem agree_checkPath {field field' : String}
    (hfault : isRelativePath p = false → SameFault (notRelative field p) (notRelative field' p)) :
    Agree Eq SameFault (checkPath field p) (checkPath field' p) := by
  rw [checkPath, checkPath, require, require]
  cases hrelative : isRelativePath p with
  | true => exact .ok rfl
  | false => exact .error (hfault hrelative)

theorem agree_checkEntry (h : entry.Reworded entry') (id : String) :
    Agree Eq SameFault (checkEntry ("routes." ++ id) entry)
      (checkEntry ("routes." ++ id) entry') := by
  cases h with
  | same => exact agree_self (fun _ ↦ rfl) .same _
  | path hgives hgives' =>
    rcases checkEntry_of_givesPath hgives ("routes." ++ id) with h | h <;>
      rcases checkEntry_of_givesPath hgives' ("routes." ++ id) with h' | h' <;> rw [h, h']
    · exact agree_checkPath fun _ ↦ .same _
    · exact agree_checkPath .setting
    · exact agree_checkPath .alone
    · exact agree_checkPath fun _ ↦ .same _

theorem agree_checkRoutes {routes routes' : List (String × EntryDefinition σ)}
    (h : Keyed.Alongside Entry.Reworded routes routes') :
    Agree Eq SameFault (checkRoutes routes) (checkRoutes routes') := by
  induction h with
  | nil => exact .ok rfl
  | @cons route route' rest rest' hroute _ ih =>
    obtain ⟨id, entry⟩ := route
    obtain ⟨id', entry'⟩ := route'
    obtain ⟨rfl, hentry⟩ := hroute
    rw [checkRoutes, checkRoutes]
    exact (agree_self (fun _ ↦ rfl) .same _).bind fun _ _ _ ↦
      (agree_checkEntry hentry _).bind fun _ _ _ ↦ ih

/-- A reworded schema is well shaped if the schema is, and has the same fault otherwise. -/
theorem agree_check (h : d.Reworded d') : Agree Eq SameFault (check d) (check d') := by
  rw [check, check, h.id, h.path, h.useFactory, h.loadFactory, h.middlewares]
  iterate 5 refine (agree_self (fun _ ↦ rfl) .same _).bind fun _ _ _ ↦ ?_
  exact agree_checkRoutes h.routes

end Shape

/-! ### The route of a reworded schema -/

section Selecting

variable {entry entry' : EntryDefinition σ} {d d' : Definition σ} {source source' : Source σ}

theorem Entry.GivesPath.definition (h : entry.GivesPath p) :
    ∃ q : Option String, entry.definition = { RouteSettings.empty with path := q } ∧
      q.getD "" = p := by
  cases h with
  | path p =>
    rw [Entry.definition]
    split_ifs with hempty
    · exact ⟨none, rfl, (String.isEmpty_iff.mp hempty).symm⟩
    · exact ⟨some p, rfl, rfl⟩
  | settings p => exact ⟨some p, rfl, rfl⟩
  | noSettings => exact ⟨none, rfl, rfl⟩
  | empty => exact ⟨none, rfl, rfl⟩

/-- A reworded entry stands for the same settings, but that an empty path may be absent. -/
theorem Entry.Reworded.definition (h : entry.Reworded entry') :
    ∃ q : Option String, entry'.definition = { entry.definition with path := q } ∧
      q.getD "" = entry.definition.path.getD "" := by
  cases h with
  | same => exact ⟨_, rfl, rfl⟩
  | path hgives hgives' =>
    obtain ⟨q, hdefinition, hq⟩ := hgives.definition
    obtain ⟨q', hdefinition', hq'⟩ := hgives'.definition
    refine ⟨q', ?_, ?_⟩
    · rw [hdefinition, hdefinition']
    · rw [hdefinition, hq', hq]

/-- A route is compiled alike from a reworded schema, and with an empty path alike as without one.
-/
theorem assemble_eq_of_reworded (c : Compiler σ) (h : d.Reworded d') {r : RouteDefinition σ}
    {q : Option String} (hq : q.getD "" = r.path.getD "") (schemaId routeId : String)
    (kind : OperationKind) : c.assemble ⟨schemaId, routeId, d, r, kind⟩ =
      c.assemble ⟨schemaId, routeId, d', { r with path := q }, kind⟩ := by
  obtain ⟨id, model, useFactory, loadFactory, path, routes, middlewares⟩ := d'
  obtain ⟨rfl, rfl, rfl, rfl, rfl, -, rfl⟩ := h
  have hpath : Path.join (d.path.getD "") (r.path.getD "") =
      Path.join (d.path.getD "") (q.getD "") := by rw [hq]
  rw [Compiler.assemble, Selection.path, hpath]
  rfl

theorem agree_findSchema (h : source.Reworded source') (schemaId : String) :
    Agree Settings.Reworded SameFault (findSchema source schemaId)
      (findSchema source' schemaId) := by
  cases h with
  | single h => exact .ok h
  | @catalog c c' h =>
    have hfound := h.find? schemaId
    rw [findSchema, findSchema, Source.schema?, Source.schema?]
    generalize Keyed.find? schemaId c = found, Keyed.find? schemaId c' = found' at hfound
    cases hfound with
    | none => exact .error (.same _)
    | some h => exact .ok h

/-- The route of a reworded schema is selected where that of the schema is, and is compiled alike.
-/
theorem agree_select (c : Compiler σ) (h : source.Reworded source') (schemaId routeId : String) :
    Agree (fun s s' ↦ c.assemble s = c.assemble s') SameFault (select source schemaId routeId)
      (select source' schemaId routeId) := by
  refine (agree_findSchema h schemaId).bind fun d d' hd ↦
    (Shape.agree_check hd).bind fun _ _ _ ↦ ?_
  have hentry := hd.routes.find? routeId
  unfold Settings.route?
  generalize Keyed.find? routeId d.routes = e, Keyed.find? routeId d'.routes = e' at hentry
  cases hentry with
  | none => exact .error (.same _)
  | @some entry entry' hentry =>
    obtain ⟨q, hdefinition, hq⟩ := hentry.definition
    dsimp only
    rw [hdefinition, Selection.operationName, Selection.operationName]
    cases OperationKind.ofName? (entry.definition.method.getD routeId) with
    | none => exact .error (.same _)
    | some kind => exact .ok (assemble_eq_of_reworded c hd hq schemaId routeId kind)

/-- Compiling a route of a reworded schema gives the same route, or the same fault. -/
theorem agree_compile (c : Compiler σ) (h : source.Reworded source') (schemaId routeId : String) :
    Agree Eq SameFault (c.compile source schemaId routeId)
      (c.compile source' schemaId routeId) := by
  rw [Compiler.compile, Compiler.compile]
  exact (agree_select c h schemaId routeId).map fun _ _ hsame ↦ hsame

end Selecting

end SchemaRouting.Schema
