import SchemaRouting.Proofs.Schema.Compiling
import SchemaRouting.Route.Table

/-!
# Compilations, and what they are measured by

Whatever is compiled is compiled route by route: all routes of a schema up to the first that fails
(`Compilation.each`), and of a catalog those of one schema after the other (`Compilation.mounting`).
Every compilation that succeeds is measured once, under the id of its schema, and one that fails is
not (`Compilation.measures`), so those before a failure are measured although nothing comes of them.
-/

set_option autoImplicit false
set_option relaxedAutoImplicit false

namespace SchemaRouting

open Schema (CatalogDefinition Compiler Definition Middleware Source)
open Telemetry (Measure Note measures measures_append)

variable {σ : Type}

/-- One call of a compiler: for a route of a schema, by their ids. -/
structure Compilation (σ : Type) where
  compiler : Compiler σ
  source : Source σ
  schemaId : String
  routeId : String

namespace Compilation

def result (x : Compilation σ) : Except CompileError (CompiledRoute σ) :=
  x.compiler.compile x.source x.schemaId x.routeId

def Succeeds (x : Compilation σ) : Prop := ∃ r, x.result = .ok r

instance (x : Compilation σ) : Decidable x.Succeeds :=
  match h : x.result with
  | .ok r => .isTrue ⟨r, h⟩
  | .error _ => .isFalse fun ⟨_, hr⟩ ↦ nomatch h.symm.trans hr

/-- What a compilation is measured by. -/
def measures (x : Compilation σ) : List Measure :=
  if x.Succeeds then [.compiled x.schemaId] else []

/-- Whether a compilation is measured by a measure. -/
def Counts (x : Compilation σ) (m : Measure) : Prop := x.Succeeds ∧ m = .compiled x.schemaId

instance (x : Compilation σ) (m : Measure) : Decidable (x.Counts m) :=
  inferInstanceAs (Decidable (_ ∧ _))

theorem count_measures (x : Compilation σ) (m : Measure) :
    x.measures.count m = if x.Counts m then 1 else 0 := by
  by_cases hsucceeds : x.Succeeds
  · by_cases hm : m = .compiled x.schemaId
    · simp [measures, Counts, hsucceeds, hm]
    · simp [measures, Counts, hsucceeds, hm, Ne.symm hm]
  · simp [measures, Counts, hsucceeds]

/-! ### The compilations that there are -/

section

variable (c : Compiler σ) (source : Source σ)

/-- Those of some routes of a schema, up to the first that fails. -/
def each (schemaId : String) : List String → List (Compilation σ)
  | [] => []
  | routeId :: rest =>
    ⟨c, source, schemaId, routeId⟩ ::
      match c.compile source schemaId routeId with
      | .ok _ => each schemaId rest
      | .error _ => []

/-- Those of all routes of a schema. -/
def all (schemaId : String) : List (Compilation σ) :=
  match source.schema? schemaId with
  | some schema => each c source schemaId schema.routeIds
  | none => []

/-- Those of schemas of a catalog, up to the first of which a route fails. -/
def mounting (catalog : CatalogDefinition σ) : List String → List (Compilation σ)
  | [] => []
  | id :: rest =>
    if Keyed.contains id catalog then
      all c (.catalog catalog) id ++
        match c.compileAll (.catalog catalog) id with
        | .ok _ => mounting catalog rest
        | .error _ => []
    else mounting catalog rest

end

end Compilation

/-! ### What is measured of them -/

theorem Telemetry.measures_filterMap {α : Type} {f : α → Option Note}
    (h : ∀ a n, f a = some n → measures [n] = []) (l : List α) :
    measures (l.filterMap f) = [] := by
  induction l with
  | nil => rfl
  | cons a rest ih =>
    cases hfa : f a with
    | none => rw [List.filterMap_cons_none hfa, ih]
    | some n =>
      rw [List.filterMap_cons_some hfa, ← List.singleton_append, measures_append, h a n hfa, ih]
      rfl

namespace Schema.Compiler

variable {c : Compiler σ} {source : Source σ} {schemaId routeId : String}

theorem measures_selectionNotes (c : Compiler σ) (s : Selection σ) :
    measures (c.selectionNotes s) = [.compiled s.schemaId] := by
  have hunknown : ∀ bind (m : Middleware σ) n, c.unknownMiddleware bind m = some n →
      measures [n] = [] := by
    intro bind m n h
    cases m with
    | step step => cases h
    | named name =>
      rw [unknownMiddleware] at h
      split at h
      · cases h
      · cases h
        rfl
  rw [selectionNotes, measures_append, measures_append, Telemetry.measures_filterMap (hunknown _)]
  rfl

theorem measures_compileNotes (c : Compiler σ) (source : Source σ) (schemaId routeId : String) :
    measures (c.compileNotes source schemaId routeId) =
      (⟨c, source, schemaId, routeId⟩ : Compilation σ).measures := by
  rw [compileNotes, Compilation.measures]
  cases hselect : select source schemaId routeId with
  | ok s =>
    have hsucceeds : (⟨c, source, schemaId, routeId⟩ : Compilation σ).Succeeds :=
      ⟨c.assemble s, by rw [Compilation.result, compile, hselect]; rfl⟩
    obtain ⟨d, entry, kind, -, rfl⟩ := select_eq_ok_iff.mp hselect
    rw [if_pos hsucceeds]
    exact measures_selectionNotes c _
  | error e =>
    have hfails : ¬ (⟨c, source, schemaId, routeId⟩ : Compilation σ).Succeeds := by
      rintro ⟨r, hr⟩
      rw [Compilation.result, compile, hselect] at hr
      cases hr
    rw [if_neg hfails]
    rfl

theorem measures_compileEachNotes (c : Compiler σ) (source : Source σ) (schemaId : String)
    (routeIds : List String) : measures (c.compileEachNotes source schemaId routeIds) =
      (Compilation.each c source schemaId routeIds).flatMap Compilation.measures := by
  induction routeIds with
  | nil => rfl
  | cons routeId rest ih =>
    rw [compileEachNotes, Compilation.each, List.flatMap_cons, ← measures_compileNotes]
    cases hcompile : c.compile source schemaId routeId with
    | ok r => rw [measures_append, ih]
    | error e =>
      have hselect : select source schemaId routeId = .error e := map_eq_error_iff.mp hcompile
      rw [compileNotes, hselect]
      rfl

theorem measures_compileAllNotes (c : Compiler σ) (source : Source σ) (schemaId : String) :
    measures (c.compileAllNotes source schemaId) =
      (Compilation.all c source schemaId).flatMap Compilation.measures := by
  rw [compileAllNotes, Compilation.all]
  cases source.schema? schemaId with
  | none => rfl
  | some d => exact measures_compileEachNotes c source schemaId d.routeIds

end Schema.Compiler

namespace RouteTable

open Schema.Compiler

theorem measures_mountNotes (c : Compiler σ) (source : Source σ) (schemaId : String) :
    measures (mountNotes c source schemaId) =
      (Compilation.all c source schemaId).flatMap Compilation.measures := by
  rw [mountNotes, measures_append, measures_compileAllNotes]
  cases c.compileAll source schemaId <;> exact List.append_nil _

theorem measures_mountEachNotes (c : Compiler σ) (catalog : CatalogDefinition σ)
    (ids : List String) : measures (mountEachNotes c catalog ids) =
      (Compilation.mounting c catalog ids).flatMap Compilation.measures := by
  induction ids with
  | nil => rfl
  | cons id rest ih =>
    rw [mountEachNotes, Compilation.mounting]
    split
    · rw [measures_append, measures_mountNotes, List.flatMap_append]
      cases c.compileAll (.catalog catalog) id with
      | ok routes => rw [ih]
      | error e => rfl
    · exact ih

theorem measures_fileNotes (config : Config) : measures (fileNotes config) = [] := by
  rw [fileNotes]
  split
  · split <;> rfl
  · rfl

end RouteTable

end SchemaRouting
