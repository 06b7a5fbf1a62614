import SchemaRouting.Proofs.Route.MountOrder

/-!
# Schemas that are mounted whole or not at all

The routes of a schema are compiled one after the other, in the order of their declaration. They are
all there is to mount if every one of them compiles (`Schema.Compiler.compileAll_eq_ok_iff`), and
there is nothing if one does not, however many before it did: then the error is that of the first
such route (`Schema.Compiler.compileAll_eq_error_iff`, `FailsFirst`). A table takes up what was
compiled at once, behind the routes it has, so an attempt that fails leaves it as it was
(`RouteTable.mounts_all_or_none`).
-/

set_option autoImplicit false
set_option relaxedAutoImplicit false

namespace SchemaRouting

open Schema (Compiler Source)

variable {σ : Type} {c : Compiler σ} {source : Source σ} {schemaId : String}

namespace Schema.Compiler

/-- The routes that a schema compiles to: one for each of its ids, in the order of declaration. -/
def CompilesTo (c : Compiler σ) (source : Source σ) (schemaId : String)
    (routes : List (CompiledRoute σ)) : Prop :=
  ∃ d, source.schema? schemaId = some d ∧
    List.Forall₂ (fun routeId r ↦ c.compile source schemaId routeId = .ok r) d.routeIds routes

/-- Why the routes of a schema cannot all be compiled: the schema is not found, or one of its routes
is refused and all those declared before it compile. -/
inductive FailsFirst (c : Compiler σ) (source : Source σ) (schemaId : String) : CompileError → Prop
  | unknownSchema : source.schema? schemaId = none →
    FailsFirst c source schemaId (.unknownSchema schemaId)
  | route {d : Definition σ} {front back : List String} {routeId : String} {e : CompileError} :
    source.schema? schemaId = some d → d.routeIds = front ++ routeId :: back →
    (∀ id ∈ front, ∃ r, c.compile source schemaId id = .ok r) →
    c.compile source schemaId routeId = .error e → FailsFirst c source schemaId e

theorem compileAll_of_unknown (h : source.schema? schemaId = none) :
    c.compileAll source schemaId = .error (.unknownSchema schemaId) := by
  have hmissing : findSchema source schemaId = .error (.unknownSchema schemaId) := by
    rw [findSchema, h]
  rw [compileAll, hmissing]
  rfl

theorem compileAll_eq_ok_iff {routes : List (CompiledRoute σ)} :
    c.compileAll source schemaId = .ok routes ↔ c.CompilesTo source schemaId routes := by
  rw [CompilesTo]
  cases h : source.schema? schemaId with
  | none => simp [compileAll_of_unknown h]
  | some d => simp [compileAll_of_found h, mapM_eq_ok_iff]

theorem compileAll_eq_error_iff {e : CompileError} :
    c.compileAll source schemaId = .error e ↔ c.FailsFirst source schemaId e := by
  constructor
  · intro he
    cases h : source.schema? schemaId with
    | none =>
      rw [compileAll_of_unknown h] at he
      cases he
      exact .unknownSchema h
    | some d =>
      rw [compileAll_of_found h] at he
      obtain ⟨front, routeId, back, hsplit, hfront, hroute⟩ := mapM_eq_error_iff.mp he
      exact .route h hsplit hfront hroute
  · rintro (h | ⟨h, hsplit, hfront, hroute⟩)
    · exact compileAll_of_unknown h
    · rw [compileAll_of_found h, hsplit]
      exact mapM_eq_error_iff.mpr ⟨_, _, _, rfl, hfront, hroute⟩

end Schema.Compiler

namespace RouteTable

variable {t : RouteTable σ} {routes : List (CompiledRoute σ)} {e : CompileError}

theorem mountAll_of_compilesTo (t : RouteTable σ) (h : c.CompilesTo source schemaId routes) :
    t.mountAll c source schemaId = (.ok routes.length, ⟨t.routes ++ routes⟩) := by
  rw [mountAll, Compiler.compileAll_eq_ok_iff.mpr h]

theorem mountAll_of_failsFirst (t : RouteTable σ) (h : c.FailsFirst source schemaId e) :
    t.mountAll c source schemaId = (.error e, t) := by
  rw [mountAll, Compiler.compileAll_eq_error_iff.mpr h]

theorem mountAll_eq_error_iff :
    (t.mountAll c source schemaId).1 = .error e ↔ c.FailsFirst source schemaId e := by
  rw [← Compiler.compileAll_eq_error_iff, mountAll]
  cases c.compileAll source schemaId <;> simp

theorem mountAll_eq_ok_iff {n : Nat} : (t.mountAll c source schemaId).1 = .ok n ↔
    ∃ routes, c.CompilesTo source schemaId routes ∧ routes.length = n := by
  simp only [← Compiler.compileAll_eq_ok_iff]
  rw [mountAll]
  cases c.compileAll source schemaId <;> simp

/-- An attempt to mount a schema fails exactly if the schema is not found or one of its routes does
not compile, with the error of the first that does not in the order of declaration, and it leaves
the routes of the table as they are. It succeeds exactly if the schema compiles, and then the table
has, behind its old routes, as many new ones as it tells: one for each route that the schema
declares, in their order, each the one that the route compiles to. -/
theorem mounts_all_or_none (t : RouteTable σ) (c : Compiler σ) (source : Source σ)
    (schemaId : String) :
    (∀ e, (t.mountAll c source schemaId).1 = .error e ↔ c.FailsFirst source schemaId e) ∧
    (∀ e, (t.mountAll c source schemaId).1 = .error e →
      (t.mountAll c source schemaId).2.routes = t.routes) ∧
    (∀ n, (t.mountAll c source schemaId).1 = .ok n ↔
      ∃ routes, c.CompilesTo source schemaId routes ∧ routes.length = n) ∧
    ∀ n, (t.mountAll c source schemaId).1 = .ok n → ∃ routes : List (CompiledRoute σ),
      (t.mountAll c source schemaId).2.routes = t.routes ++ routes ∧ routes.length = n ∧
      ∃ d, source.schema? schemaId = some d ∧
        List.Forall₂ (fun routeId r ↦ c.compile source schemaId routeId = .ok r)
          d.routeIds routes := by
  refine ⟨fun e ↦ mountAll_eq_error_iff, fun e he ↦ ?_, fun n ↦ mountAll_eq_ok_iff, fun n hn ↦ ?_⟩
  · rw [mountAll_of_failsFirst t (mountAll_eq_error_iff.mp he)]
  · obtain ⟨routes, hroutes, hlength⟩ := mountAll_eq_ok_iff.mp hn
    rw [mountAll_of_compilesTo t hroutes]
    exact ⟨routes, rfl, hlength, hroutes⟩

/-- Lamps can be fetched, but no operation is called `head`: a table takes up neither route. -/
example (t : RouteTable Unit) (c : Compiler Unit) :
    let d : Schema.Definition Unit := { (Schema.Settings.empty : Schema.Definition Unit) with
      path := some "/lamps"
      routes := [("get", .path ":id"), ("head", .empty), ("list", .empty)] }
    t.mountAll c (.single d) "lamps" = (.error (.invalidOperationKind "head"), t) :=
  rfl

end RouteTable

end SchemaRouting
