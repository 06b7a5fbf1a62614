import SchemaRouting.Proofs.Keyed
import SchemaRouting.Proofs.Schema.Layout
import SchemaRouting.Proofs.Schema.Shape

/-!
# Which routes compile

A route compiles exactly if its schema is found and well shaped, has the route, and the route names
one of the six operations (`Selects`); otherwise it is refused for the first of the four that fails
(`Refused`). Both say nothing of the compiler, so what handlers and services it knows has no part in
whether a route compiles, nor in its pattern, its method and its kind
(`compiles_iff_selects_else_refused`).
-/

set_option autoImplicit false
set_option relaxedAutoImplicit false

namespace SchemaRouting

/-! ### Names of operations -/

theorem OperationKind.ofName?_eq_some_iff {name : String} {kind : OperationKind} :
    ofName? name = some kind ↔ name = kind.name := by
  constructor
  · intro h
    have hname := List.find?_some h
    exact (of_decide_eq_true hname).symm
  · rintro rfl
    cases kind <;> rfl

theorem OperationKind.ofName?_eq_none_iff {name : String} :
    ofName? name = none ↔ ∀ kind : OperationKind, name ≠ kind.name := by
  constructor
  · rintro h kind rfl
    rw [ofName?_eq_some_iff.mpr rfl] at h
    cases h
  · intro h
    cases hname : ofName? name with
    | none => rfl
    | some kind => exact absurd (ofName?_eq_some_iff.mp hname) (h kind)

namespace Schema

open Shape (WellShaped EntryShaped IsName)

variable {σ : Type} {source : Source σ} {schemaId routeId : String} {s : Selection σ}
  {e : CompileError}

/-! ### Selecting a route -/

/-- A schema is found and well shaped, it has a route, and the route names an operation: by its
method, or else by its id. -/
structure Selects (source : Source σ) (schemaId routeId : String) (d : Definition σ)
    (entry : EntryDefinition σ) (kind : OperationKind) : Prop where
  found : source.schema? schemaId = some d
  wellShaped : WellShaped d
  route : d.route? routeId = some entry
  operation : entry.definition.method.getD routeId = kind.name

/-- Why a route is not selected: the first of the four that does not hold. -/
inductive Refused (source : Source σ) (schemaId routeId : String) : CompileError → Prop
  | unknownSchema : source.schema? schemaId = none →
    Refused source schemaId routeId (.unknownSchema schemaId)
  | invalidSchema {d : Definition σ} {field reason : String} :
    source.schema? schemaId = some d → ¬ WellShaped d →
    Shape.check d = .error (.invalidSchema field reason) →
    Refused source schemaId routeId (.invalidSchema field reason)
  | unknownRoute {d : Definition σ} : source.schema? schemaId = some d → WellShaped d →
    d.route? routeId = none → Refused source schemaId routeId (.unknownRoute schemaId routeId)
  | invalidOperation {d : Definition σ} {entry : EntryDefinition σ} :
    source.schema? schemaId = some d → WellShaped d → d.route? routeId = some entry →
    (∀ kind : OperationKind, entry.definition.method.getD routeId ≠ kind.name) →
    Refused source schemaId routeId (.invalidOperationKind (entry.definition.method.getD routeId))

theorem Selects.select_eq {d : Definition σ} {entry : EntryDefinition σ} {kind : OperationKind}
    (h : Selects source schemaId routeId d entry kind) :
    select source schemaId routeId = .ok ⟨schemaId, routeId, d, entry.definition, kind⟩ := by
  have hkind : OperationKind.ofName? (Selection.operationName entry.definition routeId) =
      some kind := OperationKind.ofName?_eq_some_iff.mpr h.operation
  rw [Schema.select_eq h.found (Shape.check_eq_ok_iff.mpr h.wellShaped), h.route]
  dsimp only
  rw [hkind]

theorem Refused.select_eq (h : Refused source schemaId routeId e) :
    select source schemaId routeId = .error e := by
  cases h with
  | unknownSchema hnone =>
    rw [select, findSchema, hnone]
    rfl
  | invalidSchema hfound _ hcheck =>
    rw [select, findSchema, hfound]
    change (do Shape.check _; _) = _
    rw [hcheck]
    rfl
  | unknownRoute hfound hshaped hroute =>
    rw [Schema.select_eq hfound (Shape.check_eq_ok_iff.mpr hshaped), hroute]
  | @invalidOperation d entry hfound hshaped hroute hkind =>
    have hnone : OperationKind.ofName? (Selection.operationName entry.definition routeId) = none :=
      OperationKind.ofName?_eq_none_iff.mpr hkind
    rw [Schema.select_eq hfound (Shape.check_eq_ok_iff.mpr hshaped), hroute]
    dsimp only
    rw [hnone]
    rfl

theorem selects_or_refused (source : Source σ) (schemaId routeId : String) :
    (∃ d entry kind, Selects source schemaId routeId d entry kind) ∨
      ∃ e, Refused source schemaId routeId e := by
  cases hfound : source.schema? schemaId with
  | none => exact .inr ⟨_, .unknownSchema hfound⟩
  | some d =>
    by_cases hshaped : WellShaped d
    · cases hroute : d.route? routeId with
      | none => exact .inr ⟨_, .unknownRoute hfound hshaped hroute⟩
      | some entry =>
        by_cases hkind : ∃ kind : OperationKind,
            entry.definition.method.getD routeId = kind.name
        · obtain ⟨kind, hkind⟩ := hkind
          exact .inl ⟨d, entry, kind, hfound, hshaped, hroute, hkind⟩
        · exact .inr ⟨_, .invalidOperation hfound hshaped hroute (not_exists.mp hkind)⟩
    · obtain ⟨field, reason, hcheck⟩ := Shape.exists_check_eq_invalidSchema hshaped
      exact .inr ⟨_, .invalidSchema hfound hshaped hcheck⟩

theorem select_eq_ok_iff : select source schemaId routeId = .ok s ↔
    ∃ d entry kind, Selects source schemaId routeId d entry kind ∧
      s = ⟨schemaId, routeId, d, entry.definition, kind⟩ := by
  constructor
  · intro h
    rcases selects_or_refused source schemaId routeId with
      ⟨d, entry, kind, hselects⟩ | ⟨e, hrefused⟩
    · rw [hselects.select_eq] at h
      exact ⟨d, entry, kind, hselects, (Except.ok.inj h).symm⟩
    · rw [hrefused.select_eq] at h
      cases h
  · rintro ⟨d, entry, kind, hselects, rfl⟩
    exact hselects.select_eq

theorem select_eq_error_iff :
    select source schemaId routeId = .error e ↔ Refused source schemaId routeId e := by
  constructor
  · intro h
    rcases selects_or_refused source schemaId routeId with
      ⟨d, entry, kind, hselects⟩ | ⟨e, hrefused⟩
    · rw [hselects.select_eq] at h
      cases h
    · rw [hrefused.select_eq] at h
      cases h
      exact hrefused
  · exact Refused.select_eq

/-! ### Compiling it -/

namespace Compiler

variable {c : Compiler σ} {r : CompiledRoute σ}

/-! What is told of a compiled route without its steps comes from the selection alone. -/

theorem assemble_kind (c : Compiler σ) (s : Selection σ) : (c.assemble s).kind = s.kind := rfl

theorem assemble_method (c : Compiler σ) (s : Selection σ) :
    (c.assemble s).method = s.kind.method := rfl

theorem assemble_pattern (c : Compiler σ) (s : Selection σ) :
    (c.assemble s).pattern = ⟨s.path⟩ := rfl

theorem compile_eq_ok_iff : c.compile source schemaId routeId = .ok r ↔
    ∃ d entry kind, Selects source schemaId routeId d entry kind ∧
      c.assemble ⟨schemaId, routeId, d, entry.definition, kind⟩ = r := by
  rw [compile, map_eq_ok_iff]
  constructor
  · rintro ⟨s, hselect, hassemble⟩
    obtain ⟨d, entry, kind, hselects, rfl⟩ := select_eq_ok_iff.mp hselect
    exact ⟨d, entry, kind, hselects, hassemble⟩
  · rintro ⟨d, entry, kind, hselects, hassemble⟩
    exact ⟨_, hselects.select_eq, hassemble⟩

theorem compile_eq_error_iff : c.compile source schemaId routeId = .error e ↔
    Refused source schemaId routeId e := by
  rw [compile, map_eq_error_iff, select_eq_error_iff]

/-- A route whose schema has a fault anywhere is refused for that, whichever route it is. -/
theorem compile_of_not_wellShaped {d : Definition σ} (hfound : source.schema? schemaId = some d)
    (hfault : ¬ WellShaped d) (routeId : String) :
    ∃ field reason, c.compile source schemaId routeId = .error (.invalidSchema field reason) := by
  obtain ⟨field, reason, hcheck⟩ := Shape.exists_check_eq_invalidSchema hfault
  exact ⟨field, reason, compile_eq_error_iff.mpr (.invalidSchema hfound hfault hcheck)⟩

theorem operation_ne_of_unmapped {name : String} (h : name = "option" ∨ name = "head")
    (kind : OperationKind) : name ≠ kind.name := by
  rcases h with rfl | rfl <;> cases kind <;> decide

/-- Two methods are allowed in a schema of which no operation is known. -/
theorem compile_of_unmapped {d : Definition σ} {entry : EntryDefinition σ} {name : String}
    (hfound : source.schema? schemaId = some d) (hshaped : WellShaped d)
    (hroute : d.route? routeId = some entry) (hmethod : entry.definition.method = some name)
    (hname : name = "option" ∨ name = "head") :
    c.compile source schemaId routeId = .error (.invalidOperationKind name) := by
  have heffective : entry.definition.method.getD routeId = name := by
    rw [hmethod]
    rfl
  have hrefused : Refused source schemaId routeId
      (.invalidOperationKind (entry.definition.method.getD routeId)) := by
    refine .invalidOperation hfound hshaped hroute ?_
    rw [heffective]
    exact operation_ne_of_unmapped hname
  rw [heffective] at hrefused
  exact compile_eq_error_iff.mpr hrefused

/-- Of another compiler a route gets the same pattern, method and kind. -/
theorem compile_congr (hr : c.compile source schemaId routeId = .ok r) (other : Compiler σ) :
    ∃ r', other.compile source schemaId routeId = .ok r' ∧ r'.pattern = r.pattern ∧
      r'.method = r.method ∧ r'.kind = r.kind := by
  obtain ⟨d, entry, kind, hselects, rfl⟩ := compile_eq_ok_iff.mp hr
  refine ⟨_, compile_eq_ok_iff.mpr ⟨d, entry, kind, hselects, rfl⟩, ?_, ?_, ?_⟩
  · rw [assemble_pattern, assemble_pattern]
  · rw [assemble_method, assemble_method]
  · rw [assemble_kind, assemble_kind]

end Compiler

/-- The shape of a schema lets no route set the method of the operation that modifies. -/
theorem Selects.method_of_patch {d : Definition σ} {entry : EntryDefinition σ}
    (h : Selects source schemaId routeId d entry .patch) :
    entry.definition.method = none ∧ routeId = "patch" := by
  have hoperation := h.operation
  cases hmethod : entry.definition.method with
  | none =>
    rw [hmethod] at hoperation
    exact ⟨rfl, hoperation⟩
  | some name =>
    rw [hmethod] at hoperation
    have hpatch : name = "patch" := hoperation
    obtain ⟨-, hentry⟩ := h.wellShaped.routes routeId entry (Keyed.mem_of_find? h.route)
    cases hentry with
    | route hroute =>
      have hallowed := hroute.method name hmethod
      rw [hpatch] at hallowed
      exact absurd hallowed (by decide)
    | @path s _ =>
      rw [Entry.definition] at hmethod
      split at hmethod <;> cases hmethod
    | empty => cases hmethod

/-- A route compiles exactly if its schema is found and well shaped, has the route, and the route
names one of the six operations by its method, or by its id if it sets none. It has the kind it
names, the request method of that kind, and the path of the schema and the route. It is refused
for the first of these that fails: as an unknown schema, an invalid schema, an unknown route, or an
invalid operation. So a fault in any route or middleware refuses every route of the schema; a
well-shaped route that sets the method `option` or `head` is an invalid operation; only the route
with the id `patch` and no method is of that kind; and another compiler, with whatever handlers,
services and overrides, compiles the same routes to the same pattern, method and kind, and refuses
the others for the same reason. -/
theorem compiles_iff_selects_else_refused (c : Compiler σ) (source : Source σ)
    (schemaId routeId : String) :
    ((∃ r, c.compile source schemaId routeId = .ok r) ↔
      ∃ d entry kind, Selects source schemaId routeId d entry kind) ∧
    (∀ r, c.compile source schemaId routeId = .ok r → ∃ d entry,
      Selects source schemaId routeId d entry r.kind ∧ r.method = r.kind.method ∧
      r.pattern = ⟨Path.join (d.path.getD "") (entry.definition.path.getD "")⟩) ∧
    (∀ e, c.compile source schemaId routeId = .error e ↔ Refused source schemaId routeId e) ∧
    (∀ d, source.schema? schemaId = some d →
      ((∃ id entry, (id, entry) ∈ d.routes ∧
          (Shape.isIdentifier id = false ∨ ¬ EntryShaped entry)) ∨
        ∃ name, .named name ∈ d.middlewares ∧ ¬ IsName name) →
      ∀ routeId, ∃ field reason,
        c.compile source schemaId routeId = .error (.invalidSchema field reason)) ∧
    (∀ d entry name, source.schema? schemaId = some d → WellShaped d →
      d.route? routeId = some entry → entry.definition.method = some name →
      name = "option" ∨ name = "head" →
      c.compile source schemaId routeId = .error (.invalidOperationKind name)) ∧
    (∀ r, c.compile source schemaId routeId = .ok r → r.kind = .patch → routeId = "patch" ∧
      ∃ d entry, source.schema? schemaId = some d ∧ d.route? routeId = some entry ∧
        entry.definition.method = none) ∧
    ∀ other : Compiler σ,
      (∀ r, c.compile source schemaId routeId = .ok r → ∃ r',
        other.compile source schemaId routeId = .ok r' ∧ r'.pattern = r.pattern ∧
        r'.method = r.method ∧ r'.kind = r.kind) ∧
      ∀ e, c.compile source schemaId routeId = .error e →
        other.compile source schemaId routeId = .error e := by
  refine ⟨⟨?_, ?_⟩, fun r hr ↦ ?_, fun e ↦ Compiler.compile_eq_error_iff, fun d hfound hfault ↦ ?_,
    fun d entry name hfound hshaped hroute hmethod hname ↦ ?_, fun r hr hpatch ↦ ?_,
    fun other ↦ ⟨fun r hr ↦ ?_, fun e he ↦ ?_⟩⟩
  · rintro ⟨r, hr⟩
    obtain ⟨d, entry, kind, hselects, -⟩ := Compiler.compile_eq_ok_iff.mp hr
    exact ⟨d, entry, kind, hselects⟩
  · rintro ⟨d, entry, kind, hselects⟩
    exact ⟨_, Compiler.compile_eq_ok_iff.mpr ⟨d, entry, kind, hselects, rfl⟩⟩
  · obtain ⟨d, entry, kind, hselects, rfl⟩ := Compiler.compile_eq_ok_iff.mp hr
    exact ⟨d, entry, hselects, rfl, rfl⟩
  · refine Compiler.compile_of_not_wellShaped hfound fun hshaped ↦ ?_
    rcases hfault with ⟨id, entry, hmem, hid | hentry⟩ | ⟨name, hmem, hname⟩
    · exact absurd (hshaped.routes id entry hmem).1 (by simp [hid])
    · exact hentry (hshaped.routes id entry hmem).2
    · exact hname (hshaped.middlewares name hmem)
  · exact Compiler.compile_of_unmapped hfound hshaped hroute hmethod hname
  · obtain ⟨d, entry, kind, hselects, rfl⟩ := Compiler.compile_eq_ok_iff.mp hr
    have hkind : kind = .patch := hpatch
    subst hkind
    obtain ⟨hmethod, hid⟩ := hselects.method_of_patch
    exact ⟨hid, d, entry, hselects.found, hselects.route, hmethod⟩
  · exact Compiler.compile_congr hr other
  · exact Compiler.compile_eq_error_iff.mpr (Compiler.compile_eq_error_iff.mp he)

/-- A route may set the method `head`, as far as the shape of its schema goes, but no operation is
of that name; one with the id `patch` needs no method. -/
example (c : Compiler Unit) :
    let d : Definition Unit := { (Settings.empty : Definition Unit) with
      path := some "/lamps"
      routes := [("get", .route { (RouteSettings.empty : RouteDefinition Unit) with
        method := some "head" }), ("patch", .empty)] }
    c.compile (.single d) "lamps" "get" = .error (.invalidOperationKind "head") ∧
      ((c.compile (.single d) "lamps" "patch").map (·.kind)) = .ok .patch :=
  ⟨rfl, rfl⟩

end Schema

end SchemaRouting
