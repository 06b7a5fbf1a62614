import SchemaRouting.Schema.Compile

/-!
# How the steps of a route are laid out

The steps of a selected route in four parts: the middlewares of the schema and of the route, the
validations, the step that loads the factory with the one for the principal before it, and what
follows (`steps_eq`). Selecting a route of a well-shaped schema comes down to looking up the route
and its operation (`select_eq`).
-/

set_option autoImplicit false
set_option relaxedAutoImplicit false

namespace SchemaRouting.Schema

variable {σ : Type}

namespace Compiler

/-- The steps of the middlewares that are given directly or registered, the schema's first. -/
def middlewareSteps (c : Compiler σ) (s : Selection σ) : List (Step σ) :=
  s.schema.middlewares.filterMap (c.middleware? (c.bindOf s)) ++
    s.route.middlewares.filterMap (c.middleware? (c.bindOf s))

end Compiler

/-- The validations that a route asks for, of its header fields and then of its body. -/
def Selection.validationSteps (s : Selection σ) : List (Step σ) :=
  (s.route.headerValidation.map Step.validateHeaders).toList ++
    (s.route.validation.map Step.validateBody).toList

theorem Selection.loaderName_of_some {s : Selection σ} {name : String}
    (h : s.route.loadFactory = some name) : s.loaderName = some name := by
  rw [Selection.loaderName, h]
  rfl

theorem Selection.loaderName_of_none {s : Selection σ} (h : s.route.loadFactory = none) :
    s.loaderName = s.schema.loadFactory := by
  rw [Selection.loaderName, h]
  rfl

namespace Compiler

/-- All steps before the one that loads the factory. -/
def stepsBeforeLoader (c : Compiler σ) (s : Selection σ) : List (Step σ) :=
  c.middlewareSteps s ++ s.validationSteps ++ [.loadPrincipal c.services.principals]

/-- All steps after the one that loads the factory. -/
def stepsAfterLoader (c : Compiler σ) (s : Selection σ) : List (Step σ) :=
  (c.namedStep (c.bindOf s) "post_validation" s.route.postValidation).toList ++
    c.mainStep (c.bindOf s) s.kind s.route.handler ::
      (c.namedStep (c.bindOf s) "post_handler" s.route.postHandler).toList

/-! Where a name resolves to no handler, there is no step for it, or the built-in one. -/

section Unresolved

variable {c : Compiler σ} {name : Option String}

theorem namedStep_of_none (h : c.resolve? name = none) (bind : Bind σ) (step : String) :
    c.namedStep bind step name = none := by
  rw [namedStep, h, Option.map_none]

theorem loaderStep_of_none (h : c.resolve? name = none) (bind : Bind σ) :
    c.loaderStep bind name = .loadFactory bind := by
  rw [loaderStep, namedStep_of_none h, Option.getD_none]

theorem mainStep_of_none {kind : OperationKind} (h : c.resolve? name = none)
    (hoverride : c.override? kind = none) (bind : Bind σ) :
    c.mainStep bind kind name = .default kind bind := by
  rw [mainStep, namedStep_of_none h, hoverride]

end Unresolved

theorem steps_eq (c : Compiler σ) (s : Selection σ) :
    c.steps s = c.stepsBeforeLoader s ++
      c.loaderStep (c.bindOf s) s.loaderName :: c.stepsAfterLoader s := by
  simp only [steps, stepsBeforeLoader, stepsAfterLoader, middlewareSteps, Selection.validationSteps,
    List.append_assoc, List.cons_append, List.nil_append]

end Compiler

/-- Assumes: a well-shaped schema. A route is selected from it if it has the route and the route
names an operation. -/
theorem select_eq {source : Source σ} {schemaId : String} {d : Definition σ}
    (hd : source.schema? schemaId = some d) (hshape : Shape.check d = .ok ()) (routeId : String) :
    select source schemaId routeId =
      match d.route? routeId with
      | none => .error (.unknownRoute schemaId routeId)
      | some entry =>
        match OperationKind.ofName? (Selection.operationName entry.definition routeId) with
        | none => .error (.invalidOperationKind (Selection.operationName entry.definition routeId))
        | some kind => .ok ⟨schemaId, routeId, d, entry.definition, kind⟩ := by
  have hfind : findSchema source schemaId = .ok d := by rw [findSchema, hd]
  rw [select, hfind]
  change (do Shape.check d; _) = _
  rw [hshape]
  cases d.route? routeId with
  | none => rfl
  | some entry =>
    dsimp only
    cases OperationKind.ofName? (Selection.operationName entry.definition routeId) <;> rfl

end SchemaRouting.Schema
