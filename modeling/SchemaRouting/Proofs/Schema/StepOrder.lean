import SchemaRouting.Proofs.Schema.Compiling

/-!
# The order of a route's steps

The steps of a compiled route are told part by part, each by what the schema, the route and the
compiler give it (`LaidOut`): the middlewares of the schema and of the route, the two validations,
the principal, the factory, and the handlers around the one that answers. Each part is one list of
steps and no other (`LaidOut.unique`), and the compiled steps are that list (`laidOut_steps`). All
steps that the compiler binds see the same settings (`BindFor`, `LaidOut.direct_or_seesOnly`). The
main statement is `compiled_steps_laidOut`.
-/

set_option autoImplicit false
set_option relaxedAutoImplicit false

namespace SchemaRouting

/-- The settings that a step is bound to, if it is bound to any. -/
def Step.bind? {σ : Type} : Step σ → Option (Bind σ)
  | .bound _ _ bind => some bind
  | .loadFactory bind => some bind
  | .default _ bind => some bind
  | _ => none

namespace Schema

variable {σ : Type}

/-! ### The parts of a layout -/

section Parts

variable (c : Compiler σ) (bind : Bind σ)

/-- A name is set and the registry has a handler for it. -/
def Resolves (name : Option String) (h : Handler σ) : Prop :=
  ∃ text, name = some text ∧ c.handlers.resolve? text = some h

/-- No name is set, or one that the registry has no handler for. -/
def Unresolved (name : Option String) : Prop :=
  ∀ text, name = some text → c.handlers.resolve? text = none

/-- The steps of a list of middlewares: those given directly as they are, the handlers of names
under the names without white space around them, and nothing for a name without a handler. -/
inductive MiddlewaresLaid : List (Middleware σ) → List (Step σ) → Prop
  | nil : MiddlewaresLaid [] []
  | direct (step : Step σ) {ms : List (Middleware σ)} {steps : List (Step σ)} :
    MiddlewaresLaid ms steps → MiddlewaresLaid (.step step :: ms) (step :: steps)
  | registered {name : String} {h : Handler σ} {ms : List (Middleware σ)} {steps : List (Step σ)} :
    c.handlers.resolve? name = some h → MiddlewaresLaid ms steps →
    MiddlewaresLaid (.named name :: ms) (.bound (Text.trim name) h bind :: steps)
  | unregistered {name : String} {ms : List (Middleware σ)} {steps : List (Step σ)} :
    c.handlers.resolve? name = none → MiddlewaresLaid ms steps →
    MiddlewaresLaid (.named name :: ms) steps

/-- The step of a validation, if one is set. -/
inductive CheckLaid (step : Validator → Step σ) : Option Validator → List (Step σ) → Prop
  | set (check : Validator) : CheckLaid step (some check) [step check]
  | unset : CheckLaid step none []

/-- The step of a handler, if its name resolves. -/
inductive HandlerLaid (label : String) (name : Option String) : List (Step σ) → Prop
  | bound {h : Handler σ} : Resolves c name h → HandlerLaid label name [.bound label h bind]
  | absent : Unresolved c name → HandlerLaid label name []

/-- The step that loads the factory: the handler of a name that resolves, or else the built-in one.
-/
inductive LoaderLaid (name : Option String) : Step σ → Prop
  | bound {h : Handler σ} : Resolves c name h → LoaderLaid name (.bound "load_factory" h bind)
  | builtIn : Unresolved c name → LoaderLaid name (.loadFactory bind)

/-- The step that answers: the handler of a name that resolves, or else the one that overrides the
operation, or else the built-in one. -/
inductive MainLaid (kind : OperationKind) (name : Option String) : Step σ → Prop
  | bound {h : Handler σ} : Resolves c name h → MainLaid kind name (.bound "handler" h bind)
  | overridden {h : Handler σ} : Unresolved c name → c.override? kind = some h →
    MainLaid kind name (.bound ("default_" ++ kind.name) h bind)
  | builtIn : Unresolved c name → c.override? kind = none → MainLaid kind name (.default kind bind)

/-- The steps of a route of a schema, in their order. -/
inductive LaidOut (d : Definition σ) (route : RouteDefinition σ) (kind : OperationKind) :
    List (Step σ) → Prop
  | steps {ofSchema ofRoute headers body after answered : List (Step σ)} {loader main : Step σ} :
    MiddlewaresLaid c bind d.middlewares ofSchema →
    MiddlewaresLaid c bind route.middlewares ofRoute →
    CheckLaid .validateHeaders route.headerValidation headers →
    CheckLaid .validateBody route.validation body →
    LoaderLaid c bind (match route.loadFactory with
      | some own => some own
      | none => d.loadFactory) loader →
    HandlerLaid c bind "post_validation" route.postValidation after →
    MainLaid c bind kind route.handler main →
    HandlerLaid c bind "post_handler" route.postHandler answered →
    LaidOut d route kind (ofSchema ++ ofRoute ++ headers ++ body ++
      [.loadPrincipal c.services.principals, loader] ++ after ++ [main] ++ answered)

/-- The settings that the steps of a route are bound to. -/
structure BindFor (schemaId : String) (d : Definition σ) (route : RouteDefinition σ) : Prop where
  id : bind.id = match route.id, d.id with
    | some own, _ => own
    | none, some id => id
    | none, none => schemaId
  factoryName : bind.factoryName = match route.useFactory with
    | some own => some own
    | none => d.useFactory
  factoryMethod : bind.factoryMethod = route.useFactoryMethod
  model : bind.model = d.model
  services : bind.services = c.services

end Parts

/-! ### Each part is one list of steps -/

section Unique

variable {c : Compiler σ} {bind : Bind σ} {name : Option String} {label : String}
  {kind : OperationKind} {h h' : Handler σ}

theorem Resolves.unique (hname : Resolves c name h) (hname' : Resolves c name h') : h = h' := by
  obtain ⟨text, rfl, hfound⟩ := hname
  obtain ⟨text', heq, hfound'⟩ := hname'
  cases heq
  exact Option.some.inj (hfound.symm.trans hfound')

theorem Resolves.not_unresolved (hname : Resolves c name h) : ¬ Unresolved c name := by
  intro hnone
  obtain ⟨text, rfl, hfound⟩ := hname
  rw [hnone text rfl] at hfound
  cases hfound

theorem MiddlewaresLaid.unique {ms : List (Middleware σ)} {steps steps' : List (Step σ)}
    (hlaid : MiddlewaresLaid c bind ms steps) (hlaid' : MiddlewaresLaid c bind ms steps') :
    steps = steps' := by
  induction hlaid generalizing steps' with
  | nil =>
    cases hlaid'
    rfl
  | direct step _ ih =>
    cases hlaid' with
    | direct _ hrest => rw [ih hrest]
  | registered hfound _ ih =>
    cases hlaid' with
    | registered hfound' hrest =>
      cases hfound.symm.trans hfound'
      rw [ih hrest]
    | unregistered hnone _ => cases hfound.symm.trans hnone
  | unregistered hnone _ ih =>
    cases hlaid' with
    | registered hfound _ => cases hnone.symm.trans hfound
    | unregistered _ hrest => exact ih hrest

theorem CheckLaid.unique {step : Validator → Step σ} {check : Option Validator}
    {steps steps' : List (Step σ)} (hlaid : CheckLaid step check steps)
    (hlaid' : CheckLaid step check steps') : steps = steps' := by
  cases hlaid <;> cases hlaid' <;> rfl

theorem HandlerLaid.unique {steps steps' : List (Step σ)}
    (hlaid : HandlerLaid c bind label name steps) (hlaid' : HandlerLaid c bind label name steps') :
    steps = steps' := by
  cases hlaid with
  | bound hname =>
    cases hlaid' with
    | bound hname' => rw [hname.unique hname']
    | absent hnone => exact absurd hnone hname.not_unresolved
  | absent hnone =>
    cases hlaid' with
    | bound hname => exact absurd hnone hname.not_unresolved
    | absent _ => rfl

theorem LoaderLaid.unique {step step' : Step σ} (hlaid : LoaderLaid c bind name step)
    (hlaid' : LoaderLaid c bind name step') : step = step' := by
  cases hlaid with
  | bound hname =>
    cases hlaid' with
    | bound hname' => rw [hname.unique hname']
    | builtIn hnone => exact absurd hnone hname.not_unresolved
  | builtIn hnone =>
    cases hlaid' with
    | bound hname => exact absurd hnone hname.not_unresolved
    | builtIn _ => rfl

theorem MainLaid.unique {step step' : Step σ} (hlaid : MainLaid c bind kind name step)
    (hlaid' : MainLaid c bind kind name step') : step = step' := by
  cases hlaid with
  | bound hname =>
    cases hlaid' with
    | bound hname' => rw [hname.unique hname']
    | overridden hnone _ => exact absurd hnone hname.not_unresolved
    | builtIn hnone _ => exact absurd hnone hname.not_unresolved
  | overridden hnone hset =>
    cases hlaid' with
    | bound hname => exact absurd hnone hname.not_unresolved
    | overridden _ hset' =>
      cases hset.symm.trans hset'
      rfl
    | builtIn _ hunset => cases hset.symm.trans hunset
  | builtIn hnone hunset =>
    cases hlaid' with
    | bound hname => exact absurd hnone hname.not_unresolved
    | overridden _ hset => cases hunset.symm.trans hset
    | builtIn _ _ => rfl

theorem LaidOut.unique {d : Definition σ} {route : RouteDefinition σ} {steps steps' : List (Step σ)}
    (hlaid : LaidOut c bind d route kind steps) (hlaid' : LaidOut c bind d route kind steps') :
    steps = steps' := by
  obtain ⟨hschema, hroute, hheaders, hbody, hloader, hafter, hmain, hanswered⟩ := hlaid
  obtain ⟨hschema', hroute', hheaders', hbody', hloader', hafter', hmain', hanswered'⟩ := hlaid'
  rw [hschema.unique hschema', hroute.unique hroute', hheaders.unique hheaders',
    hbody.unique hbody', hloader.unique hloader', hafter.unique hafter', hmain.unique hmain',
    hanswered.unique hanswered']

end Unique

/-! ### The compiled steps -/

namespace Compiler

variable (c : Compiler σ) (bind : Bind σ)

theorem resolve?_eq_some_iff {name : Option String} {h : Handler σ} :
    c.resolve? name = some h ↔ Resolves c name h := by
  rw [resolve?, Option.bind_eq_some_iff]
  rfl

theorem resolve?_eq_none_iff {name : Option String} :
    c.resolve? name = none ↔ Unresolved c name := by
  rw [resolve?, Option.bind_eq_none_iff]
  rfl

theorem middlewaresLaid_filterMap (ms : List (Middleware σ)) :
    MiddlewaresLaid c bind ms (ms.filterMap (c.middleware? bind)) := by
  induction ms with
  | nil => exact .nil
  | cons m rest ih =>
    cases m with
    | step s => exact .direct s ih
    | named name =>
      cases hname : c.handlers.resolve? name with
      | none =>
        rw [List.filterMap_cons_none (by rw [middleware?, hname]; rfl)]
        exact .unregistered hname ih
      | some h =>
        rw [List.filterMap_cons_some (by rw [middleware?, hname]; rfl)]
        exact .registered hname ih

theorem checkLaid_map (step : Validator → Step σ) (check : Option Validator) :
    CheckLaid step check (check.map step).toList := by
  cases check with
  | none => exact .unset
  | some check => exact .set check

theorem handlerLaid_namedStep (label : String) (name : Option String) :
    HandlerLaid c bind label name (c.namedStep bind label name).toList := by
  rw [namedStep]
  cases hname : c.resolve? name with
  | none => exact .absent (c.resolve?_eq_none_iff.mp hname)
  | some h => exact .bound (c.resolve?_eq_some_iff.mp hname)

theorem loaderLaid_loaderStep (name : Option String) :
    LoaderLaid c bind name (c.loaderStep bind name) := by
  rw [loaderStep, namedStep]
  cases hname : c.resolve? name with
  | none => exact .builtIn (c.resolve?_eq_none_iff.mp hname)
  | some h => exact .bound (c.resolve?_eq_some_iff.mp hname)

theorem mainLaid_mainStep (kind : OperationKind) (name : Option String) :
    MainLaid c bind kind name (c.mainStep bind kind name) := by
  rw [mainStep, namedStep]
  cases hname : c.resolve? name with
  | none =>
    have hnone := c.resolve?_eq_none_iff.mp hname
    rw [Option.map_none]
    cases hoverride : c.override? kind with
    | none => exact .builtIn hnone hoverride
    | some h => exact .overridden hnone hoverride
  | some h => exact .bound (c.resolve?_eq_some_iff.mp hname)

theorem laidOut_steps (s : Selection σ) :
    LaidOut c (c.bindOf s) s.schema s.route s.kind (c.steps s) := by
  have hname : s.loaderName = match s.route.loadFactory with
      | some own => some own
      | none => s.schema.loadFactory := by
    cases hown : s.route.loadFactory with
    | none => exact Selection.loaderName_of_none hown
    | some own => exact Selection.loaderName_of_some hown
  have hloader := c.loaderLaid_loaderStep (c.bindOf s) s.loaderName
  rw [hname] at hloader
  have hlaid := LaidOut.steps (c.middlewaresLaid_filterMap (c.bindOf s) s.schema.middlewares)
    (c.middlewaresLaid_filterMap (c.bindOf s) s.route.middlewares)
    (checkLaid_map .validateHeaders s.route.headerValidation)
    (checkLaid_map .validateBody s.route.validation) hloader
    (c.handlerLaid_namedStep (c.bindOf s) "post_validation" s.route.postValidation)
    (c.mainLaid_mainStep (c.bindOf s) s.kind s.route.handler)
    (c.handlerLaid_namedStep (c.bindOf s) "post_handler" s.route.postHandler)
  rw [← hname] at hlaid
  simpa only [steps, List.append_assoc, List.cons_append, List.nil_append] using hlaid

theorem bindFor_bindOf (s : Selection σ) :
    BindFor c (c.bindOf s) s.schemaId s.schema s.route where
  id := by
    rw [bindOf, Selection.id]
    cases s.route.id <;> cases s.schema.id <;> rfl
  factoryName := by
    rw [bindOf, Selection.factoryName]
    cases s.route.useFactory <;> rfl
  factoryMethod := rfl
  model := rfl
  services := rfl

end Compiler

/-! ### The settings that steps see -/

section Binds

variable {c : Compiler σ} {bind : Bind σ} {name : Option String} {label : String}
  {kind : OperationKind} {step : Step σ} {steps : List (Step σ)}

/-- A step that is bound to no settings but these. -/
def SeesOnly (bind : Bind σ) (step : Step σ) : Prop := ∀ b ∈ step.bind?, b = bind

theorem seesOnly_of_bind? (h : step.bind? = some bind) : SeesOnly bind step := by
  intro b hb
  rw [h] at hb
  exact (Option.mem_some_iff.mp hb).symm

theorem MiddlewaresLaid.direct_or_seesOnly {ms : List (Middleware σ)}
    (hlaid : MiddlewaresLaid c bind ms steps) (hstep : step ∈ steps) :
    .step step ∈ ms ∨ SeesOnly bind step := by
  induction hlaid with
  | nil => cases hstep
  | direct given _ ih =>
    rcases List.mem_cons.mp hstep with rfl | hstep
    · exact .inl List.mem_cons_self
    · exact (ih hstep).imp_left (List.mem_cons_of_mem _)
  | registered _ _ ih =>
    rcases List.mem_cons.mp hstep with rfl | hstep
    · exact .inr (seesOnly_of_bind? rfl)
    · exact (ih hstep).imp_left (List.mem_cons_of_mem _)
  | unregistered _ _ ih => exact (ih hstep).imp_left (List.mem_cons_of_mem _)

theorem CheckLaid.seesOnly {make : Validator → Step σ} {check : Option Validator}
    (hlaid : CheckLaid make check steps) (hmake : ∀ v, (make v).bind? = none)
    (hstep : step ∈ steps) : SeesOnly bind step := by
  cases hlaid with
  | set v =>
    rw [List.mem_singleton.mp hstep, SeesOnly, hmake]
    nofun
  | unset => cases hstep

theorem HandlerLaid.seesOnly (hlaid : HandlerLaid c bind label name steps)
    (hstep : step ∈ steps) : SeesOnly bind step := by
  cases hlaid with
  | bound _ =>
    rw [List.mem_singleton.mp hstep]
    exact seesOnly_of_bind? rfl
  | absent _ => cases hstep

theorem LoaderLaid.seesOnly (hlaid : LoaderLaid c bind name step) : SeesOnly bind step := by
  cases hlaid <;> exact seesOnly_of_bind? rfl

theorem MainLaid.seesOnly (hlaid : MainLaid c bind kind name step) : SeesOnly bind step := by
  cases hlaid <;> exact seesOnly_of_bind? rfl

/-- A step is a middleware given directly, or is bound to no settings but those of the route. -/
theorem LaidOut.direct_or_seesOnly {d : Definition σ} {route : RouteDefinition σ}
    (hlaid : LaidOut c bind d route kind steps) (hstep : step ∈ steps) :
    .step step ∈ d.middlewares ++ route.middlewares ∨ SeesOnly bind step := by
  obtain ⟨hschema, hroute, hheaders, hbody, hloader, hafter, hmain, hanswered⟩ := hlaid
  simp only [List.mem_append, List.mem_cons, List.not_mem_nil, or_false] at hstep ⊢
  rcases hstep with ((((((hstep | hstep) | hstep) | hstep) | (rfl | rfl)) | hstep) | rfl) | hstep
  · exact (hschema.direct_or_seesOnly hstep).imp_left .inl
  · exact (hroute.direct_or_seesOnly hstep).imp_left .inr
  · exact .inr (hheaders.seesOnly (fun _ ↦ rfl) hstep)
  · exact .inr (hbody.seesOnly (fun _ ↦ rfl) hstep)
  · exact .inr nofun
  · exact .inr hloader.seesOnly
  · exact .inr (hafter.seesOnly hstep)
  · exact .inr hmain.seesOnly
  · exact .inr (hanswered.seesOnly hstep)

end Binds

/-- Setting the handler that stands in for an operation sets that of no other. -/
theorem Compiler.override?_withDefaultHandler (c : Compiler σ) (kind other : OperationKind)
    (h : Handler σ) : (c.withDefaultHandler kind h).override? other =
      if other = kind then some h else c.override? other := by
  rw [override?, override?, withDefaultHandler, List.find?_append]
  by_cases heq : other = kind
  · subst heq
    -- What was set for the operation before is gone.
    have hgone : (c.overrides.filter (·.1 ≠ other)).find? (·.1 = other) = none := by
      simp [List.find?_eq_none]
    rw [hgone]
    simp
  · have hkept : (c.overrides.filter (·.1 ≠ kind)).find? (·.1 = other) =
        c.overrides.find? (·.1 = other) := by
      simp only [List.find?_filter]
      congr 1
      funext entry
      by_cases hentry : entry.1 = other <;> simp [hentry, heq]
    rw [hkept]
    simp [heq, Ne.symm heq]

/-- Assumes: a route that compiles. Its steps are those of its layout and no others: the schema's
middlewares and the route's, the validation of the header fields and that of the body where they are
set, the principal, the factory by the handler of the route's name, or else of the schema's, or else
built in, the handler after the validations where it resolves, the one that answers, which is the
route's, or else the one that overrides its kind, or else built in, and the handler after it where
it resolves. Every step that is not a middleware given directly is bound to the same settings, if
to any: the id of the route, or else of the schema, or else the schema id; the factory the route
names, or else the schema; the method the route names; and the schema's model. The handler that
overrides a kind is the one set last for it. -/
theorem compiled_steps_laidOut {c : Compiler σ} {source : Source σ} {schemaId routeId : String}
    {r : CompiledRoute σ} (h : c.compile source schemaId routeId = .ok r) :
    ∃ d entry, source.schema? schemaId = some d ∧ d.route? routeId = some entry ∧
      entry.definition.method.getD routeId = r.kind.name ∧
      BindFor c r.bind schemaId d entry.definition ∧
      (∀ steps, r.pipeline.steps = steps ↔
        LaidOut c r.bind d entry.definition r.kind steps) ∧
      (∀ step ∈ r.pipeline.steps, .step step ∈ d.middlewares ++ entry.definition.middlewares ∨
        ∀ b ∈ step.bind?, b = r.bind) ∧
      ∀ kind override other, (c.withDefaultHandler kind override).override? other =
        if other = kind then some override else c.override? other := by
  obtain ⟨d, entry, kind, hselects, rfl⟩ := Compiler.compile_eq_ok_iff.mp h
  have hlaid := c.laidOut_steps ⟨schemaId, routeId, d, entry.definition, kind⟩
  refine ⟨d, entry, hselects.found, hselects.route, hselects.operation, c.bindFor_bindOf _,
    fun steps ↦ ⟨?_, fun hsteps ↦ hlaid.unique hsteps⟩, fun step hstep ↦ ?_,
    fun kind override other ↦ c.override?_withDefaultHandler kind other override⟩
  · rintro rfl
    exact hlaid
  · exact hlaid.direct_or_seesOnly hstep

/-- A compiler that knows three handlers, and overrides one operation. -/
def stockedCompiler : Compiler Unit :=
  let log : HandlerRegistry.Node (Handler Unit) :=
    .group [("after", .handler .echo), ("before", .handler .echo)]
  let team : HandlerRegistry.Node (Handler Unit) := .group [("load", .handler .echo)]
  (Compiler.new ⟨[("log", log), ("team", team)]⟩ (.new Services.baseRegistry)).withDefaultHandler
    .get .echo

/-- A route that names two handlers that are not known. -/
def stampedGet : RouteDefinition Unit :=
  { (RouteSettings.empty : RouteDefinition Unit) with
    id := some "lamp"
    headerValidation := some fun _ v ↦ .ok v
    handler := some "gone.get"
    postHandler := some "log.after"
    middlewares := [.named "gone.trace", .step (.direct "stamp" fun x ↦ (.proceed, x))] }

/-- A schema with that route, a loader and a middleware. -/
def stampedLamps : Definition Unit :=
  { (Settings.empty : Definition Unit) with
    useFactory := some "lamps"
    loadFactory := some "team.load"
    routes := [("get", .route stampedGet)]
    middlewares := [.named " log.before "] }

theorem stampedLamps_in_order :
    ∃ r, stockedCompiler.compile (.single stampedLamps) "lamps" "get" = .ok r ∧
      LaidOut stockedCompiler r.bind stampedLamps stampedGet r.kind r.pipeline.steps ∧
      r.pipeline.stepNames = ["log.before", "stamp", "validate_headers", "load_principal",
        "load_factory", "default_get", "post_handler"] ∧
      r.bind.id = "lamp" ∧ r.bind.factoryName = some "lamps" := by
  have hcompile : stockedCompiler.compile (.single stampedLamps) "lamps" "get" =
      .ok (stockedCompiler.assemble ⟨"lamps", "get", stampedLamps, stampedGet, .get⟩) := rfl
  obtain ⟨d, entry, hfound, hroute, -, hbind, hsteps, -⟩ := compiled_steps_laidOut hcompile
  cases hfound
  cases hroute
  exact ⟨_, hcompile, (hsteps _).mp rfl, rfl, hbind.id, hbind.factoryName⟩

end Schema

end SchemaRouting
