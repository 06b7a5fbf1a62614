import Mathlib.Data.List.Forall2
import SchemaRouting.Proofs.Keyed
import SchemaRouting.Proofs.Schema.Layout
import SchemaRouting.Proofs.Schema.Shape

/-!
# Names that are not registered

A handler's name that the registry does not know leaves no trace in a compiled route: dropping
any such names from a schema, from its routes and from the lists of middlewares (`SchemaDropped`)
leaves the schema well shaped (`check_dropped`) and the route with the same pattern, method,
settings and steps. There is one exception. A route's loader stands before the schema's, and it is
chosen before it is looked up. A route that names a loader that is not registered is given the
built-in one, although the schema names one that is; without that name it is given the schema's
(`UncoversLoader`). Exactly then the steps change, and by the loader alone
(`compile_dropped_names`).
-/

set_option autoImplicit false
set_option relaxedAutoImplicit false

namespace SchemaRouting.Schema

variable {σ : Type}

/-! ### Dropping names -/

/-- A name that stays as it is, or one that is not registered and goes. -/
inductive NameDropped (c : Compiler σ) : Option String → Option String → Prop
  | kept (name : Option String) : NameDropped c name name
  | dropped {name : String} : c.handlers.resolve? name = none → NameDropped c (some name) none

/-- Middlewares of which some go, each a name that is not registered. -/
inductive MiddlewaresDropped (c : Compiler σ) : List (Middleware σ) → List (Middleware σ) → Prop
  | nil : MiddlewaresDropped c [] []
  | kept (m : Middleware σ) {ms ms' : List (Middleware σ)} :
    MiddlewaresDropped c ms ms' → MiddlewaresDropped c (m :: ms) (m :: ms')
  | dropped {name : String} {ms ms' : List (Middleware σ)} :
    c.handlers.resolve? name = none → MiddlewaresDropped c ms ms' →
      MiddlewaresDropped c (.named name :: ms) ms'

/-- A route from which some names go that are not registered. -/
structure RouteDropped (c : Compiler σ) (r r' : RouteDefinition σ) : Prop where
  id : r'.id = r.id
  method : r'.method = r.method
  path : r'.path = r.path
  headerValidation : r'.headerValidation = r.headerValidation
  validation : r'.validation = r.validation
  useFactory : r'.useFactory = r.useFactory
  useFactoryMethod : r'.useFactoryMethod = r.useFactoryMethod
  postValidation : NameDropped c r.postValidation r'.postValidation
  loadFactory : NameDropped c r.loadFactory r'.loadFactory
  handler : NameDropped c r.handler r'.handler
  postHandler : NameDropped c r.postHandler r'.postHandler
  middlewares : MiddlewaresDropped c r.middlewares r'.middlewares

/-- Only a route that is written as settings has names to drop. -/
inductive EntryDropped (c : Compiler σ) : EntryDefinition σ → EntryDefinition σ → Prop
  | route {r r' : RouteDefinition σ} : RouteDropped c r r' → EntryDropped c (.route r) (.route r')
  | path (s : String) : EntryDropped c (.path s) (.path s)
  | empty : EntryDropped c .empty .empty

/-- A schema from which some names go that are not registered, its own or those of its routes. -/
structure SchemaDropped (c : Compiler σ) (d d' : Definition σ) : Prop where
  id : d'.id = d.id
  model : d'.model = d.model
  useFactory : d'.useFactory = d.useFactory
  path : d'.path = d.path
  loadFactory : NameDropped c d.loadFactory d'.loadFactory
  routes : List.Forall₂ (fun e e' ↦ e'.1 = e.1 ∧ EntryDropped c e.2 e'.2) d.routes d'.routes
  middlewares : MiddlewaresDropped c d.middlewares d'.middlewares

section Dropping

variable {c : Compiler σ}

theorem MiddlewaresDropped.refl (ms : List (Middleware σ)) : MiddlewaresDropped c ms ms := by
  induction ms with
  | nil => exact .nil
  | cons m rest ih => exact .kept m ih

theorem RouteDropped.refl (r : RouteDefinition σ) : RouteDropped c r r :=
  ⟨rfl, rfl, rfl, rfl, rfl, rfl, rfl, .kept _, .kept _, .kept _, .kept _, .refl _⟩

theorem NameDropped.resolve? {name name' : Option String} (h : NameDropped c name name') :
    c.resolve? name' = c.resolve? name := by
  cases h with
  | kept => rfl
  | dropped hname =>
    rw [Compiler.resolve?, Compiler.resolve?, Option.bind_none, Option.bind_some, hname]

theorem MiddlewaresDropped.steps (bind : Bind σ) {ms ms' : List (Middleware σ)}
    (h : MiddlewaresDropped c ms ms') :
    ms'.filterMap (c.middleware? bind) = ms.filterMap (c.middleware? bind) := by
  induction h with
  | nil => rfl
  | kept m _ ih => rw [List.filterMap_cons, List.filterMap_cons, ih]
  | dropped hname _ ih =>
    rw [List.filterMap_cons_none (by rw [Compiler.middleware?, hname]; rfl), ih]

theorem EntryDropped.definition {e e' : EntryDefinition σ} (h : EntryDropped c e e') :
    RouteDropped c e.definition e'.definition := by
  cases h with
  | route hroute => exact hroute
  | path s => exact .refl _
  | empty => exact .refl _

/-- The entries of a route in a schema and in one with names dropped. -/
theorem SchemaDropped.route? {d d' : Definition σ} (h : SchemaDropped c d d') (routeId : String) :
    (d.route? routeId = none ∧ d'.route? routeId = none) ∨
      ∃ e e', d.route? routeId = some e ∧ d'.route? routeId = some e' ∧ EntryDropped c e e' := by
  have hroutes : Keyed.Alongside (EntryDropped c) d.routes d'.routes := h.routes
  have hentry := hroutes.find? routeId
  unfold Settings.route?
  generalize Keyed.find? routeId d.routes = e, Keyed.find? routeId d'.routes = e' at hentry
  cases hentry with
  | none => exact .inl ⟨rfl, rfl⟩
  | some hdropped => exact .inr ⟨_, _, rfl, rfl, hdropped⟩

end Dropping

/-! ### The shape of a schema with names dropped -/

namespace Shape

variable {c : Compiler σ}

theorem checkOptional_dropped {name name' : Option String} (h : NameDropped c name name')
    {check : String → Check} (hname : checkOptional check name = .ok ()) :
    checkOptional check name' = .ok () := by
  cases h with
  | kept => exact hname
  | dropped => rfl

theorem checkMiddlewares_dropped {ms ms' : List (Middleware σ)} (h : MiddlewaresDropped c ms ms')
    {field : String} {index : Nat} (hms : checkMiddlewares field index ms = .ok ()) :
    checkMiddlewares field index ms' = .ok () := by
  rw [checkMiddlewares_eq_ok_iff] at hms ⊢
  intro name hname
  refine hms name ?_
  induction h with
  | nil => exact hname
  | kept m _ ih =>
    rcases List.mem_cons.mp hname with heq | hrest
    · exact heq ▸ List.mem_cons_self
    · exact List.mem_cons_of_mem m
        (ih (fun other hother ↦ hms other (List.mem_cons_of_mem m hother)) hrest)
  | dropped _ _ ih =>
    exact List.mem_cons_of_mem _
      (ih (fun other hother ↦ hms other (List.mem_cons_of_mem _ hother)) hname)

theorem checkRoute_dropped {r r' : RouteDefinition σ} (h : RouteDropped c r r') {field : String}
    (hr : checkRoute field r = .ok ()) : checkRoute field r' = .ok () := by
  simp only [checkRoute, then_eq_ok_iff] at hr ⊢
  rw [h.id, h.method, h.path, h.useFactory, h.useFactoryMethod]
  obtain ⟨hid, hmethod, hpath, hpost, hload, hhandler, hafter, hfactory, hcall, hms⟩ := hr
  exact ⟨hid, hmethod, hpath, checkOptional_dropped h.postValidation hpost,
    checkOptional_dropped h.loadFactory hload, checkOptional_dropped h.handler hhandler,
    checkOptional_dropped h.postHandler hafter, hfactory, hcall,
    checkMiddlewares_dropped h.middlewares hms⟩

theorem checkEntry_dropped {e e' : EntryDefinition σ} (h : EntryDropped c e e') {field : String}
    (he : checkEntry field e = .ok ()) : checkEntry field e' = .ok () := by
  cases h with
  | route hroute => exact checkRoute_dropped hroute he
  | path s => exact he
  | empty => exact he

theorem checkRoutes_dropped {routes routes' : List (String × EntryDefinition σ)}
    (h : List.Forall₂ (fun e e' ↦ e'.1 = e.1 ∧ EntryDropped c e.2 e'.2) routes routes')
    (hroutes : checkRoutes routes = .ok ()) : checkRoutes routes' = .ok () := by
  induction h with
  | nil => exact hroutes
  | @cons entry entry' rest rest' hentry _ ih =>
    obtain ⟨key, e⟩ := entry
    obtain ⟨key', e'⟩ := entry'
    obtain ⟨rfl, hdropped⟩ := hentry
    simp only [checkRoutes, then_eq_ok_iff] at hroutes ⊢
    obtain ⟨hkey, he, hrest⟩ := hroutes
    exact ⟨hkey, checkEntry_dropped hdropped he, ih hrest⟩

/-- A well-shaped schema stays so when names go. -/
theorem check_dropped {d d' : Definition σ} (h : SchemaDropped c d d') (hd : check d = .ok ()) :
    check d' = .ok () := by
  simp only [check, then_eq_ok_iff] at hd ⊢
  rw [h.id, h.path, h.useFactory]
  obtain ⟨hid, hpath, hfactory, hload, hms, hroutes⟩ := hd
  exact ⟨hid, hpath, hfactory, checkOptional_dropped h.loadFactory hload,
    checkMiddlewares_dropped h.middlewares hms, checkRoutes_dropped h.routes hroutes⟩

end Shape

/-! ### The steps of a route with names dropped -/

/-- A route's loader goes from before one of the schema that is registered. -/
def UncoversLoader (c : Compiler σ) (d : Definition σ) (r r' : RouteDefinition σ) : Prop :=
  r.loadFactory.isSome = true ∧ r'.loadFactory = none ∧ (c.resolve? d.loadFactory).isSome = true

/-- One route, selected from a schema and from the schema with names dropped. -/
structure SelectionDropped (c : Compiler σ) (s s' : Selection σ) : Prop where
  schemaId : s'.schemaId = s.schemaId
  routeId : s'.routeId = s.routeId
  kind : s'.kind = s.kind
  schema : SchemaDropped c s.schema s'.schema
  route : RouteDropped c s.route s'.route

section Selections

variable {c : Compiler σ} {s s' : Selection σ}

theorem SelectionDropped.path (h : SelectionDropped c s s') : s'.path = s.path := by
  rw [Selection.path, Selection.path, h.schema.path, h.route.path]

theorem SelectionDropped.bind (h : SelectionDropped c s s') : c.bindOf s' = c.bindOf s := by
  have hid : s'.id = s.id := by
    rw [Selection.id, Selection.id, h.schema.id, h.route.id, h.schemaId]
  have hfactory : s'.factoryName = s.factoryName := by
    rw [Selection.factoryName, Selection.factoryName, h.schema.useFactory, h.route.useFactory]
  rw [Compiler.bindOf, Compiler.bindOf, hid, hfactory, h.schema.model, h.route.useFactoryMethod]

/-! A step depends on a name only by the handler that it is registered for. -/

theorem namedStep_congr {name name' : Option String} (h : c.resolve? name' = c.resolve? name)
    (bind : Bind σ) (step : String) : c.namedStep bind step name' = c.namedStep bind step name := by
  rw [Compiler.namedStep, Compiler.namedStep, h]

theorem loaderStep_congr {name name' : Option String} (h : c.resolve? name' = c.resolve? name)
    (bind : Bind σ) : c.loaderStep bind name' = c.loaderStep bind name := by
  rw [Compiler.loaderStep, Compiler.loaderStep, namedStep_congr h]

theorem mainStep_congr {name name' : Option String} (h : c.resolve? name' = c.resolve? name)
    (bind : Bind σ) (kind : OperationKind) :
    c.mainStep bind kind name' = c.mainStep bind kind name := by
  rw [Compiler.mainStep, Compiler.mainStep, namedStep_congr h]

theorem SelectionDropped.stepsBeforeLoader (h : SelectionDropped c s s') :
    c.stepsBeforeLoader s' = c.stepsBeforeLoader s := by
  have hmiddlewares : c.middlewareSteps s' = c.middlewareSteps s := by
    rw [Compiler.middlewareSteps, Compiler.middlewareSteps, h.bind,
      h.schema.middlewares.steps, h.route.middlewares.steps]
  have hvalidations : s'.validationSteps = s.validationSteps := by
    rw [Selection.validationSteps, Selection.validationSteps, h.route.headerValidation,
      h.route.validation]
  rw [Compiler.stepsBeforeLoader, Compiler.stepsBeforeLoader, hmiddlewares, hvalidations]

theorem SelectionDropped.stepsAfterLoader (h : SelectionDropped c s s') :
    c.stepsAfterLoader s' = c.stepsAfterLoader s := by
  rw [Compiler.stepsAfterLoader, Compiler.stepsAfterLoader, h.bind, h.kind,
    namedStep_congr h.route.postValidation.resolve?, mainStep_congr h.route.handler.resolve?,
    namedStep_congr h.route.postHandler.resolve?]

/-- The loader's name resolves to the same handler unless the route's own goes from before one of
the schema that is registered. -/
theorem SelectionDropped.resolve?_loaderName (h : SelectionDropped c s s')
    (huncovers : ¬ UncoversLoader c s.schema s.route s'.route) :
    c.resolve? s'.loaderName = c.resolve? s.loaderName := by
  have hroute := h.route.loadFactory
  cases hown : s.route.loadFactory with
  | none =>
    rw [hown] at hroute
    have hgone : s'.route.loadFactory = none := by
      cases hown' : s'.route.loadFactory with
      | none => rfl
      | some own' =>
        rw [hown'] at hroute
        cases hroute
    rw [Selection.loaderName_of_none hown, Selection.loaderName_of_none hgone]
    exact h.schema.loadFactory.resolve?
  | some own =>
    rw [hown] at hroute
    cases hown' : s'.route.loadFactory with
    | some own' =>
      rw [hown'] at hroute
      rw [Selection.loaderName_of_some hown, Selection.loaderName_of_some hown']
      exact hroute.resolve?
    | none =>
      rw [hown'] at hroute
      have hschema : c.resolve? s.schema.loadFactory = none := by
        rw [← Option.not_isSome_iff_eq_none]
        exact fun hsome ↦ huncovers ⟨by rw [hown]; rfl, hown', hsome⟩
      rw [Selection.loaderName_of_some hown, Selection.loaderName_of_none hown', ← hroute.resolve?,
        h.schema.loadFactory.resolve?, hschema]
      rfl

/-- Where the route's loader goes from before one of the schema that is registered, the built-in
step gives way to that one. -/
theorem SelectionDropped.loaderSteps_of_uncovers (h : SelectionDropped c s s')
    (huncovers : UncoversLoader c s.schema s.route s'.route) (bind : Bind σ) :
    c.loaderStep bind s.loaderName = .loadFactory bind ∧
      ∃ handler, c.loaderStep bind s'.loaderName = .bound "load_factory" handler bind := by
  obtain ⟨hown, hgone, hregistered⟩ := huncovers
  obtain ⟨own, hown⟩ := Option.isSome_iff_exists.mp hown
  obtain ⟨handler, hhandler⟩ := Option.isSome_iff_exists.mp hregistered
  have hroute := h.route.loadFactory
  rw [hown, hgone] at hroute
  have hbuiltIn : c.resolve? s.loaderName = none := by
    rw [Selection.loaderName_of_some hown, ← hroute.resolve?]
    rfl
  have hbound : c.resolve? s'.loaderName = some handler := by
    rw [Selection.loaderName_of_none hgone, h.schema.loadFactory.resolve?, hhandler]
  constructor
  · exact Compiler.loaderStep_of_none hbuiltIn bind
  · refine ⟨handler, ?_⟩
    rw [Compiler.loaderStep, Compiler.namedStep, hbound]
    rfl

theorem SelectionDropped.steps_eq_iff (h : SelectionDropped c s s') :
    c.steps s' = c.steps s ↔ ¬ UncoversLoader c s.schema s.route s'.route := by
  rw [Compiler.steps_eq, Compiler.steps_eq, h.stepsBeforeLoader, h.stepsAfterLoader, h.bind,
    List.append_cancel_left_eq, List.cons.injEq, and_iff_left rfl]
  constructor
  · intro hloader huncovers
    obtain ⟨hbuiltIn, handler, hbound⟩ := h.loaderSteps_of_uncovers huncovers (c.bindOf s)
    rw [hbuiltIn, hbound] at hloader
    cases hloader
  · intro huncovers
    exact loaderStep_congr (h.resolve?_loaderName huncovers) _

end Selections

/-- Assumes: a well-shaped schema, and the schema with names dropped. A route is selected from both
or refused by both with the same error. -/
theorem select_dropped {c : Compiler σ} {source source' : Source σ} {schemaId : String}
    {d d' : Definition σ} (hd : source.schema? schemaId = some d)
    (hd' : source'.schema? schemaId = some d') (hshape : Shape.check d = .ok ())
    (hdrop : SchemaDropped c d d') (routeId : String) :
    (∃ e, select source schemaId routeId = .error e ∧ select source' schemaId routeId = .error e) ∨
      ∃ entry entry' kind, d.route? routeId = some entry ∧ d'.route? routeId = some entry' ∧
        select source schemaId routeId = .ok ⟨schemaId, routeId, d, entry.definition, kind⟩ ∧
        select source' schemaId routeId = .ok ⟨schemaId, routeId, d', entry'.definition, kind⟩ ∧
        RouteDropped c entry.definition entry'.definition := by
  rw [select_eq hd hshape, select_eq hd' (Shape.check_dropped hdrop hshape)]
  rcases hdrop.route? routeId with ⟨hnone, hnone'⟩ | ⟨entry, entry', hentry, hentry', hdropped⟩
  · rw [hnone, hnone']
    exact .inl ⟨_, rfl, rfl⟩
  · rw [hentry, hentry']
    have hname : Selection.operationName entry'.definition routeId =
        Selection.operationName entry.definition routeId := by
      rw [Selection.operationName, Selection.operationName, hdropped.definition.method]
    dsimp only
    rw [hname]
    cases OperationKind.ofName? (Selection.operationName entry.definition routeId) with
    | none => exact .inl ⟨_, rfl, rfl⟩
    | some kind => exact .inr ⟨entry, entry', kind, rfl, rfl, rfl, rfl, hdropped.definition⟩

/-- Assumes: a well-shaped schema, and the same schema with any names dropped, its own or those of
its routes, that are not registered. A route that does not compile fails with the same error. One
that compiles does so to the same pattern, method and settings, and to the same steps unless
the name of its own loader went while the schema names one that is registered; then the built-in
loader has given way to that one, and nothing else has changed. -/
theorem compile_dropped_names {c : Compiler σ} {source source' : Source σ} {schemaId : String}
    {d d' : Definition σ} (hd : source.schema? schemaId = some d)
    (hd' : source'.schema? schemaId = some d') (hshape : Shape.check d = .ok ())
    (hdrop : SchemaDropped c d d') (routeId : String) :
    (∀ e, c.compile source schemaId routeId = .error e →
      c.compile source' schemaId routeId = .error e) ∧
    ∀ r, c.compile source schemaId routeId = .ok r → ∃ entry entry' r',
      d.route? routeId = some entry ∧ d'.route? routeId = some entry' ∧
      c.compile source' schemaId routeId = .ok r' ∧
      r'.pattern = r.pattern ∧ r'.method = r.method ∧ r'.bind = r.bind ∧
      (r'.pipeline.steps = r.pipeline.steps ↔
        ¬ UncoversLoader c d entry.definition entry'.definition) ∧
      (UncoversLoader c d entry.definition entry'.definition → ∃ front handler back,
        r.pipeline.steps = front ++ .loadFactory r.bind :: back ∧
        r'.pipeline.steps = front ++ .bound "load_factory" handler r.bind :: back) := by
  rw [Compiler.compile, Compiler.compile]
  rcases select_dropped hd hd' hshape hdrop routeId with
    ⟨e, herror, herror'⟩ | ⟨entry, entry', kind, hentry, hentry', hselect, hselect', hroute⟩
  · rw [herror, herror']
    exact ⟨fun _ h ↦ h, fun _ h ↦ nomatch h⟩
  · rw [hselect, hselect']
    refine ⟨fun e h ↦ ?_, fun r hr ↦ ?_⟩
    · cases h
    cases hr
    have hselection : SelectionDropped c ⟨schemaId, routeId, d, entry.definition, kind⟩
        ⟨schemaId, routeId, d', entry'.definition, kind⟩ := ⟨rfl, rfl, rfl, hdrop, hroute⟩
    refine ⟨entry, entry', _, hentry, hentry', rfl, ?_, rfl, hselection.bind,
      hselection.steps_eq_iff, fun huncovers ↦ ?_⟩
    · exact congrArg Path.Pattern.mk hselection.path
    · obtain ⟨hbuiltIn, handler, hbound⟩ := hselection.loaderSteps_of_uncovers huncovers
        (c.bindOf ⟨schemaId, routeId, d, entry.definition, kind⟩)
      refine ⟨c.stepsBeforeLoader ⟨schemaId, routeId, d, entry.definition, kind⟩, handler,
        c.stepsAfterLoader ⟨schemaId, routeId, d, entry.definition, kind⟩, ?_, ?_⟩
      · exact (Compiler.steps_eq _ _).trans (by rw [hbuiltIn]; rfl)
      · refine (Compiler.steps_eq _ _).trans ?_
        rw [hselection.stepsBeforeLoader, hselection.stepsAfterLoader, hselection.bind, hbound]
        rfl

/-- A compiler that knows one handler, a loader. -/
def teamCompiler : Compiler Unit :=
  .new ⟨[("team", .group [("load", .handler .echo)])]⟩ (.new Services.baseRegistry)

/-- A schema with that loader, one route and middlewares. -/
def lampSchema (loader : Option String) (middlewares : List (Middleware Unit)) : Definition Unit :=
  { (Settings.empty : Definition Unit) with
    loadFactory := some "team.load"
    routes := [("get", .route { (RouteSettings.empty : RouteDefinition Unit) with
      loadFactory := loader })]
    middlewares }

/-- A middleware and the route's loader go, neither of which is registered. -/
theorem lampSchema_dropped : SchemaDropped teamCompiler
    (lampSchema (some "gone.load") [.named "gone.trace"]) (lampSchema none []) where
  id := rfl
  model := rfl
  useFactory := rfl
  path := rfl
  loadFactory := .kept _
  routes := by
    have hloader : teamCompiler.handlers.resolve? "gone.load" = none := rfl
    exact .cons ⟨rfl, .route { RouteDropped.refl _ with loadFactory := .dropped hloader }⟩ .nil
  middlewares := by
    have htrace : teamCompiler.handlers.resolve? "gone.trace" = none := rfl
    exact .dropped htrace .nil

theorem lamp_loader_gives_way :
    Shape.check (lampSchema (some "gone.load") [.named "gone.trace"]) = .ok () ∧
    ∃ r r' front handler back,
      teamCompiler.compile (.single (lampSchema (some "gone.load") [.named "gone.trace"])) "lamps"
        "get" = .ok r ∧
      teamCompiler.compile (.single (lampSchema none [])) "lamps" "get" = .ok r' ∧
      r.pipeline.steps = front ++ .loadFactory r.bind :: back ∧
      r'.pipeline.steps = front ++ .bound "load_factory" handler r.bind :: back := by
  have hshape : Shape.check (lampSchema (some "gone.load") [.named "gone.trace"]) = .ok () := rfl
  have hcompile := (@compile_dropped_names Unit teamCompiler
    (.single (lampSchema (some "gone.load") [.named "gone.trace"])) (.single (lampSchema none []))
    "lamps" _ _ rfl rfl hshape lampSchema_dropped "get").2 _ rfl
  obtain ⟨entry, entry', r', hentry, hentry', hr', -, -, -, -, hloader⟩ := hcompile
  cases hentry
  cases hentry'
  obtain ⟨front, handler, back, hsteps, hsteps'⟩ := hloader ⟨rfl, rfl, rfl⟩
  exact ⟨hshape, _, r', front, handler, back, rfl, hr', hsteps, hsteps'⟩

/-- It is not so that dropping unregistered names never changes a compiled route: the loader of the
schema comes into its own once an unknown one of the route is gone. -/
theorem dropped_loader_changes_steps :
    ¬ ∀ (c : Compiler Unit) (d d' : Definition Unit) (schemaId routeId : String)
      (r r' : CompiledRoute Unit), Shape.check d = .ok () → SchemaDropped c d d' →
      c.compile (.single d) schemaId routeId = .ok r →
      c.compile (.single d') schemaId routeId = .ok r' →
      r'.pattern = r.pattern ∧ r'.method = r.method ∧ r'.bind = r.bind ∧
        r'.pipeline.steps = r.pipeline.steps := by
  intro h
  have hsame := h teamCompiler _ _ "lamps" "get" _ _ rfl lampSchema_dropped rfl rfl
  have hloader : Step.bound "load_factory" Handler.echo _ = Step.loadFactory _ :=
    (List.cons.inj (List.cons.inj hsame.2.2.2).2).1
  cases hloader

end SchemaRouting.Schema
