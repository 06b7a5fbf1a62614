import SchemaRouting.Proofs.Pipeline.Resolution
import SchemaRouting.Proofs.Route.Serving
import SchemaRouting.Proofs.Schema.StepOrder

/-!
# One default factory for each id

Requests are handled one after another, each by a route (`Served`). What outlives a request is what
the next one starts with, so the factories that are looked for while all of them are handled follow
one another as those of a single run do (`Served.chained_after`). For routes that are compiled with
the same services (`Schema.CompiledWith`) all of them come from these services
(`Schema.CompiledWith.services_eq`), so there is one default factory for each id however many
requests, routes and schemas share it: it is built for the first request that needs it and gets so
far, and all the others are given the same. A builder that panics leaves the id without one, so the
next request that needs it has the builder asked again (`default_factories_built_once`,
`dark_lamp_asked_again`).
-/

set_option autoImplicit false
set_option relaxedAutoImplicit false

namespace SchemaRouting

open Dispatch (State)
open Resolution (Chained)

variable {σ : Type}

/-! ### Requests that are handled one after another -/

theorem Step.bind?_of_mem_resolutions {step : Step σ} {s : State σ} {x : Resolution σ}
    (hx : x ∈ step.resolutions s) : step.bind? = some x.bind := by
  cases step with
  | loadFactory bind =>
    rw [List.mem_singleton.mp hx]
    rfl
  | default kind bind =>
    rw [List.mem_singleton.mp hx]
    rfl
  | direct name act => cases hx
  | bound name handler bind => cases hx
  | validateHeaders check => cases hx
  | validateBody check => cases hx
  | loadPrincipal source => cases hx

namespace CompiledRoute

/-- The factories that a route looks for while it serves a request. -/
def resolutions (r : CompiledRoute σ) (shared : Shared σ) (request : Request (Factory σ)) :
    List (Resolution σ) :=
  match r.accept request with
  | .ok params => Dispatch.resolutions r.pipeline.steps (r.start shared request params)
  | .error _ => []

theorem chained_handle (r : CompiledRoute σ) (shared : Shared σ) (request : Request (Factory σ)) :
    Chained shared.defaults (r.resolutions shared request)
      (r.handle shared request).2.defaults := by
  cases haccept : r.accept request with
  | error e =>
    have hkept : (r.handle shared request).2.defaults = shared.defaults :=
      (handle_of_refuses_frame (accept_eq_error_iff.mp haccept)).2.1
    rw [resolutions, haccept, hkept]
    exact .nil shared.defaults
  | ok params =>
    rw [resolutions, haccept, handle, run_of_accept haccept]
    exact Dispatch.chained_runSteps r.pipeline.steps (r.start shared request params)

theorem exists_of_mem_resolutions {r : CompiledRoute σ} {shared : Shared σ}
    {request : Request (Factory σ)} {x : Resolution σ} (hx : x ∈ r.resolutions shared request) :
    ∃ step ∈ r.pipeline.steps, step.bind? = some x.bind := by
  rw [resolutions] at hx
  cases haccept : r.accept request with
  | error e =>
    rw [haccept] at hx
    cases hx
  | ok params =>
    rw [haccept] at hx
    obtain ⟨step, hstep, s, hx⟩ := Dispatch.exists_of_mem_resolutions hx
    exact ⟨step, hstep, Step.bind?_of_mem_resolutions hx⟩

/-- The route with another builder in the settings of the steps that look for factories. -/
def withBuilder (builder : FactoryBuilder σ (Factory σ)) (r : CompiledRoute σ) : CompiledRoute σ :=
  { r with pipeline := ⟨r.pipeline.label, r.pipeline.steps.map (Step.withBuilder builder)⟩ }

theorem handle_withBuilder {builder : FactoryBuilder σ (Factory σ)} {r : CompiledRoute σ}
    {shared : Shared σ} {request : Request (Factory σ)}
    (h : ∀ x ∈ r.resolutions shared request, x.AgreesWith builder) :
    (r.withBuilder builder).handle shared request = r.handle shared request := by
  cases haccept : r.accept request with
  | error e =>
    exact (handle_of_refuses_frame (accept_eq_error_iff.mp haccept)).2.2 _
  | ok params =>
    have haccept' : (r.withBuilder builder).accept request = .ok params := haccept
    rw [resolutions, haccept] at h
    have hsteps : Dispatch.runSteps (r.withBuilder builder).pipeline.steps
        ((r.withBuilder builder).start shared request params) =
          Dispatch.runSteps r.pipeline.steps (r.start shared request params) :=
      Dispatch.runSteps_withBuilder h
    rw [handle, handle, run_of_accept haccept, run_of_accept haccept', hsteps]
    rfl

end CompiledRoute

/-- A request and the route that handles it. -/
structure Served (σ : Type) where
  route : CompiledRoute σ
  request : Request (Factory σ)

namespace Served

/-- What outlives all the requests that are handled one after another. -/
def after : List (Served σ) → Shared σ → Shared σ
  | [], shared => shared
  | one :: rest, shared => after rest (one.route.handle shared one.request).2

/-- The responses that the requests are answered with. -/
def answers : List (Served σ) → Shared σ → List Response
  | [], _ => []
  | one :: rest, shared =>
    (one.route.handle shared one.request).1 ::
      answers rest (one.route.handle shared one.request).2

/-- The factories that are looked for meanwhile. -/
def resolutions : List (Served σ) → Shared σ → List (Resolution σ)
  | [], _ => []
  | one :: rest, shared =>
    one.route.resolutions shared one.request ++
      resolutions rest (one.route.handle shared one.request).2

theorem chained_after (served : List (Served σ)) (shared : Shared σ) :
    Chained shared.defaults (resolutions served shared) (after served shared).defaults := by
  induction served generalizing shared with
  | nil => exact .nil shared.defaults
  | cons one rest ih =>
    exact (one.route.chained_handle shared one.request).append
      (ih (one.route.handle shared one.request).2)

theorem exists_of_mem_resolutions {served : List (Served σ)} {shared : Shared σ}
    {x : Resolution σ} (hx : x ∈ resolutions served shared) :
    ∃ one ∈ served, ∃ step ∈ one.route.pipeline.steps, step.bind? = some x.bind := by
  induction served generalizing shared with
  | nil => cases hx
  | cons one rest ih =>
    rcases List.mem_append.mp hx with hone | hrest
    · exact ⟨one, List.mem_cons_self, CompiledRoute.exists_of_mem_resolutions hone⟩
    · obtain ⟨other, hother, hstep⟩ := ih hrest
      exact ⟨other, List.mem_cons_of_mem one hother, hstep⟩

def withBuilder (builder : FactoryBuilder σ (Factory σ)) (one : Served σ) : Served σ :=
  ⟨one.route.withBuilder builder, one.request⟩

theorem answers_withBuilder {builder : FactoryBuilder σ (Factory σ)} {served : List (Served σ)}
    {shared : Shared σ} (h : ∀ x ∈ resolutions served shared, x.AgreesWith builder) :
    answers (served.map (withBuilder builder)) shared = answers served shared ∧
      after (served.map (withBuilder builder)) shared = after served shared := by
  induction served generalizing shared with
  | nil => exact ⟨rfl, rfl⟩
  | cons one rest ih =>
    have hone : ((one.withBuilder builder).route).handle shared one.request =
        one.route.handle shared one.request :=
      CompiledRoute.handle_withBuilder fun x hx ↦ h x (List.mem_append_left _ hx)
    obtain ⟨hanswers, hafter⟩ := ih fun x hx ↦ h x (List.mem_append_right _ hx)
    constructor
    · rw [List.map_cons, answers, answers]
      change (((one.withBuilder builder).route).handle shared one.request).1 ::
        answers _ (((one.withBuilder builder).route).handle shared one.request).2 = _
      rw [hone, hanswers]
    · rw [List.map_cons, after, after]
      change after _ (((one.withBuilder builder).route).handle shared one.request).2 = _
      rw [hone, hafter]

end Served

namespace Schema

/-! ### Routes compiled with the same services -/

/-- A route that is compiled with these services. A step that its schema gives directly may be one
that looks factories up, and then does so with these services too. -/
def CompiledWith (services : Services σ) (r : CompiledRoute σ) : Prop :=
  ∃ (c : Compiler σ) (source : Source σ) (schemaId routeId : String) (s : Selection σ),
    c.services = services ∧ select source schemaId routeId = .ok s ∧
    c.compile source schemaId routeId = .ok r ∧
    ∀ step, .step step ∈ s.schema.middlewares ++ s.route.middlewares →
      ∀ b ∈ step.bind?, b.services = services

theorem CompiledWith.services_eq {services : Services σ} {r : CompiledRoute σ}
    (h : CompiledWith services r) {step : Step σ} (hstep : step ∈ r.pipeline.steps) {b : Bind σ}
    (hb : step.bind? = some b) : b.services = services := by
  obtain ⟨c, source, schemaId, routeId, s, hservices, hselect, hcompile, hdirect⟩ := h
  rw [Compiler.compile, hselect] at hcompile
  cases hcompile
  rcases (c.laidOut_steps s).direct_or_seesOnly hstep with hgiven | hsees
  · exact hdirect step hgiven b hb
  · rw [hsees b hb]
    exact hservices

end Schema

/-- Assumes: routes compiled with the same services, and requests that they handle one after
another. Each factory that is looked for meanwhile is the one in the context of the request, or else
the registered one that the settings name, or else the default one of their id; the loader stores
it, and a handler does with it what it does where it was stored before. All that need the default
one of an id are given the same, which is kept, unless the building of one panics: then the step
that looked for it does so too, and none is kept. The builder makes at most one for each id. It is
asked where a default factory is needed of an id that had none to begin with and of which all
buildings until then panicked, which is the case where the first is needed; it is asked with the id,
the model and the application of the step, and what it answers is what is found. Nothing else
depends on the builder: another one that does the same where it is asked leaves all the answers, and
what outlives the requests, as they are. -/
theorem default_factories_built_once {services : Services σ} {served : List (Served σ)}
    (hserved : ∀ one ∈ served, Schema.CompiledWith services one.route) (shared : Shared σ) :
    let looked := Served.resolutions served shared
    let kept := (Served.after served shared).defaults
    (∀ x ∈ looked, x.bind.services = services ∧ x.FoundBy x.found x.left ∧
      (∀ f, x.found = .made f →
        (Step.loadFactory x.bind).run x.on = (.proceed, Step.withFactory x.left f) ∧
        ∀ kind, (Step.default kind x.bind).run (Step.withFactory x.left f) =
          (((Step.default kind x.bind).run x.on).1,
            Step.withFactory ((Step.default kind x.bind).run x.on).2 f)) ∧
      ∀ message, x.found = .panicked message →
        (Step.loadFactory x.bind).run x.on = (.panic message, x.left) ∧
        ∀ kind, (Step.default kind x.bind).run x.on = (.panic message, x.left)) ∧
    (∀ x ∈ looked, x.NeedsDefault → ∀ f, x.found = .made f →
      Keyed.find? x.bind.id kept = some f ∧
      ∀ y ∈ looked, y.NeedsDefault → y.bind.id = x.bind.id → ∀ g, y.found = .made g → g = f) ∧
    ((looked.filterMap Resolution.made?).map Build.id).Nodup ∧
    (∀ before x rest, looked = before ++ x :: rest → ∀ b, x.build? = some b ↔
      x.NeedsDefault ∧ Keyed.find? x.bind.id shared.defaults = none ∧
      (∀ y ∈ before, y.NeedsDefault → y.bind.id = x.bind.id →
        ∃ message, y.found = .panicked message) ∧
      b = ⟨x.bind.id, x.bind.model, x.on.app⟩) ∧
    (∀ x ∈ looked, ∀ b ∈ x.build?,
      x.found = (services.factories.builder b.id b.model b.app).1) ∧
    ∀ builder : FactoryBuilder σ (Factory σ),
      (∀ x ∈ looked, ∀ b ∈ x.build?,
        builder b.id b.model b.app = services.factories.builder b.id b.model b.app) →
      Served.answers (served.map (Served.withBuilder builder)) shared =
          Served.answers served shared ∧
        Served.after (served.map (Served.withBuilder builder)) shared =
          Served.after served shared := by
  dsimp only
  have hchained := Served.chained_after served shared
  have hservices : ∀ x ∈ Served.resolutions served shared, x.bind.services = services := by
    intro x hx
    obtain ⟨one, hone, step, hstep, hbind⟩ := Served.exists_of_mem_resolutions hx
    exact (hserved one hone).services_eq hstep hbind
  refine ⟨fun x hx ↦ ⟨hservices x hx, x.foundBy, fun _ ↦ Step.run_of_made,
      fun _ ↦ Step.run_of_panicked⟩,
    fun x hx hneeds f hmade ↦ ⟨hchained.stored hx hneeds hmade, fun y hy hneeds' hid g hmade' ↦ ?_⟩,
    hchained.nodup_made.1, fun before x rest hsplit b ↦ ?_, fun x hx b hb ↦ ?_,
    fun builder hsame ↦ Served.answers_withBuilder fun x hx b hb ↦ ?_⟩
  · have hkept := hchained.stored hy hneeds' hmade'
    rw [hid, hchained.stored hx hneeds hmade] at hkept
    exact (Option.some.inj hkept).symm
  · rw [hsplit] at hchained
    exact hchained.build?_eq_some_iff
  · rw [x.found_of_build? hb, hservices x hx]
  · rw [hservices x hx]
    exact hsame x hx b hb

/-- A factory that gives one number for every item. -/
def numberFactory (n : Nat) : Factory Nat :=
  { (Factory.base : Factory Nat) with get := fun _ app ↦ (.ok (.int n), app) }

/-- A compiler with one named factory, and with a builder that panics at first and then numbers what
it builds. -/
def numberingCompiler : Schema.Compiler Nat :=
  .new ⟨[]⟩ (.new ⟨[("team", numberFactory 100)], fun _ _ app ↦
    (if app = 0 then .panicked "dark" else .made (numberFactory app), app + 1)⟩)

/-- A schema that is served under the id of lamps, with a route to one of them. -/
def lampsAt (path : String) (model : Option Validator) (factory : Option String) :
    Schema.Definition Nat :=
  { (Schema.Settings.empty : Schema.Definition Nat) with
    id := some "lamps"
    path := some path
    model
    useFactory := factory
    routes := [("get", .path ":id")] }

/-- The route of that schema. -/
def lampAt (path : String) (model : Option Validator) (factory : Option String) :
    CompiledRoute Nat :=
  numberingCompiler.assemble ⟨"lamps", "get", lampsAt path model factory,
    { (Schema.RouteSettings.empty : Schema.RouteDefinition Nat) with path := some ":id" }, .get⟩

theorem compiledWith_lampAt {path : String} {model : Option Validator} {factory : Option String}
    (hshape : Schema.Shape.check (lampsAt path model factory) = .ok ()) :
    Schema.CompiledWith numberingCompiler.services (lampAt path model factory) := by
  have hfound : (Schema.Source.single (lampsAt path model factory)).schema? "lamps" =
      some (lampsAt path model factory) := rfl
  have hselect := Schema.select_eq hfound hshape "get"
  refine ⟨numberingCompiler, .single (lampsAt path model factory), "lamps", "get", _, rfl,
    hselect, ?_, nofun⟩
  rw [Schema.Compiler.compile, hselect]
  rfl

/-- Six requests for lamps under three paths: one that the path refuses, one that the named factory
serves, one that comes with a factory, and three that need the default factory. -/
def servedLamps : List (Served Nat) :=
  let own : Request (Factory Nat) := .new .get "/lamps/7"
  let told : Request (Factory Nat) :=
    { own with context := { own.context with factory := some (numberFactory 200) } }
  [⟨lampAt "/lamps" none none, .new .get "/rooms/7"⟩,
    ⟨lampAt "/halls" none (some "team"), .new .get "/halls/7"⟩,
    ⟨lampAt "/lamps" none none, told⟩,
    ⟨lampAt "/lamps" none none, own⟩,
    ⟨lampAt "/lamps" none none, own⟩,
    ⟨lampAt "/rooms" (some fun _ v ↦ .ok v) (some "gone"), .new .get "/rooms/7"⟩]

theorem compiledWith_of_mem_servedLamps : ∀ one ∈ servedLamps,
    Schema.CompiledWith numberingCompiler.services one.route := by
  simp only [servedLamps, List.forall_mem_cons]
  exact ⟨compiledWith_lampAt rfl, compiledWith_lampAt rfl, compiledWith_lampAt rfl,
    compiledWith_lampAt rfl, compiledWith_lampAt rfl, compiledWith_lampAt rfl,
    List.forall_mem_nil _⟩

/-- The first of the three sees the builder panic, and the others share the one factory that is then
built, though their schemas have different models. -/
theorem lamps_share_default :
    (∀ one ∈ servedLamps, Schema.CompiledWith numberingCompiler.services one.route) ∧
    ((Served.resolutions servedLamps ⟨0, [], []⟩).filterMap Resolution.made?).map Build.id =
      ["lamps"] ∧
    ∃ w x y f, (Served.resolutions servedLamps ⟨0, [], []⟩)[4]? = some w ∧
      (Served.resolutions servedLamps ⟨0, [], []⟩)[5]? = some x ∧
      (Served.resolutions servedLamps ⟨0, [], []⟩)[7]? = some y ∧
      (Step.loadFactory w.bind).run w.on = (.panic "dark", w.left) ∧
      x.build?.isSome = true ∧ x.bind.model = none ∧ y.bind.model.isSome = true ∧
      x.found = .made f ∧ y.found = .made f := by
  obtain ⟨hfound, hdefault, -⟩ :=
    default_factories_built_once compiledWith_of_mem_servedLamps ⟨0, [], []⟩
  obtain ⟨w, hw⟩ : ∃ w, (Served.resolutions servedLamps ⟨0, [], []⟩)[4]? = some w := ⟨_, rfl⟩
  obtain ⟨x, hx⟩ : ∃ x, (Served.resolutions servedLamps ⟨0, [], []⟩)[5]? = some x := ⟨_, rfl⟩
  obtain ⟨y, hy⟩ : ∃ y, (Served.resolutions servedLamps ⟨0, [], []⟩)[7]? = some y := ⟨_, rfl⟩
  have hpanicked : w.found = .panicked "dark" := by
    cases hw
    rfl
  obtain ⟨f, hmade⟩ : ∃ f, x.found = .made f := by
    cases hx
    exact ⟨_, rfl⟩
  obtain ⟨g, hmade'⟩ : ∃ g, y.found = .made g := by
    cases hy
    exact ⟨_, rfl⟩
  have hneeds : x.NeedsDefault := by
    cases hx
    exact ⟨rfl, nofun⟩
  have hneeds' : y.NeedsDefault := by
    cases hy
    refine ⟨rfl, ?_⟩
    rintro name ⟨⟩
    rfl
  have hid : y.bind.id = x.bind.id := by
    cases hx
    cases hy
    rfl
  have hsame : g = f :=
    (hdefault x (List.mem_of_getElem? hx) hneeds f hmade).2 y (List.mem_of_getElem? hy) hneeds' hid
      g hmade'
  subst hsame
  have hload := ((hfound w (List.mem_of_getElem? hw)).2.2.2 "dark" hpanicked).1
  refine ⟨compiledWith_of_mem_servedLamps, rfl, w, x, y, g, hw, hx, hy, hload, ?_⟩
  cases hx
  cases hy
  exact ⟨rfl, rfl, rfl, hmade, hmade'⟩

/-- It is not so that the builder is asked at most once for each id: it is asked again where it
panicked. -/
theorem dark_lamp_asked_again :
    ¬ ∀ (services : Services Nat) (served : List (Served Nat)) (shared : Shared Nat),
      (∀ one ∈ served, Schema.CompiledWith services one.route) →
      (((Served.resolutions served shared).filterMap Resolution.build?).map Build.id).Nodup := by
  intro h
  have hasked : ((Served.resolutions servedLamps ⟨0, [], []⟩).filterMap Resolution.build?).map
      Build.id = ["lamps", "lamps"] := rfl
  have hnodup := h _ servedLamps ⟨0, [], []⟩ compiledWith_of_mem_servedLamps
  rw [hasked] at hnodup
  exact absurd hnodup (by decide)

end SchemaRouting
