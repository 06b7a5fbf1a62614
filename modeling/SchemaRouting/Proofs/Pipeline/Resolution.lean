import SchemaRouting.Proofs.Keyed
import SchemaRouting.Proofs.Pipeline.Calls

/-!
# Where factories come from

The loader and the handlers of operations look for a factory (`Resolution`). It is the one in the
context of the request, or else the registered one that their settings name, or else the default
one of their id, which is built if none is kept (`FoundBy`, `Resolution.foundBy`); the builder is
asked for nothing else (`Resolution.build?`, `Resolution.resolveFactory_withBuilder`). A builder
that panics makes none, and none is kept. `Dispatch.resolutions` are the resolutions of a whole
run. Each begins with the default factories that the one before it left (`Chained`), since no other
step touches them (`chained_run`, `chained_runSteps`). Along a chain a default factory that is kept
stays (`Chained.retains`), and one that is needed and made is kept from then on (`Chained.stored`),
so that the builder is asked for an id where it is needed and all that needed it before saw a panic
(`Chained.build?_eq_some_iff`), and makes one at most once for each id (`Chained.nodup_made`).
-/

set_option autoImplicit false
set_option relaxedAutoImplicit false

namespace SchemaRouting

open Dispatch (State)

variable {σ : Type}

/-- A factory is looked for: with the settings of a step, and in the state that the step is run
on. -/
structure Resolution (σ : Type) where
  bind : Bind σ
  on : State σ

/-- What the builder of default factories is asked for. -/
structure Build (σ : Type) where
  id : String
  model : Option Validator
  app : σ

/-- The settings with another builder of default factories. -/
def Bind.withBuilder (bind : Bind σ) (builder : FactoryBuilder σ (Factory σ)) : Bind σ :=
  { bind with services :=
    { bind.services with factories := { bind.services.factories with builder } } }

namespace Resolution

/-! ### One resolution -/

section One

variable (x : Resolution σ)

/-- The factory that is found, unless the building of one panics. -/
def found : Built (Factory σ) := (Step.resolveFactory x.bind x.on).1

/-- The state that the search for it leaves. -/
def left : State σ := (Step.resolveFactory x.bind x.on).2

/-- No factory is in the context of the request, nor is one registered under the name that the
settings have, if they have one. -/
structure NeedsDefault : Prop where
  context : x.on.request.context.factory = none
  name : ∀ name ∈ x.bind.factoryName, x.bind.services.factories.get? name = none

/-- What the builder is asked for, if it is asked. -/
def build? : Option (Build σ) :=
  match x.on.request.context.factory with
  | some _ => none
  | none =>
    match x.bind.factoryName.bind x.bind.services.factories.get? with
    | some _ => none
    | none =>
      match Keyed.find? x.bind.id x.on.defaults with
      | some _ => none
      | none => some ⟨x.bind.id, x.bind.model, x.on.app⟩

/-- What the builder is asked for, if it is asked and makes a factory. -/
def made? : Option (Build σ) :=
  match x.found with
  | .made _ => x.build?
  | .panicked _ => none

/-- Another builder does the same as that of the settings where this is asked. -/
def AgreesWith (builder : FactoryBuilder σ (Factory σ)) : Prop :=
  ∀ b ∈ x.build?, builder b.id b.model b.app = x.bind.services.factories.builder b.id b.model b.app

/-- The ways to find a factory, and the states that they leave. Only the last two ask the builder;
what it makes is kept under the id, and where it panics nothing is. -/
inductive FoundBy : Built (Factory σ) → State σ → Prop
  | context {f : Factory σ} : x.on.request.context.factory = some f → FoundBy (.made f) x.on
  | named {name : String} {f : Factory σ} : x.on.request.context.factory = none →
    x.bind.factoryName = some name → x.bind.services.factories.get? name = some f →
    FoundBy (.made f) x.on
  | kept {f : Factory σ} {notes : List Telemetry.Note} : x.NeedsDefault →
    Keyed.find? x.bind.id x.on.defaults = some f → FoundBy (.made f) { x.on with notes }
  | built {f : Factory σ} {app : σ} {notes : List Telemetry.Note} : x.NeedsDefault →
    Keyed.find? x.bind.id x.on.defaults = none →
    x.bind.services.factories.builder x.bind.id x.bind.model x.on.app = (.made f, app) →
    FoundBy (.made f) { x.on with defaults := Keyed.insert x.bind.id f x.on.defaults, app, notes }
  | unbuilt {message : String} {app : σ} {notes : List Telemetry.Note} : x.NeedsDefault →
    Keyed.find? x.bind.id x.on.defaults = none →
    x.bind.services.factories.builder x.bind.id x.bind.model x.on.app = (.panicked message, app) →
    FoundBy (.panicked message) { x.on with app, notes }

variable {x}

theorem needsDefault_iff : x.NeedsDefault ↔ x.on.request.context.factory = none ∧
    x.bind.factoryName.bind x.bind.services.factories.get? = none := by
  rw [Option.bind_eq_none_iff]
  exact ⟨fun h ↦ ⟨h.context, h.name⟩, fun h ↦ ⟨h.1, h.2⟩⟩

theorem build?_eq_some_iff {b : Build σ} : x.build? = some b ↔ x.NeedsDefault ∧
    Keyed.find? x.bind.id x.on.defaults = none ∧ b = ⟨x.bind.id, x.bind.model, x.on.app⟩ := by
  rw [needsDefault_iff, build?]
  cases x.on.request.context.factory with
  | some f => simp
  | none =>
    cases x.bind.factoryName.bind x.bind.services.factories.get? with
    | some f => simp
    | none => cases Keyed.find? x.bind.id x.on.defaults <;> simp [eq_comm]

theorem resolveFactory_of_context {f : Factory σ} (h : x.on.request.context.factory = some f) :
    Step.resolveFactory x.bind x.on = (.made f, x.on) := by
  rw [Step.resolveFactory, h]

theorem resolveFactory_of_named {name : String} {f : Factory σ}
    (hcontext : x.on.request.context.factory = none) (hset : x.bind.factoryName = some name)
    (hnamed : x.bind.services.factories.get? name = some f) :
    Step.resolveFactory x.bind x.on = (.made f, x.on) := by
  rw [Step.resolveFactory, hcontext, hset]
  dsimp only
  rw [hnamed]

/-- A default factory that is needed comes from those that are kept, or else from the builder. What
is noted on the way does not depend on the builder. -/
theorem resolveFactory_withBuilder_of_needsDefault (h : x.NeedsDefault)
    (builder : FactoryBuilder σ (Factory σ)) :
    let found := (x.bind.withBuilder builder).services.factories.defaultFor x.bind.id x.bind.model
      x.on.defaults x.on.app
    Step.resolveFactory (x.bind.withBuilder builder) x.on =
      (found.1, { x.on with defaults := found.2.1, app := found.2.2, notes := x.left.notes }) := by
  have hname := h.name
  simp only [left, Step.resolveFactory, h.context, Bind.withBuilder]
  cases hset : x.bind.factoryName with
  | none => rfl
  | some name =>
    have hown := hname name hset
    have hother : FactoryRegistry.get? ⟨x.bind.services.factories.named, builder⟩ name = none :=
      hown
    simp only [hown, hother]
    rfl

theorem resolveFactory_of_needsDefault (h : x.NeedsDefault) :
    let found := x.bind.services.factories.defaultFor x.bind.id x.bind.model x.on.defaults x.on.app
    Step.resolveFactory x.bind x.on =
      (found.1, { x.on with defaults := found.2.1, app := found.2.2, notes := x.left.notes }) :=
  resolveFactory_withBuilder_of_needsDefault h x.bind.services.factories.builder

theorem foundBy_of_needsDefault (h : x.NeedsDefault) : x.FoundBy x.found x.left := by
  rw [found, left, resolveFactory_of_needsDefault h, FactoryRegistry.defaultFor]
  cases hkept : Keyed.find? x.bind.id x.on.defaults with
  | some f => exact .kept h hkept
  | none =>
    rcases hbuilt : x.bind.services.factories.builder x.bind.id x.bind.model x.on.app with
      ⟨f | message, app⟩
    · exact .built h hkept hbuilt
    · exact .unbuilt h hkept hbuilt

/-- Every search ends in one of the five ways, the first that applies. -/
theorem foundBy (x : Resolution σ) : x.FoundBy x.found x.left := by
  cases hcontext : x.on.request.context.factory with
  | some f =>
    rw [found, left, resolveFactory_of_context hcontext]
    exact .context hcontext
  | none =>
    cases hnamed : x.bind.factoryName.bind x.bind.services.factories.get? with
    | some f =>
      obtain ⟨name, hset, hget⟩ := Option.bind_eq_some_iff.mp hnamed
      rw [found, left, resolveFactory_of_named hcontext hset hget]
      exact .named hcontext hset hget
    | none => exact foundBy_of_needsDefault (needsDefault_iff.mpr ⟨hcontext, hnamed⟩)

/-- What the builder answers where it is asked is what is found. -/
theorem found_of_build? {b : Build σ} (h : x.build? = some b) :
    x.found = (x.bind.services.factories.builder b.id b.model b.app).1 := by
  obtain ⟨hneeds, hnone, rfl⟩ := build?_eq_some_iff.mp h
  rw [found, resolveFactory_of_needsDefault hneeds, FactoryRegistry.defaultFor, hnone]
  dsimp only
  rcases x.bind.services.factories.builder x.bind.id x.bind.model x.on.app with
    ⟨f | message, app⟩ <;> rfl

theorem made?_eq_some_iff {b : Build σ} :
    x.made? = some b ↔ x.build? = some b ∧ ∃ f, x.found = .made f := by
  rw [made?]
  cases x.found <;> simp

theorem defaultFor_withBuilder {builder : FactoryBuilder σ (Factory σ)}
    (hneeds : x.NeedsDefault) (h : x.AgreesWith builder) :
    (x.bind.withBuilder builder).services.factories.defaultFor x.bind.id x.bind.model x.on.defaults
        x.on.app =
      x.bind.services.factories.defaultFor x.bind.id x.bind.model x.on.defaults x.on.app := by
  rw [FactoryRegistry.defaultFor, FactoryRegistry.defaultFor]
  cases hkept : Keyed.find? x.bind.id x.on.defaults with
  | some f => rfl
  | none =>
    have hsame := h _ (build?_eq_some_iff.mpr ⟨hneeds, hkept, rfl⟩)
    dsimp only [Bind.withBuilder] at hsame ⊢
    rw [hsame]

/-- Another builder that does the same where this one is asked makes no difference. -/
theorem resolveFactory_withBuilder {builder : FactoryBuilder σ (Factory σ)}
    (h : x.AgreesWith builder) :
    Step.resolveFactory (x.bind.withBuilder builder) x.on = Step.resolveFactory x.bind x.on := by
  let other : Resolution σ := ⟨x.bind.withBuilder builder, x.on⟩
  cases hcontext : x.on.request.context.factory with
  | some f =>
    exact (resolveFactory_of_context (x := other) hcontext).trans
      (resolveFactory_of_context hcontext).symm
  | none =>
    cases hnamed : x.bind.factoryName.bind x.bind.services.factories.get? with
    | some f =>
      obtain ⟨name, hset, hget⟩ := Option.bind_eq_some_iff.mp hnamed
      exact (resolveFactory_of_named (x := other) hcontext hset hget).trans
        (resolveFactory_of_named hcontext hset hget).symm
    | none =>
      have hneeds : x.NeedsDefault := needsDefault_iff.mpr ⟨hcontext, hnamed⟩
      rw [resolveFactory_withBuilder_of_needsDefault hneeds, resolveFactory_of_needsDefault hneeds,
        defaultFor_withBuilder hneeds h]

/-! What a search does to the default factories that are kept. -/

namespace FoundBy

variable {f g : Factory σ} {outcome : Built (Factory σ)} {t : State σ} {id : String}

theorem find?_of_needsDefault (h : x.FoundBy (.made f) t) (hneeds : x.NeedsDefault) :
    Keyed.find? x.bind.id t.defaults = some f := by
  cases h with
  | context hcontext =>
    rw [hneeds.context] at hcontext
    cases hcontext
  | named _ hset hnamed =>
    rw [hneeds.name _ hset] at hnamed
    cases hnamed
  | kept _ hkept => exact hkept
  | built _ _ _ => exact Keyed.find?_insert_self x.bind.id f x.on.defaults

theorem find?_of_find? (h : x.FoundBy outcome t)
    (hkept : Keyed.find? id x.on.defaults = some g) : Keyed.find? id t.defaults = some g := by
  cases h with
  | built _ hnone _ =>
    have hne : id ≠ x.bind.id := by
      rintro rfl
      rw [hnone] at hkept
      cases hkept
    exact (Keyed.find?_insert_of_ne hne _ x.on.defaults).trans hkept
  | context | named | kept | unbuilt => exact hkept

/-- A search for the default factory of an id leaves none only where the building of one panics. -/
theorem find?_eq_none_iff (h : x.FoundBy outcome t) : Keyed.find? id t.defaults = none ↔
    Keyed.find? id x.on.defaults = none ∧
      (x.NeedsDefault → x.bind.id = id → ∃ message, outcome = .panicked message) := by
  constructor
  · intro hnone
    refine ⟨?_, ?_⟩
    · by_contra hsome
      obtain ⟨g, hkept⟩ := Option.ne_none_iff_exists'.mp hsome
      rw [h.find?_of_find? hkept] at hnone
      cases hnone
    · rintro hneeds rfl
      cases outcome with
      | made f =>
        rw [h.find?_of_needsDefault hneeds] at hnone
        cases hnone
      | panicked message => exact ⟨message, rfl⟩
  · rintro ⟨hnone, hpanics⟩
    cases h with
    | built hneeds _ _ =>
      have hne : id ≠ x.bind.id := by
        rintro rfl
        obtain ⟨message, hmade⟩ := hpanics hneeds rfl
        cases hmade
      exact (Keyed.find?_insert_of_ne hne _ x.on.defaults).trans hnone
    | context | named | kept | unbuilt => exact hnone

end FoundBy

end One

/-! ### Resolutions that follow one another -/

/-- Each resolution begins with the default factories that the one before it left, the first with
these and none after those. -/
inductive Chained :
    List (String × Factory σ) → List (Resolution σ) → List (String × Factory σ) → Prop
  | nil (kept : List (String × Factory σ)) : Chained kept [] kept
  | cons {x : Resolution σ} {xs : List (Resolution σ)} {last : List (String × Factory σ)} :
    Chained x.left.defaults xs last → Chained x.on.defaults (x :: xs) last

namespace Chained

variable {first middle last : List (String × Factory σ)} {before rest xs ys : List (Resolution σ)}
  {x : Resolution σ} {f : Factory σ} {id : String} {b : Build σ}

theorem append (h : Chained first xs middle) (h' : Chained middle ys last) :
    Chained first (xs ++ ys) last := by
  induction h with
  | nil kept => exact h'
  | cons _ ih => exact .cons (ih h')

theorem exists_of_append (h : Chained first (xs ++ ys) last) :
    ∃ middle, Chained first xs middle ∧ Chained middle ys last := by
  induction xs generalizing first with
  | nil => exact ⟨first, .nil first, h⟩
  | cons x xs ih =>
    cases h with
    | cons hrest =>
      obtain ⟨middle, hxs, hys⟩ := ih hrest
      exact ⟨middle, .cons hxs, hys⟩

/-- What is kept stays. -/
theorem retains (h : Chained first xs last) (hkept : Keyed.find? id first = some f) :
    Keyed.find? id last = some f := by
  induction h with
  | nil kept => exact hkept
  | @cons x xs last _ ih => exact ih (x.foundBy.find?_of_find? hkept)

/-- A default factory that is needed and made is kept from then on. -/
theorem stored (h : Chained first xs last) (hx : x ∈ xs) (hneeds : x.NeedsDefault)
    (hmade : x.found = .made f) : Keyed.find? x.bind.id last = some f := by
  induction h with
  | nil kept => cases hx
  | @cons y ys last hrest ih =>
    rcases List.mem_cons.mp hx with rfl | hx
    · have hfound := x.foundBy
      rw [hmade] at hfound
      exact hrest.retains (hfound.find?_of_needsDefault hneeds)
    · exact ih hx

/-- No default factory is kept for an id that had none and was needed only where building one
panicked. -/
theorem find?_eq_none_iff (h : Chained first xs last) : Keyed.find? id last = none ↔
    Keyed.find? id first = none ∧ ∀ x ∈ xs, x.NeedsDefault → x.bind.id = id →
      ∃ message, x.found = .panicked message := by
  induction h with
  | nil kept => simp
  | @cons x xs last _ ih =>
    rw [ih, x.foundBy.find?_eq_none_iff, List.forall_mem_cons, and_assoc]

/-- The builder is asked where a default factory is needed of an id that has none to begin with and
of which the building has panicked until then. -/
theorem build?_eq_some_iff (h : Chained first (before ++ x :: rest) last) :
    x.build? = some b ↔ x.NeedsDefault ∧ Keyed.find? x.bind.id first = none ∧
      (∀ y ∈ before, y.NeedsDefault → y.bind.id = x.bind.id →
        ∃ message, y.found = .panicked message) ∧
      b = ⟨x.bind.id, x.bind.model, x.on.app⟩ := by
  obtain ⟨middle, hbefore, hrest⟩ := h.exists_of_append
  cases hrest with
  | cons _ => rw [Resolution.build?_eq_some_iff, hbefore.find?_eq_none_iff, and_assoc]

/-- It makes a factory at most once for each id, and for none of which one was kept. -/
theorem nodup_made (h : Chained first xs last) :
    ((xs.filterMap made?).map Build.id).Nodup ∧
      ∀ b ∈ xs.filterMap made?, Keyed.find? b.id first = none := by
  induction h with
  | nil kept => exact ⟨List.nodup_nil, nofun⟩
  | @cons x xs last _ ih =>
    obtain ⟨hnodup, hfresh⟩ := ih
    have hearlier : ∀ b ∈ xs.filterMap made?, Keyed.find? b.id x.on.defaults = none :=
      fun b hb ↦ (x.foundBy.find?_eq_none_iff.mp (hfresh b hb)).1
    cases hmade : x.made? with
    | none =>
      rw [List.filterMap_cons_none hmade]
      exact ⟨hnodup, hearlier⟩
    | some b =>
      obtain ⟨hbuild, f, hfound⟩ := made?_eq_some_iff.mp hmade
      obtain ⟨hneeds, hnone, rfl⟩ := Resolution.build?_eq_some_iff.mp hbuild
      rw [List.filterMap_cons_some hmade, List.map_cons, List.nodup_cons, List.forall_mem_cons]
      refine ⟨⟨fun hmem ↦ ?_, hnodup⟩, hnone, hearlier⟩
      obtain ⟨b, hb, hid⟩ := List.mem_map.mp hmem
      obtain ⟨message, hpanicked⟩ :=
        (x.foundBy.find?_eq_none_iff.mp (hfresh b hb)).2 hneeds hid.symm
      rw [hfound] at hpanicked
      cases hpanicked

end Chained

end Resolution

/-! ### The resolutions of a run -/

open Resolution (Chained)

namespace Step

open Dispatch

/-- The factories that a step of the library looks for: the loader and the handlers of operations
look for one. -/
def resolutions : Step σ → State σ → List (Resolution σ)
  | loadFactory bind, s => [⟨bind, s⟩]
  | default _ bind, s => [⟨bind, s⟩]
  | direct .., _ => []
  | bound .., _ => []
  | validateHeaders _, _ => []
  | validateBody _, _ => []
  | loadPrincipal _, _ => []

theorem runLoadFactory_defaults (bind : Bind σ) (s : State σ) :
    (runLoadFactory bind s).2.defaults = (resolveFactory bind s).2.defaults := by
  rw [runLoadFactory]
  rcases resolveFactory bind s with ⟨factory | message, t⟩ <;> rfl

theorem runDefault_defaults (kind : OperationKind) (bind : Bind σ) (s : State σ) :
    (runDefault kind bind s).2.defaults = (resolveFactory bind s).2.defaults := by
  rw [runDefault]
  rcases resolveFactory bind s with ⟨factory | message, t⟩
  · obtain ⟨_, _, _, _, hleft⟩ := exists_answerBy_left factory kind bind t
    dsimp only
    rw [hleft]
  · rfl

theorem runLoadPrincipal_defaults (source : Option (PrincipalSource σ)) (s : State σ) :
    (runLoadPrincipal source s).2.defaults = s.defaults := by
  rw [runLoadPrincipal]
  rcases knownPrincipal s.request with _ | ⟨known, isOpen⟩
  · rfl
  · cases source with
    | none => rfl
    | some source =>
      cases isOpen with
      | false => rfl
      | true =>
        dsimp only [State.withRequest]
        rcases source known s.app with ⟨reply, app⟩
        cases reply <;> rfl

/-- A step leads from the default factories that it begins with to those that it leaves, by way of
the factories that it looks for. -/
theorem chained_run (step : Step σ) (s : State σ) :
    Chained s.defaults (step.resolutions s) (step.run s).2.defaults := by
  cases step with
  | loadFactory bind =>
    change Chained s.defaults [⟨bind, s⟩] (runLoadFactory bind s).2.defaults
    rw [runLoadFactory_defaults]
    exact .cons (x := ⟨bind, s⟩) (.nil _)
  | default kind bind =>
    change Chained s.defaults [⟨bind, s⟩] (runDefault kind bind s).2.defaults
    rw [runDefault_defaults]
    exact .cons (x := ⟨bind, s⟩) (.nil _)
  | direct name act => exact .nil _
  | bound name handler bind => exact .nil _
  | validateHeaders check =>
    change Chained s.defaults [] (runValidateHeaders check s).2.defaults
    rw [runValidateHeaders]
    cases check .lenient s.request.headersJson <;> exact .nil _
  | validateBody check =>
    change Chained s.defaults [] (runValidateBody check s).2.defaults
    rw [runValidateBody]
    cases check .strict s.request.body <;> exact .nil _
  | loadPrincipal source =>
    change Chained s.defaults [] (runLoadPrincipal source s).2.defaults
    rw [runLoadPrincipal_defaults]
    exact .nil _

/-- The loader stores the factory that is found, and the handler of an operation does what it does
where this is stored already. -/
theorem run_of_made {x : Resolution σ} {f : Factory σ} (h : x.found = .made f) :
    (loadFactory x.bind).run x.on = (.proceed, withFactory x.left f) ∧
      ∀ kind, (default kind x.bind).run (withFactory x.left f) =
        (((default kind x.bind).run x.on).1,
          withFactory ((default kind x.bind).run x.on).2 f) := by
  have hfound : resolveFactory x.bind x.on = (.made f, x.left) := by rw [← h]; rfl
  refine ⟨?_, fun kind ↦ ?_⟩
  · change runLoadFactory x.bind x.on = _
    rw [runLoadFactory, hfound]
  · have hfound' : resolveFactory x.bind (withFactory x.left f) = (.made f, withFactory x.left f) :=
      rfl
    change runDefault kind x.bind (withFactory x.left f) =
      ((runDefault kind x.bind x.on).1, withFactory (runDefault kind x.bind x.on).2 f)
    rw [runDefault, runDefault, hfound, hfound']
    exact answerBy_withFactory f f kind x.bind x.left

/-- Where the building of a factory panics, so do the loader and the handlers of operations. -/
theorem run_of_panicked {x : Resolution σ} {message : String}
    (h : x.found = .panicked message) :
    (loadFactory x.bind).run x.on = (.panic message, x.left) ∧
      ∀ kind, (default kind x.bind).run x.on = (.panic message, x.left) := by
  have hfound : resolveFactory x.bind x.on = (.panicked message, x.left) := by rw [← h]; rfl
  refine ⟨?_, fun kind ↦ ?_⟩
  · change runLoadFactory x.bind x.on = _
    rw [runLoadFactory, hfound]
  · change runDefault kind x.bind x.on = _
    rw [runDefault, hfound]

/-- A step of the library that looks for factories, with another builder in its settings. -/
def withBuilder (builder : FactoryBuilder σ (Factory σ)) : Step σ → Step σ
  | loadFactory bind => loadFactory (bind.withBuilder builder)
  | default kind bind => default kind (bind.withBuilder builder)
  | step => step

theorem name_withBuilder (builder : FactoryBuilder σ (Factory σ)) (step : Step σ) :
    (step.withBuilder builder).name = step.name := by
  cases step <;> rfl

theorem run_withBuilder {builder : FactoryBuilder σ (Factory σ)} {step : Step σ} {s : State σ}
    (h : ∀ x ∈ step.resolutions s, x.AgreesWith builder) :
    (step.withBuilder builder).run s = step.run s := by
  cases step with
  | loadFactory bind =>
    have hfound := Resolution.resolveFactory_withBuilder (h ⟨bind, s⟩ (List.mem_singleton_self _))
    change runLoadFactory (bind.withBuilder builder) s = runLoadFactory bind s
    rw [runLoadFactory, runLoadFactory, hfound]
  | default kind bind =>
    have hfound := Resolution.resolveFactory_withBuilder (h ⟨bind, s⟩ (List.mem_singleton_self _))
    change runDefault kind (bind.withBuilder builder) s = runDefault kind bind s
    rw [runDefault, runDefault, hfound]
    rfl
  | direct name act => rfl
  | bound name handler bind => rfl
  | validateHeaders check => rfl
  | validateBody check => rfl
  | loadPrincipal source => rfl

end Step

namespace Dispatch

/-- The factories that the steps of a run look for, in their order. -/
def resolutions : List (Step σ) → State σ → List (Resolution σ)
  | [], _ => []
  | step :: rest, s =>
    step.resolutions s ++
      match step.run s with
      | (.proceed, t) => resolutions rest t
      | _ => []

theorem chained_runSteps (steps : List (Step σ)) (s : State σ) :
    Chained s.defaults (resolutions steps s) (runSteps steps s).2.defaults := by
  induction steps generalizing s with
  | nil => exact .nil s.defaults
  | cons step rest ih =>
    have hstep := step.chained_run s
    rw [resolutions, runSteps]
    rcases hrun : step.run s with ⟨verdict, t⟩
    rw [hrun] at hstep
    cases verdict with
    | proceed => exact hstep.append (ih t)
    | halt => exact hstep.append (.nil t.defaults)
    | fail e => exact hstep.append (.nil t.defaults)
    | panic message => exact hstep.append (.nil t.defaults)

theorem exists_of_mem_resolutions {steps : List (Step σ)} {s : State σ} {x : Resolution σ}
    (hx : x ∈ resolutions steps s) : ∃ step ∈ steps, ∃ t, x ∈ step.resolutions t := by
  induction steps generalizing s with
  | nil => cases hx
  | cons step rest ih =>
    rw [resolutions] at hx
    rcases List.mem_append.mp hx with hx | hx
    · exact ⟨step, List.mem_cons_self, s, hx⟩
    · rcases hrun : step.run s with ⟨verdict, t⟩
      rw [hrun] at hx
      cases verdict with
      | proceed =>
        obtain ⟨step', hstep', hmem⟩ := ih hx
        exact ⟨step', List.mem_cons_of_mem step hstep', hmem⟩
      | halt => cases hx
      | fail e => cases hx
      | panic message => cases hx

/-- Another builder that does the same wherever it is asked makes no difference to a run. -/
theorem runSteps_withBuilder {builder : FactoryBuilder σ (Factory σ)} {steps : List (Step σ)}
    {s : State σ} (h : ∀ x ∈ resolutions steps s, x.AgreesWith builder) :
    runSteps (steps.map (Step.withBuilder builder)) s = runSteps steps s := by
  induction steps generalizing s with
  | nil => rfl
  | cons step rest ih =>
    rw [resolutions] at h
    have hstep := Step.run_withBuilder fun x hx ↦ h x (List.mem_append_left _ hx)
    rw [List.map_cons, runSteps, runSteps, hstep, Step.name_withBuilder]
    rcases hrun : step.run s with ⟨verdict, t⟩
    rw [hrun] at h
    cases verdict with
    | proceed => exact ih fun x hx ↦ h x (List.mem_append_right _ hx)
    | halt => rfl
    | fail e => rfl
    | panic message => rfl

end Dispatch

end SchemaRouting
