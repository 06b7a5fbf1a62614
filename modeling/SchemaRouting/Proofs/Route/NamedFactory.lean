import SchemaRouting.Proofs.Pipeline.Resolution
import SchemaRouting.Proofs.Route.ValidatedCalls

/-!
# The factory that a route names

The built-in loader stores the factory that is registered under the name of the route, or else of
the schema, and the built-in handler calls the one that is stored
(`named_factory_found_as_written`). The name is looked up as it is written. White space around it
is let through with the schema, and the names of handlers are looked up without it, but a factory
that is registered under the name without white space is not found under the name with it: the
default factory of the id is stored in its place (`padded_name_misses_factory`).
-/

set_option autoImplicit false
set_option relaxedAutoImplicit false

namespace SchemaRouting

open Dispatch (State Proceeds)

variable {σ : Type}

theorem CompiledRoute.LeadsTo.snoc {r : CompiledRoute σ} {shared : Shared σ}
    {request : Request (Factory σ)} {front : List (Step σ)} {left t : State σ} {step : Step σ}
    (h : r.LeadsTo shared request front left) (hstep : step.run left = (.proceed, t)) :
    r.LeadsTo shared request (front ++ [step]) t := by
  obtain ⟨params, haccept, hfront⟩ := h
  exact ⟨params, haccept,
    Dispatch.proceeds_append_iff.mpr ⟨left, hfront, .cons hstep (.nil t)⟩⟩

namespace Schema

namespace Compiler

/-- The step between the loader and the one that answers, if its name resolves. -/
def stepsBeforeMain (c : Compiler σ) (s : Selection σ) : List (Step σ) :=
  (c.namedStep (c.bindOf s) "post_validation" s.route.postValidation).toList

variable {c : Compiler σ} {s : Selection σ}

/-- Where neither names nor overrides put handlers in their places, the built-in loader and the
built-in handler are among the steps. -/
theorem exists_steps_eq_of_builtIn (hloader : c.resolve? s.loaderName = none)
    (hhandler : c.resolve? s.route.handler = none) (hoverride : c.override? s.kind = none) :
    ∃ back, c.steps s = c.stepsBeforeLoader s ++ .loadFactory (c.bindOf s) ::
      (c.stepsBeforeMain s ++ .default s.kind (c.bindOf s) :: back) := by
  have hsteps := c.steps_eq s
  rw [stepsAfterLoader, loaderStep_of_none hloader, mainStep_of_none hhandler hoverride] at hsteps
  exact ⟨_, hsteps⟩

end Compiler

/-- Assumes: a selected route that names a factory, or else its schema does, with the built-in
loader and the built-in handler. It compiles, and these two are among its steps. Of every request
that reaches the loader without a factory, the loader stores one and lets the request go on: the
factory registered under the name as it is written, and then nothing else is changed, or else the
default one of the id, which is kept. The handler finds the factory that the loader stored, and
builds none, unless the handler between them put another one in its place; without that handler
nothing comes between them. Only where no factory is registered under the name, none is kept for
the id, and the building of one panics, does the loader panic instead. -/
theorem named_factory_found_as_written {c : Compiler σ} {source : Source σ}
    {schemaId routeId : String} {s : Selection σ} {name : String}
    (hselect : select source schemaId routeId = .ok s) (hname : s.factoryName = some name)
    (hloader : c.resolve? s.loaderName = none) (hhandler : c.resolve? s.route.handler = none)
    (hoverride : c.override? s.kind = none) :
    ∃ r, c.compile source schemaId routeId = .ok r ∧
      (∃ back, r.pipeline.steps = c.stepsBeforeLoader s ++ .loadFactory r.bind ::
        (c.stepsBeforeMain s ++ .default s.kind r.bind :: back)) ∧
      ∀ (shared : Shared σ) (request : Request (Factory σ)) (left : State σ),
        r.LeadsTo shared request (c.stepsBeforeLoader s) left →
        left.request.context.factory = none →
        (∃ f t, r.LeadsTo shared request (c.stepsBeforeLoader s ++ [.loadFactory r.bind]) t ∧
          t.request.context.factory = some f ∧
          (∀ g, c.services.factories.get? name = some g → f = g ∧ t = Step.withFactory left g) ∧
          (c.services.factories.get? name = none → Keyed.find? s.id t.defaults = some f) ∧
          ∀ u, r.LeadsTo shared request
              (c.stepsBeforeLoader s ++ .loadFactory r.bind :: c.stepsBeforeMain s) u →
            (c.resolve? s.route.postValidation = none → u = t) ∧
            (u.request.context.factory = some f →
              Step.resolveFactory r.bind u = (.made f, u))) ∨
        c.services.factories.get? name = none ∧ Keyed.find? s.id left.defaults = none ∧
          ∃ message t,
            (c.services.factories.builder s.id r.bind.model left.app).1 = .panicked message ∧
            (Step.loadFactory r.bind).run left = (.panic message, t) := by
  refine ⟨c.assemble s, by rw [Compiler.compile, hselect]; rfl,
    Compiler.exists_steps_eq_of_builtIn hloader hhandler hoverride,
    fun shared request left hleft hcontext ↦ ?_⟩
  let x : Resolution σ := ⟨c.bindOf s, left⟩
  have hneeds (hnone : c.services.factories.get? name = none) : x.NeedsDefault := by
    refine ⟨hcontext, fun other hother ↦ ?_⟩
    have hsame : some name = some other := hname.symm.trans hother
    cases hsame
    exact hnone
  have hnamed {g : Factory σ} (hg : c.services.factories.get? name = some g) :
      Step.resolveFactory x.bind x.on = (.made g, left) :=
    Resolution.resolveFactory_of_named hcontext hname hg
  cases hfound : x.found with
  | made f =>
    have hleads := hleft.snoc (Step.run_of_made hfound).1
    refine .inl ⟨f, _, hleads, rfl, fun g hg ↦ ?_, fun hnone ↦ ?_,
      fun u hu ↦ ⟨fun hpost ↦ ?_, fun hstored ↦ ?_⟩⟩
    · rw [Resolution.found, hnamed hg] at hfound
      cases hfound
      rw [Resolution.left, hnamed hg]
      exact ⟨rfl, rfl⟩
    · have hkept := x.foundBy
      rw [hfound] at hkept
      exact hkept.find?_of_needsDefault (hneeds hnone)
    · have hnil : c.stepsBeforeMain s = [] := by
        rw [Compiler.stepsBeforeMain, Compiler.namedStep_of_none hpost, Option.toList_none]
      rw [hnil] at hu
      exact CompiledRoute.leadsTo_unique hleads hu
    · exact Resolution.resolveFactory_of_context (x := ⟨c.bindOf s, u⟩) hstored
  | panicked message =>
    have hnone : c.services.factories.get? name = none := by
      cases hget : c.services.factories.get? name with
      | none => rfl
      | some g =>
        rw [Resolution.found, hnamed hget] at hfound
        cases hfound
    have hasked := x.foundBy
    rw [hfound] at hasked
    generalize x.left = after at hasked
    cases hasked with
    | unbuilt _ hkept hbuilder =>
      exact .inr ⟨hnone, hkept, message, _, congrArg Prod.fst hbuilder,
        (Step.run_of_panicked hfound).1⟩

/-- A factory that has every item. -/
def teamFactory : Factory Unit :=
  { (Factory.base : Factory Unit) with get := fun _ app ↦ (.ok .null, app) }

/-- A compiler that knows that factory by a name. -/
def teamedCompiler : Compiler Unit :=
  .new ⟨[]⟩ (.new (Services.baseRegistry.register "team" teamFactory))

/-- A schema of lamps that names a factory. -/
def lampsOf (factory : String) : Definition Unit :=
  { (Settings.empty : Definition Unit) with
    path := some "/lamps"
    useFactory := some factory
    routes := [("get", .empty)] }

/-- The route, selected from the schema. -/
def lampOf (factory : String) : Selection Unit :=
  ⟨"lamps", "get", lampsOf factory, .empty, .get⟩

/-- The team's factory is stored for lamps, and no default factory is kept. -/
theorem team_stored_for_lamps :
    select (.single (lampsOf "team")) "lamps" "get" = .ok (lampOf "team") ∧
    ∃ r t, teamedCompiler.compile (.single (lampsOf "team")) "lamps" "get" = .ok r ∧
      r.LeadsTo ⟨(), [], []⟩ (.new .get "/lamps")
        (teamedCompiler.stepsBeforeLoader (lampOf "team") ++ [.loadFactory r.bind]) t ∧
      t.request.context.factory = some teamFactory ∧ t.defaults = [] ∧
      Step.resolveFactory r.bind t = (.made teamFactory, t) := by
  have hselect : select (.single (lampsOf "team")) "lamps" "get" = .ok (lampOf "team") := rfl
  have hcompile : teamedCompiler.compile (.single (lampsOf "team")) "lamps" "get" =
      .ok (teamedCompiler.assemble (lampOf "team")) := rfl
  obtain ⟨r, hr, -, hserve⟩ :=
    @named_factory_found_as_written Unit teamedCompiler _ _ _ _ "team" hselect rfl rfl rfl rfl
  cases hcompile.symm.trans hr
  obtain ⟨left, hleft, hcontext, hdefaults⟩ : ∃ left : State Unit,
      (teamedCompiler.assemble (lampOf "team")).LeadsTo ⟨(), [], []⟩ (.new .get "/lamps")
        (teamedCompiler.stepsBeforeLoader (lampOf "team")) left ∧
      left.request.context.factory = none ∧ left.defaults = [] :=
    ⟨_, ⟨_, rfl, .cons rfl (.nil _)⟩, rfl, rfl⟩
  obtain ⟨f, t, ht, hstored, hregistered, -, hafter⟩ :=
    (hserve _ _ left hleft hcontext).resolve_right fun hpanics ↦ by cases hpanics.1
  obtain ⟨rfl, rfl⟩ := hregistered teamFactory rfl
  exact ⟨hselect, _, _, hr, ht, hstored, hdefaults, (hafter _ ht).2 hstored⟩

/-- It is not so that the built-in loader always stores the factory that is registered under the
name of a route without the white space around it. -/
theorem padded_name_misses_factory :
    ¬ ∀ (c : Compiler Unit) (source : Source Unit) (schemaId routeId : String)
      (s : Selection Unit) (r : CompiledRoute Unit) (name : String) (f : Factory Unit),
      select source schemaId routeId = .ok s → c.compile source schemaId routeId = .ok r →
      s.factoryName = some name → c.services.factories.get? (Text.trim name) = some f →
      c.IsBuiltIn s → ∀ (shared : Shared Unit) (request : Request (Factory Unit)) (t : State Unit),
        request.context.factory = none →
        r.LeadsTo shared request (c.stepsBeforeLoader s ++ [.loadFactory r.bind]) t →
        t.request.context.factory = some f := by
  intro h
  have hstored := h teamedCompiler (.single (lampsOf " team ")) "lamps" "get" (lampOf " team ") _
    " team " teamFactory rfl rfl rfl rfl ⟨rfl, rfl, rfl, rfl⟩ ⟨(), [], []⟩ (.new .get "/lamps") _
    rfl ⟨_, rfl, .cons rfl (.cons rfl (.nil _))⟩
  -- The default factory was stored, and it has no items.
  have hget := congrArg (fun f : Factory Unit ↦ (f.get ⟨.empty, [], .null, none⟩ ()).1)
    (Option.some.inj hstored)
  cases hget

end Schema

end SchemaRouting
