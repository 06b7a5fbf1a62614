import SchemaRouting.Proofs.Route.Serving
import SchemaRouting.Proofs.Pipeline.Calls
import SchemaRouting.Proofs.Pipeline.Validation
import SchemaRouting.Proofs.Schema.Layout

/-!
# Factories are called with validated bodies

A route with a validator for its body, the built-in loader and the built-in handler runs its
validations right after the middlewares (`Compiler.steps_of_builtIn`). They let a request go on
exactly if its header fields and its body pass (`Selection.proceeds_validationSteps_iff`), and what
comes after them leaves the body as it is up to the last call of a factory
(`Compiler.mem_calls_builtInSteps`). So every call that is not a middleware's own is told a body
that passed, and where one of the validations fails there is no such call and the answer is that of
the validation. No other calls are made than these: any factory that does the same when so called
may be lent to the handler (`Compiler.lentSteps`) in place of the one that was loaded, and the
answer is the same (`Compiler.handle_lentSteps`, `factory_called_with_validated_body`).
-/

set_option autoImplicit false
set_option relaxedAutoImplicit false

namespace SchemaRouting

open Dispatch (State Proceeds StopsAt)

variable {σ : Type}

/-! ### Steps and calls of a route that serves a request -/

namespace CompiledRoute

variable (r : CompiledRoute σ) (shared : Shared σ) (request : Request (Factory σ))

/-- The route accepts a request and its first steps lead to a state. -/
def LeadsTo (steps : List (Step σ)) (left : State σ) : Prop :=
  ∃ params, r.accept request = .ok params ∧ Proceeds steps (r.start shared request params) left

/-- The calls of factories that the first steps of a route make while it serves a request. -/
def methodCalls (steps : List (Step σ)) : List MethodCall :=
  match r.accept request with
  | .ok params => Dispatch.calls steps (r.start shared request params)
  | .error _ => []

variable {r shared request}

theorem methodCalls_append_of_leadsTo {front : List (Step σ)} {left : State σ}
    (h : r.LeadsTo shared request front left) (back : List (Step σ)) :
    r.methodCalls shared request (front ++ back) =
      r.methodCalls shared request front ++ Dispatch.calls back left := by
  obtain ⟨params, haccept, hfront⟩ := h
  rw [methodCalls, methodCalls, haccept]
  exact Dispatch.calls_append_of_proceeds hfront back

theorem methodCalls_append_of_not_leadsTo {front : List (Step σ)}
    (h : ¬ ∃ left, r.LeadsTo shared request front left) (back : List (Step σ)) :
    r.methodCalls shared request (front ++ back) = r.methodCalls shared request front := by
  rw [methodCalls, methodCalls]
  cases haccept : r.accept request with
  | error e => rfl
  | ok params =>
    exact Dispatch.calls_append_of_not_proceeds
      (fun ⟨left, hfront⟩ ↦ h ⟨left, params, haccept, hfront⟩) back

theorem leadsTo_unique {steps : List (Step σ)} {left left' : State σ}
    (h : r.LeadsTo shared request steps left) (h' : r.LeadsTo shared request steps left') :
    left' = left := by
  obtain ⟨params, haccept, hsteps⟩ := h
  obtain ⟨params', haccept', hsteps'⟩ := h'
  rw [haccept] at haccept'
  cases haccept'
  have hrun := Dispatch.runSteps_of_proceeds hsteps
  rw [Dispatch.runSteps_of_proceeds hsteps'] at hrun
  exact (Prod.mk.inj hrun).2

theorem exists_of_leadsTo_append {front back : List (Step σ)} {t : State σ}
    (h : r.LeadsTo shared request (front ++ back) t) :
    ∃ left, r.LeadsTo shared request front left ∧ Proceeds back left t := by
  obtain ⟨params, haccept, hsteps⟩ := h
  obtain ⟨left, hfront, hback⟩ := Dispatch.proceeds_append_iff.mp hsteps
  exact ⟨left, ⟨params, haccept, hfront⟩, hback⟩

/-- Assumes: the first steps of the route lead to a state from which the next steps halt. The run
halts there, and the answer is the response that the halting step left. -/
theorem handle_of_halts {front back : List (Step σ)} (hsteps : r.pipeline.steps = front ++ back)
    {left t : State σ} {name : String} (hfront : r.LeadsTo shared request front left)
    (hback : Dispatch.runSteps back left = (.halted name, t)) :
    (r.run (.ofRequest shared request)).1 = .ok (.halted name) ∧
      (r.handle shared request).1 = t.response := by
  obtain ⟨params, haccept, hproceeds⟩ := hfront
  have hdispatch : Dispatch.runSteps r.pipeline.steps (r.start shared request params) =
      (.halted name, t) := by
    rw [hsteps, Dispatch.runSteps_append_of_proceeds hproceeds, hback]
  rw [handle, run_of_accept haccept, hdispatch]
  exact ⟨rfl, rfl⟩

end CompiledRoute

namespace Schema

/-! ### The validations of a route -/

/-- The header fields pass the validation that a route asks for, if it asks for one. -/
def Selection.AcceptsHeaders (s : Selection σ) (left : State σ) : Prop :=
  ∀ check, s.route.headerValidation = some check →
    ∃ fields, check .lenient left.request.headersJson = .ok fields

/-- A validation of a route fails, that of the header fields or else that of the body: the step
that halts, and the body of its answer. -/
inductive Selection.Rejects (s : Selection σ) (left : State σ) : String → Json → Prop
  | headers {check : Validator} {e : ValidationError} :
    s.route.headerValidation = some check →
      check .lenient left.request.headersJson = .error e →
      Rejects s left "validate_headers" Step.headersRejection
  | body {check : Validator} {e : ValidationError} :
    s.AcceptsHeaders left → s.route.validation = some check →
      check .strict left.request.body = .error e →
      Rejects s left "validate_body" (Step.bodyRejection e)

/-- The steps of the header validation lead on exactly if the header fields pass. -/
theorem Selection.proceeds_validateHeaders_iff {s : Selection σ} {left t : State σ} :
    Proceeds (s.route.headerValidation.map Step.validateHeaders).toList left t ↔
      s.AcceptsHeaders left ∧ t = left := by
  rw [Selection.AcceptsHeaders]
  cases s.route.headerValidation with
  | none =>
    rw [Option.map_none, Option.toList_none, Dispatch.proceeds_nil_iff]
    exact ⟨fun ht ↦ ⟨nofun, ht⟩, fun ⟨_, ht⟩ ↦ ht⟩
  | some check =>
    rw [Option.map_some, Option.toList_some, Dispatch.proceeds_cons_iff]
    constructor
    · rintro ⟨t', hstep, hrest⟩
      obtain ⟨hfields, rfl⟩ := Step.runValidateHeaders_eq_proceed_iff.mp hstep
      refine ⟨fun check' hcheck ↦ ?_, Dispatch.proceeds_nil_iff.mp hrest⟩
      cases hcheck
      exact hfields
    · rintro ⟨haccepts, rfl⟩
      exact ⟨t, Step.runValidateHeaders_eq_proceed_iff.mpr ⟨haccepts check rfl, rfl⟩, .nil t⟩

theorem Selection.proceeds_validationSteps_iff {s : Selection σ} {check : Validator}
    (hcheck : s.route.validation = some check) {left t : State σ} :
    Proceeds s.validationSteps left t ↔ s.AcceptsHeaders left ∧
      ∃ body, check .strict left.request.body = .ok body ∧
        t = left.withRequest { left.request with body } := by
  rw [Selection.validationSteps, Dispatch.proceeds_append_iff, hcheck, Option.map_some,
    Option.toList_some]
  constructor
  · rintro ⟨t', hheaders, hbody⟩
    obtain ⟨haccepts, rfl⟩ := Selection.proceeds_validateHeaders_iff.mp hheaders
    obtain ⟨u, hstep, hrest⟩ := Dispatch.proceeds_cons_iff.mp hbody
    rw [Dispatch.proceeds_nil_iff.mp hrest]
    exact ⟨haccepts, Step.runValidateBody_eq_proceed_iff.mp hstep⟩
  · rintro ⟨haccepts, hbody⟩
    exact ⟨left, Selection.proceeds_validateHeaders_iff.mpr ⟨haccepts, rfl⟩,
      .cons (Step.runValidateBody_eq_proceed_iff.mpr hbody) (.nil t)⟩

/-- Where a validation fails, a run of the validations and of any steps after them halts at it with
a bad-request answer. -/
theorem Selection.Rejects.runSteps_validationSteps {s : Selection σ} {left : State σ}
    {name : String} {answer : Json} (h : s.Rejects left name answer) (back : List (Step σ)) :
    ∃ t, Dispatch.runSteps (s.validationSteps ++ back) left = (.halted name, t) ∧
      t.response = { left.response with status := .badRequest, body := some answer } := by
  cases h with
  | @headers check e hcheck herror =>
    obtain ⟨t, hrun, hresponse⟩ := Step.runValidateHeaders_of_error herror
    refine ⟨t, ?_, hresponse⟩
    rw [Selection.validationSteps, hcheck]
    exact Dispatch.runSteps_of_endsAt hrun .halt _
  | @body check e haccepts hcheck herror =>
    obtain ⟨t, hrun, hresponse⟩ := Step.runValidateBody_of_error herror
    refine ⟨t, ?_, hresponse⟩
    have hheaders : Proceeds (s.route.headerValidation.map Step.validateHeaders).toList left left :=
      Selection.proceeds_validateHeaders_iff.mpr ⟨haccepts, rfl⟩
    rw [Selection.validationSteps, hcheck, List.append_assoc,
      Dispatch.runSteps_append_of_proceeds hheaders]
    exact Dispatch.runSteps_of_endsAt hrun .halt _

theorem Selection.Rejects.not_proceeds {s : Selection σ} {left : State σ} {name : String}
    {answer : Json} (h : s.Rejects left name answer) :
    ¬ ∃ t, Proceeds s.validationSteps left t := by
  rintro ⟨t, hproceeds⟩
  obtain ⟨t', hrun, -⟩ := h.runSteps_validationSteps []
  rw [Dispatch.runSteps_append_of_proceeds hproceeds] at hrun
  cases hrun

theorem Selection.calls_validationSteps (s : Selection σ) (left : State σ) :
    Dispatch.calls s.validationSteps left = [] := by
  refine Dispatch.calls_eq_nil (fun step hstep t ↦ ?_) left
  rcases List.mem_append.mp hstep with hheaders | hbody
  · obtain ⟨check, -, rfl⟩ := Option.map_eq_some_iff.mp (Option.mem_toList.mp hheaders)
    rfl
  · obtain ⟨check, -, rfl⟩ := Option.map_eq_some_iff.mp (Option.mem_toList.mp hbody)
    rfl

/-! ### What follows the validations -/

namespace Compiler

variable {c : Compiler σ} {s : Selection σ}

/-- A route that loads its factory and answers by the built-in steps, with no handler between its
validations and its answer. -/
structure IsBuiltIn (c : Compiler σ) (s : Selection σ) : Prop where
  loader : c.resolve? s.loaderName = none
  postValidation : c.resolve? s.route.postValidation = none
  handler : c.resolve? s.route.handler = none
  override : c.override? s.kind = none

/-- The steps after the validations of such a route. -/
def builtInSteps (c : Compiler σ) (s : Selection σ) : List (Step σ) :=
  [.loadPrincipal c.services.principals, .loadFactory (c.bindOf s)] ++
    .default s.kind (c.bindOf s) ::
      (c.namedStep (c.bindOf s) "post_handler" s.route.postHandler).toList

theorem steps_of_builtIn (h : c.IsBuiltIn s) :
    c.steps s = c.middlewareSteps s ++ (s.validationSteps ++ c.builtInSteps s) := by
  rw [steps_eq, stepsBeforeLoader, stepsAfterLoader, builtInSteps, loaderStep_of_none h.loader,
    namedStep_of_none h.postValidation, mainStep_of_none h.handler h.override,
    List.append_assoc, List.append_assoc]
  rfl

/-- The steps of such a route up to the one that loads the factory. -/
def loadingSteps (c : Compiler σ) (s : Selection σ) : List (Step σ) :=
  c.stepsBeforeLoader s ++ [.loadFactory (c.bindOf s)]

/-- The steps of such a route where another factory is lent to the handler of its operation, after
which the one that was loaded is given back. -/
def lentSteps (c : Compiler σ) (s : Selection σ) (loaded lent : Factory σ) : List (Step σ) :=
  c.loadingSteps s ++ .lend lent :: .default s.kind (c.bindOf s) :: .lend loaded ::
    (c.namedStep (c.bindOf s) "post_handler" s.route.postHandler).toList

theorem loadingSteps_eq (c : Compiler σ) (s : Selection σ) : c.loadingSteps s =
    c.middlewareSteps s ++ (s.validationSteps ++
      [.loadPrincipal c.services.principals, .loadFactory (c.bindOf s)]) := by
  rw [loadingSteps, stepsBeforeLoader, List.append_assoc, List.append_assoc]
  rfl

theorem steps_eq_loadingSteps (h : c.IsBuiltIn s) :
    c.steps s = c.loadingSteps s ++ .default s.kind (c.bindOf s) ::
      (c.namedStep (c.bindOf s) "post_handler" s.route.postHandler).toList := by
  rw [steps_of_builtIn h, loadingSteps_eq, builtInSteps]
  simp only [List.append_assoc]

/-- The steps after the validations tell factories the body that the validations left. -/
theorem mem_calls_builtInSteps {t : State σ} {m : MethodCall}
    (hm : m ∈ Dispatch.calls (c.builtInSteps s) t) : m.told.body = t.request.body := by
  refine Dispatch.mem_calls_body (fun step hstep u ↦ ?_) (fun step hstep u ↦ ?_) hm
  · rcases List.mem_cons.mp hstep with rfl | hrest
    · exact Step.runLoadPrincipal_body _ u
    · rw [List.mem_singleton.mp hrest]
      exact Step.runLoadFactory_body _ u
  · obtain ⟨handler, -, rfl⟩ := Option.map_eq_some_iff.mp (Option.mem_toList.mp hstep)
    rfl

/-- The calls of a route after its middlewares, on what these left: each is told the body that the
validation returned, and only where the header fields passed. -/
theorem mem_calls_after_middlewares {check : Validator} (hcheck : s.route.validation = some check)
    {left : State σ} {m : MethodCall}
    (hm : m ∈ Dispatch.calls (s.validationSteps ++ c.builtInSteps s) left) :
    s.AcceptsHeaders left ∧
      ∃ body, check .strict left.request.body = .ok body ∧ m.told.body = body := by
  by_cases hvalid : ∃ t, Proceeds s.validationSteps left t
  · obtain ⟨t, hproceeds⟩ := hvalid
    rw [Dispatch.calls_append_of_proceeds hproceeds, s.calls_validationSteps, List.nil_append] at hm
    obtain ⟨haccepts, body, hbody, rfl⟩ :=
      (Selection.proceeds_validationSteps_iff hcheck).mp hproceeds
    exact ⟨haccepts, body, hbody, mem_calls_builtInSteps hm⟩
  · rw [Dispatch.calls_append_of_not_proceeds hvalid, s.calls_validationSteps] at hm
    cases hm

/-- The handler of the operation makes its calls after those of the middlewares. -/
theorem mem_calls_of_mem_defaultCalls {left t : State σ} {m : MethodCall}
    (hload : Proceeds (s.validationSteps ++
      [.loadPrincipal c.services.principals, .loadFactory (c.bindOf s)]) left t)
    (hm : m ∈ Step.defaultCalls s.kind (c.bindOf s) t) :
    m ∈ Dispatch.calls (s.validationSteps ++ c.builtInSteps s) left := by
  rw [builtInSteps, ← List.append_assoc, Dispatch.calls_append_of_proceeds hload]
  exact List.mem_append_right _ (Dispatch.mem_calls_cons_iff.mpr (.inl hm))

/-- Assumes: a factory in the context of the request, and one that agrees with it on the calls that
the handler of an operation makes. Lent for that handler, the other lets the steps end alike. -/
theorem runSteps_lent {f g : Factory σ} {kind : OperationKind} {bind : Bind σ} {t : State σ}
    (hf : t.request.context.factory = some f)
    (h : ∀ m ∈ Step.defaultCalls kind bind t, f.AgreesOn g m) (back : List (Step σ)) :
    CompiledRoute.EndAlike
      (Dispatch.runSteps (.lend g :: .default kind bind :: .lend f :: back) t)
      (Dispatch.runSteps (.default kind bind :: back) t) := by
  rcases hrun : (Step.default kind bind).run t with ⟨verdict, u⟩
  obtain ⟨hlent, hback⟩ := Step.runDefault_lent hf h hrun
  have hlent' : (Step.default kind bind).run (Step.withFactory t g) =
      (verdict, Step.withFactory u g) := hlent
  rw [Dispatch.runSteps, Step.run_lend, Dispatch.runSteps, hrun]
  dsimp only
  rw [Dispatch.runSteps, hlent']
  cases verdict with
  | proceed =>
    dsimp only
    rw [Dispatch.runSteps, Step.run_lend, hback]
    exact ⟨rfl, rfl, rfl⟩
  | halt => exact ⟨rfl, rfl, rfl⟩
  | fail e => exact ⟨rfl, rfl, rfl⟩
  | panic message => exact ⟨rfl, rfl, rfl⟩

/-- Assumes: a route of built-in steps, the factory that it loads for a request, and another that
agrees with it on the calls that its handler makes. Lent to the handler, the other makes no
difference. -/
theorem handle_lentSteps (hbuiltIn : c.IsBuiltIn s) {shared : Shared σ}
    {request : Request (Factory σ)} {f g : Factory σ}
    (h : ∀ t, (c.assemble s).LeadsTo shared request (c.loadingSteps s) t →
      t.request.context.factory = some f ∧
        ∀ m ∈ Step.defaultCalls s.kind (c.bindOf s) t, f.AgreesOn g m) :
    ((c.assemble s).withSteps (c.lentSteps s f g)).handle shared request =
      (c.assemble s).handle shared request := by
  refine CompiledRoute.handle_withSteps fun params haccept ↦ ?_
  have hsteps : (c.assemble s).pipeline.steps = c.steps s := rfl
  rw [hsteps, steps_eq_loadingSteps hbuiltIn, lentSteps]
  generalize hstart : (c.assemble s).start shared request params = start
  by_cases hloads : ∃ t, Proceeds (c.loadingSteps s) start t
  · obtain ⟨t, hload⟩ := hloads
    obtain ⟨hf, hagrees⟩ := h t ⟨params, haccept, hstart ▸ hload⟩
    rw [Dispatch.runSteps_append_of_proceeds hload, Dispatch.runSteps_append_of_proceeds hload]
    exact runSteps_lent hf hagrees _
  · rw [Dispatch.runSteps_append_of_not_proceeds hloads,
      Dispatch.runSteps_append_of_not_proceeds hloads]
    exact ⟨rfl, rfl, rfl⟩

end Compiler

/-- Assumes: a selected route that validates its body and is otherwise served by the built-in
steps. It compiles, and of every request it serves the calls of factories are those of the
middlewares and then its handler's own. Each of these is told the body that the validation returned
for the body the middlewares left, and is made only where the header fields passed. Where one of
the validations fails on what the middlewares left, the handler makes no call, the run halts at
that validation, and the answer has the status of a bad request and the body of that validation,
whatever status and body were written before. These calls are all that the handler does with the
factory: lent another that does the same when so called, in place of the one that was loaded, the
route answers the request in the same way and leaves the same behind. -/
theorem factory_called_with_validated_body {c : Compiler σ} {source : Source σ}
    {schemaId routeId : String} {s : Selection σ} {check : Validator}
    (hselect : select source schemaId routeId = .ok s)
    (hcheck : s.route.validation = some check) (hbuiltIn : c.IsBuiltIn s) :
    ∃ r, c.compile source schemaId routeId = .ok r ∧
      ∀ (shared : Shared σ) (request : Request (Factory σ)), ∃ own,
        r.methodCalls shared request r.pipeline.steps =
          r.methodCalls shared request (c.middlewareSteps s) ++ own ∧
        (∀ m ∈ own, ∃ left body, r.LeadsTo shared request (c.middlewareSteps s) left ∧
          s.AcceptsHeaders left ∧ check .strict left.request.body = .ok body ∧
          m.told.body = body) ∧
        (∀ left name answer, r.LeadsTo shared request (c.middlewareSteps s) left →
          s.Rejects left name answer →
          own = [] ∧ (r.run (.ofRequest shared request)).1 = .ok (.halted name) ∧
          (r.handle shared request).1 =
            { left.response with status := .badRequest, body := some answer }) ∧
        ∀ loaded lent : Factory σ,
          (∀ t, r.LeadsTo shared request (c.loadingSteps s) t →
            t.request.context.factory = some loaded) →
          (∀ m ∈ own, loaded.AgreesOn lent m) →
          (r.withSteps (c.lentSteps s loaded lent)).handle shared request =
            r.handle shared request := by
  refine ⟨c.assemble s, by rw [Compiler.compile, hselect]; rfl, fun shared request ↦ ?_⟩
  have hsteps : (c.assemble s).pipeline.steps =
      c.middlewareSteps s ++ (s.validationSteps ++ c.builtInSteps s) :=
    Compiler.steps_of_builtIn hbuiltIn
  by_cases hleads : ∃ left, (c.assemble s).LeadsTo shared request (c.middlewareSteps s) left
  · obtain ⟨left, hleft⟩ := hleads
    refine ⟨Dispatch.calls (s.validationSteps ++ c.builtInSteps s) left, ?_, ?_, ?_, ?_⟩
    · rw [hsteps, CompiledRoute.methodCalls_append_of_leadsTo hleft]
    · intro m hm
      obtain ⟨haccepts, body, hbody, htold⟩ := Compiler.mem_calls_after_middlewares hcheck hm
      exact ⟨left, body, hleft, haccepts, hbody, htold⟩
    · intro left' name answer hleft' hrejects
      cases CompiledRoute.leadsTo_unique hleft hleft'
      obtain ⟨t, hrun, hresponse⟩ := hrejects.runSteps_validationSteps (c.builtInSteps s)
      obtain ⟨houtcome, hanswer⟩ := CompiledRoute.handle_of_halts hsteps hleft hrun
      refine ⟨?_, houtcome, hanswer.trans hresponse⟩
      rw [Dispatch.calls_append_of_not_proceeds hrejects.not_proceeds, s.calls_validationSteps]
    · intro loaded lent hloaded hagrees
      refine Compiler.handle_lentSteps hbuiltIn fun t ht ↦ ⟨hloaded t ht, fun m hm ↦ ?_⟩
      obtain ⟨left', hleft', hload⟩ :=
        CompiledRoute.exists_of_leadsTo_append (c.loadingSteps_eq s ▸ ht)
      cases CompiledRoute.leadsTo_unique hleft hleft'
      exact hagrees m (Compiler.mem_calls_of_mem_defaultCalls hload hm)
  · refine ⟨[], ?_, ?_, ?_, ?_⟩
    · rw [hsteps, CompiledRoute.methodCalls_append_of_not_leadsTo hleads, List.append_nil]
    · intro m hm
      cases hm
    · intro left name answer hleft
      exact absurd ⟨left, hleft⟩ hleads
    · intro loaded lent _ _
      refine Compiler.handle_lentSteps hbuiltIn fun t ht ↦ ?_
      obtain ⟨left, hleft, -⟩ := CompiledRoute.exists_of_leadsTo_append (c.loadingSteps_eq s ▸ ht)
      exact absurd ⟨left, hleft⟩ hleads

/-- The settings of a route that asks for a key in the header fields and a name in the body. -/
def keyedPost : RouteDefinition Unit :=
  { (RouteSettings.empty : RouteDefinition Unit) with
    headerValidation := some (Rule.object [("x-key", Rule.string.asRequired)]).validate
    validation := some (Rule.object [("name", Rule.string.trimmed.asRequired)]).validate }

/-- A schema with that route and a middleware that drafts an answer. -/
def keyedLamps : Definition Unit :=
  { (Settings.empty : Definition Unit) with
    path := some "/lamps"
    middlewares := [.step (.direct "draft" fun x ↦
      (.proceed, { x with response := (x.response.withStatus .created).withJson .null }))]
    routes := [("post", .route keyedPost)] }

/-- The route, selected from the schema. -/
def keyedSelection : Selection Unit := ⟨"lamps", "post", keyedLamps, keyedPost, .post⟩

/-- A compiler that knows no handlers. -/
def plainCompiler : Compiler Unit := .new ⟨[]⟩ (.new Services.baseRegistry)

def newLamp (body : Json) : Request (Factory Unit) :=
  let empty : Request (Factory Unit) := .new .post "/lamps"
  { (empty.withHeader "content-type" "application/json").withHeader "x-key" "k" with body }

/-- A factory that is fit for no more than one lamp, which it makes as the base factory does. -/
def oneLampFactory : Factory Unit :=
  { (Factory.base : Factory Unit) with
    create := fun call app ↦
      match call.body with
      | .object [(_, .string "lamp")] => Action.notImplemented .create app
      | _ => (.panic "no such lamp", app) }

/-- A named lamp reaches the factory with its name trimmed, and no more is asked of the factory. One
without a name is answered with the error of its body, and the drafted answer is gone. -/
theorem lamps_validated_before_calls :
    plainCompiler.IsBuiltIn keyedSelection ∧
    ∃ r, plainCompiler.compile (.single keyedLamps) "lamps" "post" = .ok r ∧
      (∃ (left : State Unit) (m : MethodCall),
        m ∈ r.methodCalls ⟨(), [], []⟩ (newLamp (.object [("name", .string " lamp ")]))
          r.pipeline.steps ∧
        (Rule.object [("name", Rule.string.trimmed.asRequired)]).validate .strict
          left.request.body = .ok m.told.body ∧
        m.told.body = .object [("name", .string "lamp")]) ∧
      (r.withSteps (plainCompiler.lentSteps keyedSelection .base oneLampFactory)).handle
          ⟨(), [], []⟩ (newLamp (.object [("name", .string " lamp ")])) =
        r.handle ⟨(), [], []⟩ (newLamp (.object [("name", .string " lamp ")])) ∧
      (r.handle ⟨(), [], []⟩ (newLamp (.object []))).1.status = .badRequest ∧
      (r.handle ⟨(), [], []⟩ (newLamp (.object []))).1.body =
        some (Step.bodyRejection ⟨"$.name", .required⟩) := by
  have hselect : select (.single keyedLamps) "lamps" "post" = .ok keyedSelection := rfl
  have hbuiltIn : plainCompiler.IsBuiltIn keyedSelection := ⟨rfl, rfl, rfl, rfl⟩
  obtain ⟨r, hcompile, hserve⟩ := factory_called_with_validated_body hselect rfl hbuiltIn
  have hr : r = plainCompiler.assemble keyedSelection := by
    rw [Compiler.compile, hselect] at hcompile
    exact (Except.ok.inj hcompile).symm
  subst hr
  refine ⟨hbuiltIn, _, hcompile, ?_, ?_, ?_⟩
  · obtain ⟨own, hown, htold, -, -⟩ :=
      hserve ⟨(), [], []⟩ (newLamp (.object [("name", .string " lamp ")]))
    have hcreate : [.canonical .create ⟨.empty, [], .object [("name", .string "lamp")], none⟩] =
        own := hown
    have hm : .canonical .create ⟨.empty, [], .object [("name", .string "lamp")], none⟩ ∈ own := by
      rw [← hcreate]
      exact List.mem_singleton_self _
    obtain ⟨left, body, -, -, hbody, rfl⟩ := htold _ hm
    refine ⟨left, _, ?_, hbody, rfl⟩
    rw [hown]
    exact hm
  · obtain ⟨own, hown, -, -, hlent⟩ :=
      hserve ⟨(), [], []⟩ (newLamp (.object [("name", .string " lamp ")]))
    have hcreate : [.canonical .create ⟨.empty, [], .object [("name", .string "lamp")], none⟩] =
        own := hown
    refine hlent .base oneLampFactory (fun t ht ↦ ?_) (fun m hm ↦ ?_)
    · obtain ⟨loaded, hloaded, hfactory⟩ : ∃ loaded,
          (plainCompiler.assemble keyedSelection).LeadsTo ⟨(), [], []⟩
            (newLamp (.object [("name", .string " lamp ")]))
            (plainCompiler.loadingSteps keyedSelection) loaded ∧
          loaded.request.context.factory = some .base :=
        ⟨_, ⟨_, rfl, .cons rfl (.cons rfl (.cons rfl (.cons rfl (.cons rfl (.nil _)))))⟩, rfl⟩
      rw [CompiledRoute.leadsTo_unique hloaded ht]
      exact hfactory
    · rw [← hcreate] at hm
      rw [List.mem_singleton.mp hm]
      rfl
  · obtain ⟨own, -, -, hreject, -⟩ := hserve ⟨(), [], []⟩ (newLamp (.object []))
    obtain ⟨left, hleft, hrejects⟩ : ∃ left,
        (plainCompiler.assemble keyedSelection).LeadsTo ⟨(), [], []⟩ (newLamp (.object []))
          (plainCompiler.middlewareSteps keyedSelection) left ∧
        keyedSelection.Rejects left "validate_body"
          (Step.bodyRejection ⟨"$.name", .required⟩) := by
      refine ⟨_, ⟨_, rfl, .cons rfl (.nil _)⟩, .body ?_ rfl rfl⟩
      intro check hcheck
      cases hcheck
      exact ⟨_, rfl⟩
    obtain ⟨-, -, hanswer⟩ := hreject left _ _ hleft hrejects
    rw [hanswer]
    exact ⟨rfl, rfl⟩

end Schema

end SchemaRouting
