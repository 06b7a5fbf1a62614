import Mathlib.Tactic.SplitIfs
import SchemaRouting.Proofs.Pipeline.Run

/-!
# What a pipeline asks of factories

The handler of an operation asks a factory for a method of its own first, where the route names
one, and for the call that the operation stands for unless the factory knows that method
(`Factory.callsFor`). A factory that does the same for these calls may stand in for it
(`Step.runDefault_congr`).
`Dispatch.calls` are the calls of a whole run. What the steps of a run ask comes after what those
before them ask, and only where those let the request proceed (`calls_append_of_proceeds`,
`calls_append_of_not_proceeds`). A call tells the factory the body that the request has when the
handler is reached (`Step.mem_calls_body`).
-/

set_option autoImplicit false
set_option relaxedAutoImplicit false

namespace SchemaRouting

variable {σ : Type}

/-! ### Calls of one factory -/

/-- What a factory is asked for, and what it is told of the request. -/
inductive MethodCall
  | custom (method : String) (operation : FactoryOperation) (call : FactoryCall)
  | canonical (operation : FactoryOperation) (call : FactoryCall)

def MethodCall.told : MethodCall → FactoryCall
  | custom _ _ call => call
  | canonical _ call => call

namespace Factory

/-- The calls that an operation makes of a factory, given the method that the route names. -/
def callsFor (f : Factory σ) (method : Option String) (operation : FactoryOperation)
    (call : FactoryCall) : List MethodCall :=
  match method with
  | none => [.canonical operation call]
  | some name =>
    if name = operation.name then [.canonical operation call]
    else
      match f.custom name operation call with
      | some _ => [.custom name operation call]
      | none => [.custom name operation call, .canonical operation call]

/-- Two factories that do the same when asked for a call. -/
def AgreesOn (f g : Factory σ) : MethodCall → Prop
  | .custom method operation call => f.custom method operation call = g.custom method operation call
  | .canonical operation call => f.canonical operation call = g.canonical operation call

theorem told_of_mem_callsFor {f : Factory σ} {method : Option String}
    {operation : FactoryOperation} {call : FactoryCall} {m : MethodCall}
    (hm : m ∈ f.callsFor method operation call) : m.told = call := by
  cases method with
  | none =>
    rw [List.mem_singleton.mp hm]
    rfl
  | some name =>
    rw [callsFor] at hm
    split_ifs at hm with hname
    · rw [List.mem_singleton.mp hm]
      rfl
    · cases hcustom : f.custom name operation call with
      | some action =>
        rw [hcustom] at hm
        rw [List.mem_singleton.mp hm]
        rfl
      | none =>
        rw [hcustom] at hm
        rcases List.mem_cons.mp hm with rfl | hlast
        · rfl
        · rw [List.mem_singleton.mp hlast]
          rfl

end Factory

namespace Step

open Dispatch

/-- Assumes: two factories that agree on all calls made of the first. They are called with the
same result. -/
theorem callFactory_congr {f g : Factory σ} {bind : Bind σ} {operation : FactoryOperation}
    {call : FactoryCall}
    (h : ∀ m ∈ f.callsFor bind.factoryMethod operation call, f.AgreesOn g m) (s : State σ) :
    callFactory g bind operation call s = callFactory f bind operation call s := by
  have hcanonical (hm : .canonical operation call ∈ f.callsFor bind.factoryMethod operation call)
      (hf : f.override? bind.factoryMethod operation call = none)
      (hg : g.override? bind.factoryMethod operation call = none) :
      callFactory g bind operation call s = callFactory f bind operation call s := by
    have hagree : f.canonical operation call = g.canonical operation call := h _ hm
    rw [callFactory, callFactory, hf, hg, hagree]
  cases hmethod : bind.factoryMethod with
  | none =>
    refine hcanonical ?_ (by rw [hmethod]; rfl) (by rw [hmethod]; rfl)
    rw [hmethod]
    exact List.mem_singleton_self _
  | some name =>
    by_cases hname : name = operation.name
    · refine hcanonical ?_ ?_ ?_
      · rw [hmethod, Factory.callsFor, if_pos hname]
        exact List.mem_singleton_self _
      · rw [hmethod, Factory.override?, if_pos hname]
      · rw [hmethod, Factory.override?, if_pos hname]
    · have hasked : .custom name operation call ∈
          f.callsFor bind.factoryMethod operation call := by
        rw [hmethod, Factory.callsFor, if_neg hname]
        cases f.custom name operation call <;> exact List.mem_cons_self
      have hagree : f.custom name operation call = g.custom name operation call := h _ hasked
      cases hcustom : f.custom name operation call with
      | some action =>
        rw [callFactory, callFactory, hmethod, Factory.override?, Factory.override?, if_neg hname,
          if_neg hname, ← hagree, hcustom]
      | none =>
        refine hcanonical ?_ ?_ ?_
        · rw [hmethod, Factory.callsFor, if_neg hname, hcustom]
          exact List.mem_cons_of_mem _ (List.mem_singleton_self _)
        · rw [hmethod, Factory.override?, if_neg hname, hcustom]
        · rw [hmethod, Factory.override?, if_neg hname, ← hagree, hcustom]

/-- The calls that the handler of an operation makes of the factory that it finds. -/
def defaultCalls (kind : OperationKind) (bind : Bind σ) (s : State σ) : List MethodCall :=
  match resolveFactory bind s with
  | (.made f, t) => f.callsFor bind.factoryMethod kind.factoryOperation (.ofRequest t.request)
  | (.panicked _, _) => []

theorem callFactory_withFactory (f g : Factory σ) (bind : Bind σ) (operation : FactoryOperation)
    (call : FactoryCall) (s : State σ) :
    callFactory f bind operation call (withFactory s g) =
      ((callFactory f bind operation call s).1,
        withFactory (callFactory f bind operation call s).2 g) := by
  unfold callFactory
  cases f.override? bind.factoryMethod operation call <;> rfl

/-- Which factory is in the context of the request makes no difference to a factory that is
called. -/
theorem answerBy_withFactory (f g : Factory σ) (kind : OperationKind) (bind : Bind σ)
    (s : State σ) :
    answerBy f kind bind (withFactory s g) =
      ((answerBy f kind bind s).1, withFactory (answerBy f kind bind s).2 g) := by
  have htold : FactoryCall.ofRequest (withFactory s g).request = .ofRequest s.request := rfl
  rw [answerBy, answerBy, htold, callFactory_withFactory]
  rcases callFactory f bind kind.factoryOperation (.ofRequest s.request) s with ⟨reply, t⟩
  cases reply <;> rfl

/-- Assumes: a factory in the context of the request, and one that agrees with it on the calls
that the handler of an operation makes. With the other in its place the handler does the same. -/
theorem runDefault_congr {f g : Factory σ} {kind : OperationKind} {bind : Bind σ} {s : State σ}
    (hf : s.request.context.factory = some f)
    (h : ∀ m ∈ defaultCalls kind bind s, f.AgreesOn g m) :
    runDefault kind bind (withFactory s g) =
      ((runDefault kind bind s).1, withFactory (runDefault kind bind s).2 g) := by
  have hfound : resolveFactory bind s = (.made f, s) := by rw [resolveFactory, hf]
  have hfound' : resolveFactory bind (withFactory s g) = (.made g, withFactory s g) := rfl
  have hcalls : ∀ m ∈ f.callsFor bind.factoryMethod kind.factoryOperation (.ofRequest s.request),
      f.AgreesOn g m := by
    rw [defaultCalls, hfound] at h
    exact h
  have hanswer : answerBy g kind bind s = answerBy f kind bind s := by
    rw [answerBy, answerBy, callFactory_congr hcalls]
  rw [runDefault, runDefault, hfound, hfound']
  dsimp only
  rw [answerBy_withFactory, hanswer]

/-! A factory that is lent for one step. -/

/-- A step that puts a factory into the context of the request. -/
def lend (f : Factory σ) : Step σ :=
  direct "lend" fun x ↦ (.proceed,
    { x with request :=
      { x.request with context := { x.request.context with factory := some f } } })

theorem run_lend (f : Factory σ) (s : State σ) : (lend f).run s = (.proceed, withFactory s f) := rfl

/-- Assumes: a factory in the context of the request. Put back there, it makes up for another that
was there meanwhile. -/
theorem withFactory_withFactory {f : Factory σ} {s : State σ}
    (hf : s.request.context.factory = some f) (g : Factory σ) :
    withFactory (withFactory s g) f = s := by
  obtain ⟨⟨request, response, app⟩, defaults, notes⟩ := s
  obtain ⟨method, path, params, headers, query, body, session, user, context⟩ := request
  obtain ⟨factory, responseObject, extension⟩ := context
  cases hf
  rfl

/-- A call of a factory changes the application and the notes, and nothing else. -/
theorem exists_callFactory_left (factory : Factory σ) (bind : Bind σ)
    (operation : FactoryOperation) (call : FactoryCall) (s : State σ) :
    ∃ app notes, (callFactory factory bind operation call s).2 = { s with app, notes } := by
  unfold callFactory
  cases factory.override? bind.factoryMethod operation call with
  | some action => exact ⟨(action s.app).2, s.notes, rfl⟩
  | none =>
    exact ⟨(factory.canonical operation call s.app).2, s.notes ++ methodNotes bind operation, rfl⟩

/-- What answers by a factory changes the response and the response object besides. -/
theorem exists_answerBy_left (factory : Factory σ) (kind : OperationKind) (bind : Bind σ)
    (s : State σ) : ∃ app notes response responseObject, (answerBy factory kind bind s).2 =
      { s with
        app, notes, response
        request := { s.request with context := { s.request.context with responseObject } } } := by
  obtain ⟨app, notes, hleft⟩ := exists_callFactory_left factory bind kind.factoryOperation
    (.ofRequest s.request) s
  rw [answerBy]
  generalize callFactory factory bind kind.factoryOperation (.ofRequest s.request) s = called
    at hleft ⊢
  obtain ⟨reply, t⟩ := called
  cases hleft
  cases reply with
  | panic message => exact ⟨app, notes, s.response, s.request.context.responseObject, rfl⟩
  | error e => exact ⟨app, _, _, s.request.context.responseObject, rfl⟩
  | ok output => exact ⟨app, notes, _, some output.toJson, rfl⟩

/-- Assumes: a factory in the context of the request, and one that agrees with it on the calls
that the handler of an operation makes. Lent for that handler, the other makes no difference to
what is done after it. -/
theorem runDefault_lent {f g : Factory σ} {kind : OperationKind} {bind : Bind σ} {s t : State σ}
    {verdict : Verdict} (hf : s.request.context.factory = some f)
    (h : ∀ m ∈ defaultCalls kind bind s, f.AgreesOn g m)
    (hrun : runDefault kind bind s = (verdict, t)) :
    runDefault kind bind (withFactory s g) = (verdict, withFactory t g) ∧
      withFactory (withFactory t g) f = t := by
  have hlent := runDefault_congr hf h
  rw [hrun] at hlent
  refine ⟨hlent, withFactory_withFactory ?_ g⟩
  have hfound : resolveFactory bind s = (.made f, s) := by rw [resolveFactory, hf]
  obtain ⟨app, notes, response, responseObject, hleft⟩ := exists_answerBy_left f kind bind s
  rw [runDefault, hfound] at hrun
  dsimp only at hrun
  rw [hrun] at hleft
  dsimp only at hleft
  rw [hleft]
  exact hf

/-- The calls that a step of the library makes of factories; only the handlers of operations make
any. -/
def calls : Step σ → State σ → List MethodCall
  | default kind bind, s => defaultCalls kind bind s
  | direct .., _ => []
  | bound .., _ => []
  | validateHeaders _, _ => []
  | validateBody _, _ => []
  | loadPrincipal _, _ => []
  | loadFactory _, _ => []

theorem resolveFactory_request (bind : Bind σ) (s : State σ) :
    (resolveFactory bind s).2.request = s.request := by
  unfold resolveFactory
  cases s.request.context.factory with
  | some factory => rfl
  | none =>
    cases bind.factoryName with
    | none => rfl
    | some name =>
      dsimp only
      cases bind.services.factories.get? name <;> rfl

theorem mem_calls_body {step : Step σ} {s : State σ} {m : MethodCall} (hm : m ∈ step.calls s) :
    m.told.body = s.request.body := by
  cases step with
  | default kind bind =>
    have hrequest := resolveFactory_request bind s
    change m ∈ defaultCalls kind bind s at hm
    rw [defaultCalls] at hm
    rcases hfound : resolveFactory bind s with ⟨f | message, t⟩
    · rw [hfound] at hm hrequest
      rw [Factory.told_of_mem_callsFor hm, ← hrequest]
      rfl
    · rw [hfound] at hm
      cases hm
  | direct name act => cases hm
  | bound name handler bind => cases hm
  | validateHeaders check => cases hm
  | validateBody check => cases hm
  | loadPrincipal source => cases hm
  | loadFactory bind => cases hm

/-! ### Loading leaves the body as it is -/

theorem runLoadFactory_body (bind : Bind σ) (s : State σ) :
    ((loadFactory bind).run s).2.request.body = s.request.body := by
  have hrequest := resolveFactory_request bind s
  change (runLoadFactory bind s).2.request.body = s.request.body
  rw [runLoadFactory, ← hrequest]
  rcases resolveFactory bind s with ⟨f | message, t⟩ <;> rfl

theorem runLoadPrincipal_body (source : Option (PrincipalSource σ)) (s : State σ) :
    ((loadPrincipal source).run s).2.request.body = s.request.body := by
  change (runLoadPrincipal source s).2.request.body = s.request.body
  unfold runLoadPrincipal
  rcases knownPrincipal s.request with _ | ⟨known, isOpen⟩
  · rfl
  · cases source with
    | none => rfl
    | some source =>
      cases isOpen with
      | false => rfl
      | true =>
        dsimp only [State.withRequest]
        rcases source known s.app with ⟨reply, app⟩
        cases reply <;> rfl

end Step

/-! ### Calls of a run -/

namespace Dispatch

/-- The calls that the steps of a run make of factories, in their order. -/
def calls : List (Step σ) → State σ → List MethodCall
  | [], _ => []
  | step :: rest, s =>
    step.calls s ++
      match step.run s with
      | (.proceed, t) => calls rest t
      | _ => []

theorem calls_append_of_proceeds {front : List (Step σ)} {s t : State σ} (h : Proceeds front s t)
    (back : List (Step σ)) : calls (front ++ back) s = calls front s ++ calls back t := by
  induction h with
  | nil s => rfl
  | cons hstep _ ih =>
    rw [List.cons_append, calls, calls, hstep]
    dsimp only
    rw [ih, List.append_assoc]

theorem calls_append_of_not_proceeds {front : List (Step σ)} {s : State σ}
    (h : ¬ ∃ t, Proceeds front s t) (back : List (Step σ)) :
    calls (front ++ back) s = calls front s := by
  induction front generalizing s with
  | nil => exact absurd ⟨s, .nil s⟩ h
  | cons step rest ih =>
    rw [List.cons_append, calls, calls]
    rcases hstep : step.run s with ⟨verdict, t⟩
    cases verdict with
    | proceed =>
      dsimp only
      rw [ih fun ⟨u, hrest⟩ ↦ h ⟨u, .cons hstep hrest⟩]
    | halt => rfl
    | fail e => rfl
    | panic message => rfl

theorem mem_calls_cons_iff {step : Step σ} {rest : List (Step σ)} {s : State σ} {m : MethodCall} :
    m ∈ calls (step :: rest) s ↔
      m ∈ step.calls s ∨ ∃ t, step.run s = (.proceed, t) ∧ m ∈ calls rest t := by
  rw [calls, List.mem_append]
  refine or_congr_right ?_
  rcases step.run s with ⟨verdict, t⟩
  cases verdict with
  | proceed =>
    constructor
    · intro hrest
      exact ⟨t, rfl, hrest⟩
    · rintro ⟨t', heq, hrest⟩
      cases heq
      exact hrest
  | halt => simp
  | fail e => simp
  | panic message => simp

/-- A run of steps each of which asks nothing of factories asks nothing of them. -/
theorem calls_eq_nil {steps : List (Step σ)} (h : ∀ step ∈ steps, ∀ s : State σ, step.calls s = [])
    (s : State σ) : calls steps s = [] := by
  rw [List.eq_nil_iff_forall_not_mem]
  intro m
  induction steps generalizing s with
  | nil => exact List.not_mem_nil
  | cons step rest ih =>
    intro hm
    rcases mem_calls_cons_iff.mp hm with hstep | ⟨t, -, hrest⟩
    · rw [h step List.mem_cons_self] at hstep
      cases hstep
    · exact ih (fun other hother ↦ h other (List.mem_cons_of_mem step hother)) t hrest

/-- Steps that leave the body as it is, followed by one more and by steps that ask nothing of
factories, tell them the body that they start with. -/
theorem mem_calls_body {front back : List (Step σ)} {last : Step σ} {s : State σ} {m : MethodCall}
    (hfront : ∀ step ∈ front, ∀ t : State σ, (step.run t).2.request.body = t.request.body)
    (hback : ∀ step ∈ back, ∀ t : State σ, step.calls t = [])
    (hm : m ∈ calls (front ++ last :: back) s) : m.told.body = s.request.body := by
  induction front generalizing s with
  | nil =>
    rcases mem_calls_cons_iff.mp hm with hlast | ⟨t, -, hrest⟩
    · exact Step.mem_calls_body hlast
    · rw [calls_eq_nil hback] at hrest
      cases hrest
  | cons step rest ih =>
    rcases mem_calls_cons_iff.mp hm with hstep | ⟨t, hrun, hrest⟩
    · exact Step.mem_calls_body hstep
    · have hbody := hfront step List.mem_cons_self s
      rw [hrun] at hbody
      exact (ih (fun other hother ↦ hfront other (List.mem_cons_of_mem step hother)) hrest).trans
        hbody

end Dispatch

end SchemaRouting
