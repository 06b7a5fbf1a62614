import Mathlib.Data.List.Forall2
import SchemaRouting.Proofs.Pipeline.Calls

/-!
# Two runs that hear the same but for secret texts

A step of the library hears from the application in four ways (`Step.report`): a handler or a step
given directly says how it ended on an exchange and what it left, a source replies to a principal,
a factory replies to a call, and the building of a default factory may panic. What a run hears is
the list of these reports (`Dispatch.reports`).

Two reports are alike if the application, told alike things, answers alike (`Report.Alike`): the
answers differ in nothing but texts that are kept from clients, those of errors other than a
factory's own (`RouteError.Alike`) and those of panics. Two steps of one kind that are run on alike
exchanges and hear alike reports end alike and leave alike exchanges, with one and the same response
(`Step.run_alike`), so two runs that hear alike reports do so too (`runSteps_alike`). The state of
the application is no part of this: it may differ in any way that does not show in an answer.
-/

set_option autoImplicit false
set_option relaxedAutoImplicit false

namespace SchemaRouting

variable {σ : Type}

/-! ### Errors, replies and verdicts -/

/-- Two errors that differ in nothing but texts that are kept from clients. The message of a
factory's error and the details of an invalid payload are not among them. -/
inductive RouteError.Alike : RouteError → RouteError → Prop
  | forbidden (reason reason' : String) : Alike (.forbidden reason) (.forbidden reason')
  | invalidPayload (message message' : String) (details : Option Json) :
    Alike (.invalidPayload message details) (.invalidPayload message' details)
  | incompleteHeaders (message message' : String) :
    Alike (.incompleteHeaders message) (.incompleteHeaders message')
  | notFound (message message' : String) : Alike (.notFound message) (.notFound message')
  | notImplemented (operation operation' : String) :
    Alike (.notImplemented operation) (.notImplemented operation')
  | factory (status : Http.Status) (message : String) (cause cause' : Option String) :
    Alike (.factory status message cause) (.factory status message cause')
  | internal (message message' : String) (cause cause' : Option String) :
    Alike (.internal message cause) (.internal message' cause')

/-- Alike errors are written in the same way. -/
theorem RouteError.Alike.withError_eq {e e' : RouteError} (h : e.Alike e') (r : Response) :
    r.withError e = r.withError e' := by
  cases h <;> rfl

/-- Panics are alike whatever they say. -/
inductive Reply.Alike {α : Type} : Reply α → Reply α → Prop
  | ok (a : α) : Alike (.ok a) (.ok a)
  | error {e e' : RouteError} : e.Alike e' → Alike (.error e) (.error e')
  | panic (message message' : String) : Alike (.panic message) (.panic message')

inductive Verdict.Alike : Verdict → Verdict → Prop
  | proceed : Alike .proceed .proceed
  | halt : Alike .halt .halt
  | fail {e e' : RouteError} : e.Alike e' → Alike (.fail e) (.fail e')
  | panic (message message' : String) : Alike (.panic message) (.panic message')

inductive Outcome.Alike : Outcome → Outcome → Prop
  | completed : Alike .completed .completed
  | halted (step : String) : Alike (.halted step) (.halted step)
  | failed (step : String) {e e' : RouteError} : e.Alike e' →
    Alike (.failed step e) (.failed step e')

/-! ### Requests and exchanges -/

/-- Two requests that differ in nothing but the factory in their context. -/
def Request.Alike (r r' : Request (Factory σ)) : Prop :=
  ∃ factory, r' = { r with context := { r.context with factory } }

theorem Request.Alike.refl (r : Request (Factory σ)) : r.Alike r := ⟨r.context.factory, rfl⟩

/-- Two exchanges with alike requests and the same response; the application may be in any state. -/
structure Exchange.Alike (x x' : Exchange σ) : Prop where
  request : x.request.Alike x'.request
  response : x.response = x'.response

/-- An exchange with the request and the response of another is alike to what that one is. -/
theorem Exchange.Alike.congr {x x' y y' : Exchange σ} (h : x.Alike x')
    (hrequest : y.request = x.request) (hrequest' : y'.request = x'.request)
    (hresponse : y.response = x.response) (hresponse' : y'.response = x'.response) :
    y.Alike y' := by
  refine ⟨?_, ?_⟩
  · rw [hrequest, hrequest']
    exact h.request
  · rw [hresponse, hresponse']
    exact h.response

/-! ### Reports -/

/-- What a step of a pipeline hears from the application, and what it had told it. -/
inductive Report (σ : Type)
  | silence
  | act (given : Exchange σ) (verdict : Verdict) (left : Exchange σ)
  | principal (known : Principal) (reply : Reply Principal)
  | factory (call : FactoryCall) (reply : Reply FactoryOutput)
  | unbuilt (message : String)

/-- Where the application is told alike things, it answers alike. -/
inductive Report.Alike : Report σ → Report σ → Prop
  | silence : Alike .silence .silence
  | act {given given' left left' : Exchange σ} {verdict verdict' : Verdict} :
    (given.Alike given' → verdict.Alike verdict' ∧ left.Alike left') →
    Alike (.act given verdict left) (.act given' verdict' left')
  | principal {known known' : Principal} {reply reply' : Reply Principal} :
    (known = known' → reply.Alike reply') →
    Alike (.principal known reply) (.principal known' reply')
  | factory {call call' : FactoryCall} {reply reply' : Reply FactoryOutput} :
    (call = call' → reply.Alike reply') → Alike (.factory call reply) (.factory call' reply')
  | unbuilt (message message' : String) : Alike (.unbuilt message) (.unbuilt message')

namespace Step

open Dispatch (State)

def reportOfAct (act : Act σ) (s : State σ) : Report σ :=
  let (verdict, left) := act s.toExchange
  .act s.toExchange verdict left

/-- A source is asked for principals that it may know more of. -/
def reportOfSource (source : Option (PrincipalSource σ)) (s : State σ) : Report σ :=
  match knownPrincipal s.request, source with
  | some (known, true), some source => .principal known (source known s.app).1
  | _, _ => .silence

/-- The loader hears of a factory only where it could not be built. -/
def reportOfLoader (bind : Bind σ) (s : State σ) : Report σ :=
  match (resolveFactory bind s).1 with
  | .made _ => .silence
  | .panicked message => .unbuilt message

def reportOfFactory (kind : OperationKind) (bind : Bind σ) (s : State σ) : Report σ :=
  match resolveFactory bind s with
  | (.made factory, s) =>
    let call := FactoryCall.ofRequest s.request
    .factory call (callFactory factory bind kind.factoryOperation call s).1
  | (.panicked message, _) => .unbuilt message

/-- What a step hears when it is run. -/
def report : Step σ → State σ → Report σ
  | direct _ act, s => reportOfAct act s
  | bound _ handler bind, s => reportOfAct (handler bind) s
  | validateHeaders _, _ => .silence
  | validateBody _, _ => .silence
  | loadPrincipal source, s => reportOfSource source s
  | loadFactory bind, s => reportOfLoader bind s
  | default kind bind, s => reportOfFactory kind bind s

/-- Two steps of one kind, which may do differently only what is told in their reports. -/
inductive SameKind : Step σ → Step σ → Prop
  | direct (name : String) (act act' : Act σ) : SameKind (.direct name act) (.direct name act')
  | bound (name : String) (handler handler' : Handler σ) (bind bind' : Bind σ) :
    SameKind (.bound name handler bind) (.bound name handler' bind')
  | validateHeaders (check : Validator) : SameKind (.validateHeaders check) (.validateHeaders check)
  | validateBody (check : Validator) : SameKind (.validateBody check) (.validateBody check)
  | loadPrincipal (source source' : Option (PrincipalSource σ)) :
    SameKind (.loadPrincipal source) (.loadPrincipal source')
  | loadFactory (bind bind' : Bind σ) : SameKind (.loadFactory bind) (.loadFactory bind')
  | default (kind : OperationKind) {bind bind' : Bind σ} : bind.id = bind'.id →
    SameKind (.default kind bind) (.default kind bind')

theorem SameKind.name_eq {step step' : Step σ} (h : step.SameKind step') :
    step.name = step'.name := by
  cases h <;> rfl

/-! ### One step -/

/-- Two ends of a step that are alike in the verdict and in the exchange left. -/
def EndsAlike (first second : Verdict × State σ) : Prop :=
  first.1.Alike second.1 ∧ first.2.toExchange.Alike second.2.toExchange

theorem resolveFactory_response (bind : Bind σ) (s : State σ) :
    (resolveFactory bind s).2.response = s.response := by
  unfold resolveFactory
  cases s.request.context.factory with
  | some factory => rfl
  | none =>
    cases bind.factoryName with
    | none => rfl
    | some name =>
      dsimp only
      cases bind.services.factories.get? name <;> rfl

variable {s s' : State σ}

theorem runAct_alike {act act' : Act σ} (h : s.toExchange.Alike s'.toExchange)
    (hreport : (reportOfAct act s).Alike (reportOfAct act' s')) :
    EndsAlike (runAct act s) (runAct act' s') := by
  unfold reportOfAct at hreport
  unfold runAct
  cases hreport with
  | act hanswer => exact hanswer h

theorem exists_eq_of_alike (h : s.toExchange.Alike s'.toExchange) :
    ∃ factory app defaults notes, s' =
      ⟨⟨{ s.request with context := { s.request.context with factory } }, s.response, app⟩,
        defaults, notes⟩ := by
  obtain ⟨⟨request', response', app⟩, defaults, notes⟩ := s'
  obtain ⟨⟨factory, hrequest⟩, hresponse⟩ := h
  dsimp only at hrequest hresponse
  rw [hrequest, ← hresponse]
  exact ⟨factory, app, defaults, notes, rfl⟩

theorem runValidateHeaders_alike (check : Validator) (h : s.toExchange.Alike s'.toExchange) :
    EndsAlike (runValidateHeaders check s) (runValidateHeaders check s') := by
  obtain ⟨factory, app, defaults, notes, rfl⟩ := exists_eq_of_alike h
  have hheaders (r : Request (Factory σ)) : Request.headersJson
      { r with context := { r.context with factory } } = r.headersJson := rfl
  unfold runValidateHeaders
  rw [hheaders]
  cases check .lenient s.request.headersJson with
  | ok headers => exact ⟨.proceed, h⟩
  | error e => exact ⟨.halt, ⟨factory, rfl⟩, rfl⟩

theorem runValidateBody_alike (check : Validator) (h : s.toExchange.Alike s'.toExchange) :
    EndsAlike (runValidateBody check s) (runValidateBody check s') := by
  obtain ⟨factory, app, defaults, notes, rfl⟩ := exists_eq_of_alike h
  unfold runValidateBody
  dsimp only
  cases check .strict s.request.body with
  | ok body => exact ⟨.proceed, ⟨factory, rfl⟩, rfl⟩
  | error e => exact ⟨.halt, ⟨factory, rfl⟩, rfl⟩

/-- A source either sets the user of the request or leaves the one known before, and nothing shows
of an error that it replies with. -/
theorem runLoadPrincipal_alike {source source' : Option (PrincipalSource σ)}
    (h : s.toExchange.Alike s'.toExchange)
    (hreport : (reportOfSource source s).Alike (reportOfSource source' s')) :
    EndsAlike (runLoadPrincipal source s) (runLoadPrincipal source' s') := by
  obtain ⟨factory, app, defaults, notes, rfl⟩ := exists_eq_of_alike h
  have hknown (r : Request (Factory σ)) : knownPrincipal
      { r with context := { r.context with factory } } = knownPrincipal r := rfl
  unfold reportOfSource at hreport
  unfold runLoadPrincipal
  rw [hknown] at hreport ⊢
  generalize knownPrincipal s.request = told at hreport ⊢
  rcases told with _ | ⟨known, _ | _⟩
  -- Only of a principal that a source may know more of is a source asked, and then in both runs.
  · exact ⟨.proceed, h⟩
  · cases source <;> cases source' <;> exact ⟨.proceed, ⟨factory, rfl⟩, rfl⟩
  · cases source with
    | none =>
      cases source' with
      | none => exact ⟨.proceed, ⟨factory, rfl⟩, rfl⟩
      | some source' => cases hreport
    | some source =>
      cases source' with
      | none => cases hreport
      | some source' =>
        dsimp only [State.withRequest] at hreport ⊢
        generalize source known s.app = heard at hreport ⊢
        generalize source' known app = heard' at hreport ⊢
        obtain ⟨reply, left⟩ := heard
        obtain ⟨reply', left'⟩ := heard'
        cases hreport with
        | principal hanswer =>
          have hreply := hanswer rfl
          dsimp only at hreply
          cases hreply with
          | ok loaded => exact ⟨.proceed, ⟨factory, rfl⟩, rfl⟩
          | error he => exact ⟨.proceed, ⟨factory, rfl⟩, rfl⟩
          | panic message message' => exact ⟨.panic message message', ⟨factory, rfl⟩, rfl⟩

/-- Finding a factory changes neither the request nor the response. -/
theorem resolveFactory_alike (bind bind' : Bind σ) (h : s.toExchange.Alike s'.toExchange) :
    (resolveFactory bind s).2.toExchange.Alike (resolveFactory bind' s').2.toExchange :=
  h.congr (resolveFactory_request bind s) (resolveFactory_request bind' s')
    (resolveFactory_response bind s) (resolveFactory_response bind' s')

theorem runLoadFactory_alike {bind bind' : Bind σ} (h : s.toExchange.Alike s'.toExchange)
    (hreport : (reportOfLoader bind s).Alike (reportOfLoader bind' s')) :
    EndsAlike (runLoadFactory bind s) (runLoadFactory bind' s') := by
  have hfound := resolveFactory_alike bind bind' h
  unfold reportOfLoader at hreport
  unfold runLoadFactory
  generalize resolveFactory bind s = resolved at hfound hreport ⊢
  generalize resolveFactory bind' s' = resolved' at hfound hreport ⊢
  obtain ⟨built, found⟩ := resolved
  obtain ⟨built', found'⟩ := resolved'
  obtain ⟨_, app, defaults, notes, rfl⟩ := exists_eq_of_alike hfound
  cases built with
  | made factory =>
    cases built' with
    | made factory' => exact ⟨.proceed, ⟨some factory', rfl⟩, rfl⟩
    | panicked message' => cases hreport
  | panicked message =>
    cases built' with
    | made factory' => cases hreport
    | panicked message' => exact ⟨.panic message message', hfound⟩

/-- Calling a factory changes neither the request nor the response. -/
theorem callFactory_alike (factory factory' : Factory σ) (bind bind' : Bind σ)
    (operation : FactoryOperation) (call call' : FactoryCall)
    (h : s.toExchange.Alike s'.toExchange) :
    (callFactory factory bind operation call s).2.toExchange.Alike
      (callFactory factory' bind' operation call' s').2.toExchange := by
  obtain ⟨app, notes, hleft⟩ := exists_callFactory_left factory bind operation call s
  obtain ⟨app', notes', hleft'⟩ := exists_callFactory_left factory' bind' operation call' s'
  rw [hleft, hleft']
  exact h.congr rfl rfl rfl rfl

/-- What is written for an operation depends on no more than the reply of the factory, of its error
only on what clients may know. -/
theorem answerBy_alike {factory factory' : Factory σ} {kind : OperationKind} {bind bind' : Bind σ}
    (hid : bind.id = bind'.id) (h : s.toExchange.Alike s'.toExchange)
    (hreply : FactoryCall.ofRequest s.request = .ofRequest s'.request →
      (callFactory factory bind kind.factoryOperation (.ofRequest s.request) s).1.Alike
        (callFactory factory' bind' kind.factoryOperation (.ofRequest s'.request) s').1) :
    EndsAlike (answerBy factory kind bind s) (answerBy factory' kind bind' s') := by
  have htold : FactoryCall.ofRequest s.request = .ofRequest s'.request := by
    obtain ⟨_, hrequest⟩ := h.request
    rw [hrequest]
    rfl
  have hsame := hreply htold
  have hleft := callFactory_alike factory factory' bind bind' kind.factoryOperation
    (.ofRequest s.request) (.ofRequest s'.request) h
  unfold answerBy
  generalize callFactory factory bind kind.factoryOperation (.ofRequest s.request) s =
    called at hleft hsame ⊢
  generalize callFactory factory' bind' kind.factoryOperation (.ofRequest s'.request) s' =
    called' at hleft hsame ⊢
  obtain ⟨reply, left⟩ := called
  obtain ⟨reply', left'⟩ := called'
  obtain ⟨context, app, defaults, notes, rfl⟩ := exists_eq_of_alike hleft
  dsimp only at hsame
  cases hsame with
  | ok output =>
    dsimp only
    rw [hid]
    exact ⟨.proceed, ⟨context, rfl⟩, rfl⟩
  | error he => exact ⟨.fail he, ⟨context, rfl⟩, he.withError_eq left.response⟩
  | panic message message' => exact ⟨.panic message message', ⟨context, rfl⟩, rfl⟩

theorem runDefault_alike {kind : OperationKind} {bind bind' : Bind σ} (hid : bind.id = bind'.id)
    (h : s.toExchange.Alike s'.toExchange)
    (hreport : (reportOfFactory kind bind s).Alike (reportOfFactory kind bind' s')) :
    EndsAlike (runDefault kind bind s) (runDefault kind bind' s') := by
  have hfound := resolveFactory_alike bind bind' h
  unfold reportOfFactory at hreport
  unfold runDefault
  generalize resolveFactory bind s = resolved at hfound hreport ⊢
  generalize resolveFactory bind' s' = resolved' at hfound hreport ⊢
  obtain ⟨built, found⟩ := resolved
  obtain ⟨built', found'⟩ := resolved'
  cases built with
  | made factory =>
    cases built' with
    | made factory' =>
      cases hreport with
      | factory hanswer => exact answerBy_alike hid hfound hanswer
    | panicked message' => cases hreport
  | panicked message =>
    cases built' with
    | made factory' => cases hreport
    | panicked message' => exact ⟨.panic message message', hfound⟩

/-- Two steps of one kind that are run on alike exchanges and hear alike reports end alike. -/
theorem run_alike {step step' : Step σ} (hkind : step.SameKind step')
    (h : s.toExchange.Alike s'.toExchange)
    (hreport : (step.report s).Alike (step'.report s')) :
    EndsAlike (step.run s) (step'.run s') := by
  cases hkind with
  | direct name act act' => exact runAct_alike h hreport
  | bound name handler handler' bind bind' => exact runAct_alike h hreport
  | validateHeaders check => exact runValidateHeaders_alike check h
  | validateBody check => exact runValidateBody_alike check h
  | loadPrincipal source source' => exact runLoadPrincipal_alike h hreport
  | loadFactory bind bind' => exact runLoadFactory_alike h hreport
  | default kind hid => exact runDefault_alike hid h hreport

end Step

/-! ### Runs -/

namespace Dispatch

/-- What the steps of a run hear, up to and including the first that does not proceed. -/
def reports : List (Step σ) → State σ → List (Report σ)
  | [], _ => []
  | step :: rest, s =>
    step.report s :: match step.run s with
      | (.proceed, t) => reports rest t
      | _ => []

/-- Two runs of steps of the same kinds that start on alike exchanges and hear alike reports end
with alike outcomes and leave alike exchanges. By induction on the steps: a step that proceeds in
one run proceeds in the other, and leaves exchanges that are alike again. -/
theorem runSteps_alike {steps steps' : List (Step σ)} {s s' : State σ}
    (hkinds : List.Forall₂ Step.SameKind steps steps') (h : s.toExchange.Alike s'.toExchange)
    (hreports : List.Forall₂ Report.Alike (reports steps s) (reports steps' s')) :
    (runSteps steps s).1.Alike (runSteps steps' s').1 ∧
      (runSteps steps s).2.toExchange.Alike (runSteps steps' s').2.toExchange := by
  induction hkinds generalizing s s' with
  | nil => exact ⟨.completed, h⟩
  | @cons step step' rest rest' hkind _ ih =>
    rw [reports, reports] at hreports
    cases hreports with
    | cons hreport hrest =>
      have hends := Step.run_alike hkind h hreport
      rw [runSteps, runSteps, hkind.name_eq]
      generalize step.run s = ended at hends hrest ⊢
      generalize step'.run s' = ended' at hends hrest ⊢
      obtain ⟨verdict, left⟩ := ended
      obtain ⟨verdict', left'⟩ := ended'
      obtain ⟨hverdict, hleft⟩ := hends
      dsimp only at hverdict hleft
      cases hverdict with
      | proceed => exact ih hleft hrest
      | halt => exact ⟨.halted _, hleft⟩
      | fail he => exact ⟨.failed _ he, hleft⟩
      | panic message message' => exact ⟨.failed _ (.internal _ _ _ _), hleft⟩

end Dispatch

end SchemaRouting
