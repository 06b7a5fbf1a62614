import SchemaRouting.Route.Serve
import SchemaRouting.Proofs.Pipeline.Run
import SchemaRouting.Proofs.Success

/-!
# How a request is answered

A request is refused by the guard or because its path does not match (`Refuses`), or the steps of
the route are run on it and end with an outcome (`Ends`); one of the two is so for every request
(`refuses_or_ends`). What is sent back is then one of five things (`Answers`), and for every route,
every pipeline and every point at which it may fail it is exactly that (`handle_eq_iff_answers`). An
error is written only where nothing else was, and the status that its body names is that of the
response (`Response.Tells`).
-/

set_option autoImplicit false
set_option relaxedAutoImplicit false

namespace SchemaRouting

open Dispatch (State)

variable {σ : Type}

/-! ### The body of an error -/

theorem ErrorBody.get?_status (b : ErrorBody) : b.toJson.get? "status" = some (.int b.status) := by
  have hmessage : "status" ≠ "message" := by decide
  have hdetails : "status" ≠ "details" := by decide
  obtain ⟨status, message, details⟩ := b
  cases details <;>
    simp [toJson, Json.ofMembers, Json.get?, Keyed.sorted, Keyed.find?_insert_of_ne hmessage,
      Keyed.find?_insert_of_ne hdetails, Keyed.find?_insert_self]

/-- A response that tells of an error: it has the status and the body of the error, and the body
names that status. -/
structure Response.Tells (response : Response) (e : RouteError) : Prop where
  status : response.status = e.status
  body : response.body = some e.body.toJson
  namesStatus : e.body.toJson.get? "status" = some (.int response.status.code)

theorem Response.withError_tells (response : Response) (e : RouteError) :
    (response.withError e).Tells e :=
  ⟨rfl, rfl, e.body.get?_status⟩

theorem Step.tells_of_answerBy_fails {factory : Factory σ} {kind : OperationKind} {bind : Bind σ}
    {s t : State σ} {e : RouteError} (h : Step.answerBy factory kind bind s = (.fail e, t)) :
    t.response.Tells e := by
  rw [Step.answerBy] at h
  generalize Step.callFactory factory bind kind.factoryOperation (.ofRequest s.request) s =
    called at h
  obtain ⟨reply, left⟩ := called
  cases reply with
  | ok output => cases h
  | error e' =>
    cases h
    exact Response.withError_tells _ _
  | panic message => cases h

/-- The handler of an operation that fails with an error has written it. -/
theorem Step.tells_of_default_fails {kind : OperationKind} {bind : Bind σ} {s t : State σ}
    {e : RouteError} (h : (Step.default kind bind).run s = (.fail e, t)) : t.response.Tells e := by
  rw [Step.run, Step.runDefault] at h
  generalize Step.resolveFactory bind s = resolved at h
  obtain ⟨factory | message, found⟩ := resolved
  · exact Step.tells_of_answerBy_fails h
  · cases h

namespace CompiledRoute

variable (r : CompiledRoute σ) (shared : Shared σ) (request : Request (Factory σ))

/-! ### Refusing a request, or running the steps on it -/

/-- A request is refused with an error: that of the guard or, where the guard lets it pass, that of
a path that does not match. -/
inductive Refuses : RouteError → Prop
  | guard {e : RouteError} : r.guard request.method request.contentType? = .error e → Refuses e
  | path {m : Path.Mismatch} : r.guard request.method request.contentType? = .ok () →
    r.pattern.extract request.path = .error m → Refuses (.ofMismatch m)

/-- The state that the first step of a route is run on when a request is accepted. -/
def start (params : Path.Params) : State σ :=
  Dispatch.entered r.pipeline
    ((State.ofRequest shared request).withRequest { request with params })

/-- A request is accepted, and the steps of the route end on it with an outcome and leave a
state. -/
def Ends (outcome : Outcome) (left : State σ) : Prop :=
  ∃ params, r.accept request = .ok params ∧
    Dispatch.runSteps r.pipeline.steps (r.start shared request params) = (outcome, left)

/-- The steps of a route that are run while it serves a request. -/
def stepsRun : List (Step σ) :=
  match r.accept request with
  | .ok params => Dispatch.ran r.pipeline.steps (r.start shared request params)
  | .error _ => []

variable {r shared request}

theorem extract_eq_ok_iff {path : String} {params : Path.Params} :
    r.extract path = .ok params ↔ r.pattern.extract path = .ok params := by
  rw [extract]
  cases r.pattern.extract path <;> simp

theorem extract_eq_error_iff {path : String} {e : RouteError} :
    r.extract path = .error e ↔ ∃ m, r.pattern.extract path = .error m ∧ e = .ofMismatch m := by
  rw [extract]
  cases r.pattern.extract path <;> simp [eq_comm]

theorem accept_eq_ok_iff {params : Path.Params} :
    r.accept request = .ok params ↔ r.guard request.method request.contentType? = .ok () ∧
      r.pattern.extract request.path = .ok params := by
  rw [accept, bind_eq_ok_iff, ← extract_eq_ok_iff]
  constructor
  · rintro ⟨⟨⟩, hguard, hextract⟩
    exact ⟨hguard, hextract⟩
  · rintro ⟨hguard, hextract⟩
    exact ⟨(), hguard, hextract⟩

theorem accept_eq_error_iff {e : RouteError} :
    r.accept request = .error e ↔ r.Refuses request e := by
  rw [accept, bind_eq_error_iff]
  constructor
  · rintro (hguard | ⟨⟨⟩, hguard, hextract⟩)
    · exact .guard hguard
    · obtain ⟨m, hm, rfl⟩ := extract_eq_error_iff.mp hextract
      exact .path hguard hm
  · rintro (hguard | ⟨hguard, hm⟩)
    · exact .inl hguard
    · exact .inr ⟨(), hguard, extract_eq_error_iff.mpr ⟨_, hm, rfl⟩⟩

theorem refuses_or_ends (r : CompiledRoute σ) (shared : Shared σ) (request : Request (Factory σ)) :
    (∃ e, r.Refuses request e) ∨ ∃ outcome left, r.Ends shared request outcome left := by
  cases haccept : r.accept request with
  | error e => exact .inl ⟨e, accept_eq_error_iff.mp haccept⟩
  | ok params => exact .inr ⟨_, _, params, haccept, rfl⟩

/-- A route that refuses a request leaves everything as it is. -/
theorem run_of_refuses {s : State σ} {e : RouteError} (h : r.Refuses s.request e) :
    r.run s = (.error e, s) := by
  rw [run, accept_eq_error_iff.mpr h]

/-- A route that accepts a request dispatches its steps on it, with the parameters set. -/
theorem run_eq_dispatch {s : State σ} {params : Path.Params} (h : r.accept s.request = .ok params) :
    r.run s = (.ok (r.dispatch (s.withRequest { s.request with params })).1,
      (r.dispatch (s.withRequest { s.request with params })).2) := by
  rw [run, h]

theorem run_of_accept {params : Path.Params} (h : r.accept request = .ok params) :
    r.run (.ofRequest shared request) =
      let ended := Dispatch.noted r.pipeline.label
        (Dispatch.runSteps r.pipeline.steps (r.start shared request params))
      (.ok ended.1, ended.2) :=
  run_eq_dispatch (s := .ofRequest shared request) h

theorem run_eq_error_iff {e : RouteError} :
    (r.run (.ofRequest shared request)).1 = .error e ↔ r.Refuses request e := by
  constructor
  · intro hrun
    cases haccept : r.accept request with
    | error e' =>
      rw [run_of_refuses (accept_eq_error_iff.mp haccept)] at hrun
      cases hrun
      exact accept_eq_error_iff.mp haccept
    | ok params =>
      rw [run_of_accept haccept] at hrun
      cases hrun
  · intro hrefuses
    rw [run_of_refuses hrefuses]

theorem run_eq_ok_iff {outcome : Outcome} :
    (r.run (.ofRequest shared request)).1 = .ok outcome ↔
      ∃ left, r.Ends shared request outcome left := by
  constructor
  · intro hrun
    cases haccept : r.accept request with
    | error e =>
      rw [run_of_refuses (accept_eq_error_iff.mp haccept)] at hrun
      cases hrun
    | ok params =>
      rw [run_of_accept haccept] at hrun
      cases hrun
      exact ⟨_, params, haccept, rfl⟩
  · rintro ⟨left, params, haccept, hsteps⟩
    rw [run_of_accept haccept, hsteps]
    rfl

theorem handle_of_refuses {e : RouteError} (h : r.Refuses request e) :
    (r.handle shared request).1 = .ofError e := by
  rw [handle, run_of_refuses h]
  rfl

theorem handle_of_ends {outcome : Outcome} {left : State σ}
    (h : r.Ends shared request outcome left) :
    (r.handle shared request).1 = answer outcome left.response := by
  obtain ⟨params, haccept, hsteps⟩ := h
  rw [handle, run_of_accept haccept, hsteps]
  rfl

/-- A route that refuses a request does the same for it whatever its steps are, and leaves what
outlives the request as it was, but for one more note. -/
theorem handle_of_refuses_frame {e : RouteError} (h : r.Refuses request e) :
    (r.handle shared request).2.app = shared.app ∧
      (r.handle shared request).2.defaults = shared.defaults ∧
      ∀ pipeline, ({ r with pipeline } : CompiledRoute σ).handle shared request =
        r.handle shared request := by
  have hrun := run_of_refuses (s := .ofRequest shared request) h
  refine ⟨?_, ?_, fun pipeline ↦ ?_⟩
  · rw [handle, hrun]
    rfl
  · rw [handle, hrun]
    rfl
  · have haccept : r.accept request = .error e := accept_eq_error_iff.mpr h
    have hother : ({ r with pipeline } : CompiledRoute σ).accept request = .error e := haccept
    have hsame := run_of_refuses (s := .ofRequest shared request) (accept_eq_error_iff.mp hother)
    rw [handle, handle, hrun, hsame]
    rfl

theorem stepsRun_of_refuses {e : RouteError} (h : r.Refuses request e) :
    r.stepsRun shared request = [] := by
  rw [stepsRun, accept_eq_error_iff.mpr h]

/-! Other steps that end alike -/

/-- Two runs end alike if they end with the same outcome and leave the same response and the same
of what outlives a request. -/
def EndAlike (first second : Outcome × State σ) : Prop :=
  first.1 = second.1 ∧ first.2.response = second.2.response ∧ first.2.shared = second.2.shared

theorem EndAlike.noted {first second : Outcome × State σ} (h : EndAlike first second)
    (label : String) : EndAlike (Dispatch.noted label first) (Dispatch.noted label second) := by
  obtain ⟨outcome, left⟩ := first
  obtain ⟨outcome', left'⟩ := second
  obtain ⟨rfl, hresponse, hshared⟩ := h
  dsimp only at hresponse hshared
  refine ⟨rfl, hresponse, ?_⟩
  simp only [Dispatch.State.shared, Shared.mk.injEq] at hshared
  obtain ⟨happ, hdefaults, hnotes⟩ := hshared
  simp only [Dispatch.noted, Dispatch.State.shared, happ, hdefaults, hnotes, hresponse]

/-- The route with other steps. -/
def withSteps (r : CompiledRoute σ) (steps : List (Step σ)) : CompiledRoute σ :=
  { r with pipeline := { r.pipeline with steps } }

/-- Other steps that end alike on a request, where the route accepts it, answer it alike. -/
theorem handle_withSteps {steps : List (Step σ)}
    (h : ∀ params, r.accept request = .ok params →
      EndAlike (Dispatch.runSteps steps (r.start shared request params))
        (Dispatch.runSteps r.pipeline.steps (r.start shared request params))) :
    (r.withSteps steps).handle shared request = r.handle shared request := by
  cases haccept : r.accept request with
  | error e => exact (handle_of_refuses_frame (accept_eq_error_iff.mp haccept)).2.2 _
  | ok params =>
    have haccept' : (r.withSteps steps).accept request = .ok params := haccept
    obtain ⟨houtcome, hresponse, hshared⟩ := (h params haccept).noted r.pipeline.label
    rw [handle, handle, run_of_accept haccept, run_of_accept haccept']
    exact Prod.ext (congrArg₂ answer houtcome hresponse) hshared

/-- The steps that are run answer a request as all of the steps do. -/
theorem handle_withSteps_stepsRun (r : CompiledRoute σ) (shared : Shared σ)
    (request : Request (Factory σ)) :
    (r.withSteps (r.stepsRun shared request)).handle shared request =
      r.handle shared request := by
  refine handle_withSteps fun params haccept ↦ ?_
  rw [stepsRun, haccept]
  dsimp only
  rw [Dispatch.runSteps_ran]
  exact ⟨rfl, rfl, rfl⟩

/-! ### What is sent back -/

variable (r shared request)

/-- The responses that a request is answered with: the error that it is refused with, on a fresh
response; what the steps left, if they completed, halted, or failed after a body was written; and
otherwise the error that they failed with, beside the header fields that they set. -/
inductive Answers : Response → Prop
  | refused {e : RouteError} : r.Refuses request e →
    Answers ⟨e.status, .empty, some e.body.toJson⟩
  | completed {left : State σ} : r.Ends shared request .completed left → Answers left.response
  | halted {step : String} {left : State σ} : r.Ends shared request (.halted step) left →
    Answers left.response
  | failedWritten {step : String} {e : RouteError} {left : State σ} :
    r.Ends shared request (.failed step e) left → left.response.isWritten = true →
    Answers left.response
  | failedUnwritten {step : String} {e : RouteError} {left : State σ} :
    r.Ends shared request (.failed step e) left → left.response.isWritten = false →
    Answers ⟨e.status, left.response.headers, some e.body.toJson⟩

variable {r shared request}

theorem Answers.eq_handle {response : Response} (h : r.Answers shared request response) :
    (r.handle shared request).1 = response := by
  cases h with
  | refused hrefuses => exact handle_of_refuses hrefuses
  | completed hends => exact handle_of_ends hends
  | halted hends => exact handle_of_ends hends
  | failedWritten hends hwritten =>
    rw [handle_of_ends hends]
    exact if_pos hwritten
  | failedUnwritten hends hwritten =>
    rw [handle_of_ends hends]
    exact if_neg (by simp [hwritten])

theorem answers_handle (r : CompiledRoute σ) (shared : Shared σ) (request : Request (Factory σ)) :
    r.Answers shared request (r.handle shared request).1 := by
  have hanswers : ∃ response, r.Answers shared request response := by
    rcases refuses_or_ends r shared request with ⟨e, hrefuses⟩ | ⟨outcome, left, hends⟩
    · exact ⟨_, .refused hrefuses⟩
    · cases outcome with
      | completed => exact ⟨_, .completed hends⟩
      | halted step => exact ⟨_, .halted hends⟩
      | failed step e =>
        cases hwritten : left.response.isWritten with
        | true => exact ⟨_, .failedWritten hends hwritten⟩
        | false => exact ⟨_, .failedUnwritten hends hwritten⟩
  obtain ⟨response, hresponse⟩ := hanswers
  rw [hresponse.eq_handle]
  exact hresponse

/-- The error that a request is answered with: it was refused with it, or its steps failed with it
and left no body. -/
def AnsweredWith (r : CompiledRoute σ) (shared : Shared σ) (request : Request (Factory σ))
    (e : RouteError) : Prop :=
  r.Refuses request e ∨
    ∃ step left, r.Ends shared request (.failed step e) left ∧ left.response.isWritten = false

theorem AnsweredWith.tells {e : RouteError} (h : r.AnsweredWith shared request e) :
    (r.handle shared request).1.Tells e := by
  rcases h with hrefuses | ⟨step, left, hends, hwritten⟩
  · rw [handle_of_refuses hrefuses]
    exact Response.withError_tells _ e
  · rw [(Answers.failedUnwritten hends hwritten).eq_handle]
    exact Response.withError_tells left.response e

theorem isWritten_handle_of_refuses {e : RouteError} (h : r.Refuses request e) :
    (r.handle shared request).1.isWritten = true := by
  rw [handle_of_refuses h]
  rfl

theorem isWritten_handle_of_failed {step : String} {e : RouteError} {left : State σ}
    (h : r.Ends shared request (.failed step e) left) :
    (r.handle shared request).1.isWritten = true := by
  cases hwritten : left.response.isWritten with
  | true => rwa [(Answers.failedWritten h hwritten).eq_handle]
  | false =>
    rw [(Answers.failedUnwritten h hwritten).eq_handle]
    rfl

/-- A run fails with the error that the request is refused with, or else gives the outcome that the
steps end with. Every request is answered with exactly one response: a fresh one with the error,
where the guard or the path refuses the request, and then no step is run and the steps have no part
in what is done; what the steps left, where they completed or halted, or failed with a body written;
and the error that they failed with beside the header fields that they set, where no body was
written. The steps that are run give the same answer without the others. So a request that is
refused or fails is always answered with a body, and where the body is that of the error, written
here or by the handler of an operation that failed, the status that it names is the status of the
response. -/
theorem handle_eq_iff_answers (r : CompiledRoute σ) (shared : Shared σ)
    (request : Request (Factory σ)) :
    (∀ e, (r.run (.ofRequest shared request)).1 = .error e ↔ r.Refuses request e) ∧
    (∀ outcome, (r.run (.ofRequest shared request)).1 = .ok outcome ↔
      ∃ left, r.Ends shared request outcome left) ∧
    (∀ response, (r.handle shared request).1 = response ↔ r.Answers shared request response) ∧
    (∀ e, r.Refuses request e → r.stepsRun shared request = [] ∧
      (r.handle shared request).2.app = shared.app ∧
      (r.handle shared request).2.defaults = shared.defaults ∧
      ∀ pipeline, ({ r with pipeline } : CompiledRoute σ).handle shared request =
        r.handle shared request) ∧
    (r.withSteps (r.stepsRun shared request)).handle shared request = r.handle shared request ∧
    (∀ e, (r.Refuses request e ∨ ∃ step left, r.Ends shared request (.failed step e) left) →
      (r.handle shared request).1.isWritten = true) ∧
    (∀ e, r.AnsweredWith shared request e → (r.handle shared request).1.Tells e) ∧
    ∀ (kind : OperationKind) (bind : Bind σ) (e : RouteError) (s t : State σ),
      (Step.default kind bind).run s = (.fail e, t) → t.response.Tells e := by
  refine ⟨fun e ↦ run_eq_error_iff, fun outcome ↦ run_eq_ok_iff,
    fun response ↦ ⟨?_, Answers.eq_handle⟩, fun e hrefuses ↦ ?_,
    handle_withSteps_stepsRun r shared request, fun e hfailed ↦ ?_,
    fun e hanswered ↦ hanswered.tells, fun kind bind e s t ↦ Step.tells_of_default_fails⟩
  · rintro rfl
    exact answers_handle r shared request
  · exact ⟨stepsRun_of_refuses hrefuses, handle_of_refuses_frame hrefuses⟩
  · rcases hfailed with hrefuses | ⟨step, left, hends⟩
    · exact isWritten_handle_of_refuses hrefuses
    · exact isWritten_handle_of_failed hends

/-- A route whose one step sets a status and a header field and then panics. -/
def burstingLamp : CompiledRoute Unit where
  schemaId := "lamps"
  routeId := "get"
  kind := .get
  pattern := ⟨"/lamps/:id"⟩
  pipeline := ⟨"/lamps/:id", [.direct "burst" fun x ↦
    (.panic "dark",
      { x with response := (x.response.withStatus .created).withHeader "x-lamp" "7" })]⟩
  bind := ⟨"lamps", none, none, none, .new Services.baseRegistry⟩

/-- The panic of a step is answered with its error, and a request by a wrong method with that of the
guard. -/
theorem burstingLamp_tells :
    (burstingLamp.AnsweredWith ⟨(), [], []⟩ (.new .get "/lamps/7") (.ofPanic "dark") ∧
      (burstingLamp.handle ⟨(), [], []⟩ (.new .get "/lamps/7")).1.Tells (.ofPanic "dark")) ∧
    burstingLamp.Refuses (.new .delete "/lamps/7")
      (.forbidden "invalid method DELETE, wanted GET") ∧
    burstingLamp.stepsRun ⟨(), [], []⟩ (.new .delete "/lamps/7") = [] := by
  have hpanic : burstingLamp.AnsweredWith ⟨(), [], []⟩ (.new .get "/lamps/7") (.ofPanic "dark") :=
    .inr ⟨"burst", _, ⟨_, rfl, rfl⟩, rfl⟩
  have hmethod : burstingLamp.Refuses (.new .delete "/lamps/7")
      (.forbidden "invalid method DELETE, wanted GET") := .guard rfl
  obtain ⟨-, -, -, -, -, -, htells, -⟩ :=
    handle_eq_iff_answers burstingLamp ⟨(), [], []⟩ (.new .get "/lamps/7")
  obtain ⟨-, -, -, hrefused, -⟩ :=
    handle_eq_iff_answers burstingLamp ⟨(), [], []⟩ (.new .delete "/lamps/7")
  exact ⟨⟨hpanic, htells _ hpanic⟩, hmethod, (hrefused _ hmethod).1⟩

end CompiledRoute

end SchemaRouting
