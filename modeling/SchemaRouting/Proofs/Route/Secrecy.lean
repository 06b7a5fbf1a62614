import SchemaRouting.Proofs.Pipeline.Alike
import SchemaRouting.Proofs.Route.Finding

/-!
# Answers keep secret texts

Two runs of a route are the same but for secret texts if they serve alike requests
(`Request.Alike`) by routes of the same form (`CompiledRoute.SameForm`) and what they hear from the
application is alike (`CompiledRoute.reports`). They are answered with one and the same response:
the errors they end with, if any, are alike, and nothing that is written depends on more than that.
A request that no route of a table is found for is answered with the same response whatever it is
(`answers_keep_secret_texts`).
-/

set_option autoImplicit false
set_option relaxedAutoImplicit false

namespace SchemaRouting

open Dispatch (State)

variable {σ : Type}

namespace CompiledRoute

/-- Two routes of the same kind and pattern, and with steps of the same kinds. -/
structure SameForm (r r' : CompiledRoute σ) : Prop where
  kind : r.kind = r'.kind
  pattern : r.pattern = r'.pattern
  steps : List.Forall₂ Step.SameKind r.pipeline.steps r'.pipeline.steps

/-- What the steps of a route hear while it serves a request; those of one that refuses it hear
nothing. -/
def reports (r : CompiledRoute σ) (shared : Shared σ) (request : Request (Factory σ)) :
    List (Report σ) :=
  match r.accept request with
  | .ok params => Dispatch.reports r.pipeline.steps (r.start shared request params)
  | .error _ => []

variable {r r' : CompiledRoute σ} {shared shared' : Shared σ}
  {request request' : Request (Factory σ)}

theorem SameForm.accept_eq (hform : r.SameForm r') (hrequest : request.Alike request') :
    r.accept request = r'.accept request' := by
  have hguard : r.guard = r'.guard := by
    funext asked contentType
    rw [guard, guard, CompiledRoute.method, CompiledRoute.method, hform.kind]
  have hextract : r.extract = r'.extract := by
    funext path
    rw [extract, extract, hform.pattern]
  obtain ⟨factory, rfl⟩ := hrequest
  rw [accept, accept, hguard, hextract]
  rfl

/-- The exchanges that alike requests start with. -/
theorem start_alike (hrequest : request.Alike request') (params : Path.Params) :
    (r.start shared request params).toExchange.Alike
      (r'.start shared' request' params).toExchange := by
  obtain ⟨factory, rfl⟩ := hrequest
  exact ⟨⟨factory, rfl⟩, rfl⟩

/-- Alike outcomes of runs that left the same response are answered alike. -/
theorem answer_eq_of_alike {outcome outcome' : Outcome} (h : outcome.Alike outcome')
    (response : Response) : answer outcome response = answer outcome' response := by
  cases h with
  | completed => rfl
  | halted step => rfl
  | failed step he =>
    unfold answer
    dsimp only [Outcome.error?]
    rw [he.withError_eq]

theorem handle_eq_of_alike (hform : r.SameForm r') (hrequest : request.Alike request')
    (hreports : List.Forall₂ Report.Alike (r.reports shared request)
      (r'.reports shared' request')) :
    (r.handle shared request).1 = (r'.handle shared' request').1 := by
  have haccept := hform.accept_eq hrequest
  cases hparams : r.accept request with
  | error e =>
    have hparams' : r'.accept request' = .error e := by rw [← haccept, hparams]
    rw [handle_of_refuses (accept_eq_error_iff.mp hparams),
      handle_of_refuses (accept_eq_error_iff.mp hparams')]
  | ok params =>
    have hparams' : r'.accept request' = .ok params := by rw [← haccept, hparams]
    rw [reports, reports, hparams, hparams'] at hreports
    have hends : r.Ends shared request _ _ := ⟨params, hparams, rfl⟩
    have hends' : r'.Ends shared' request' _ _ := ⟨params, hparams', rfl⟩
    obtain ⟨houtcome, hleft⟩ :=
      Dispatch.runSteps_alike hform.steps (start_alike hrequest params) hreports
    rw [handle_of_ends hends, handle_of_ends hends', hleft.response]
    exact answer_eq_of_alike houtcome _

end CompiledRoute

/-- Whatever request no route is found for, its answer is that of an error of any message. -/
theorem RouteTable.handle_eq_ofError {t : RouteTable σ} {shared : Shared σ}
    {request : Request (Factory σ)} (h : t.find? request.method request.path = none)
    (message : String) : (t.handle shared request).1 = .ofError (.notFound message) := by
  rw [(handle_of_find?_eq_none h).1]
  exact (RouteError.Alike.notFound _ _).withError_eq .new

/-- Two runs of a route that are the same except for secret texts are answered with the same
response. They serve requests that differ at most in the factory in their context, by steps of the
same kinds, and the handlers, steps given directly, factories and sources of principals that they
ask answer alike when told alike things: the same but for the reason, message, operation or cause of
an error that is not told to clients and for what a panic says, also that of the building of a
default factory. The answer to a request that no route of a table is found for is the same for every
such table, method and path. -/
theorem answers_keep_secret_texts :
    (∀ (r r' : CompiledRoute σ) (shared shared' : Shared σ)
      (request request' : Request (Factory σ)), r.SameForm r' → request.Alike request' →
      List.Forall₂ Report.Alike (r.reports shared request) (r'.reports shared' request') →
      (r.handle shared request).1 = (r'.handle shared' request').1) ∧
    ∀ (t t' : RouteTable σ) (shared shared' : Shared σ) (request request' : Request (Factory σ)),
      t.find? request.method request.path = none →
      t'.find? request'.method request'.path = none →
      (t.handle shared request).1 = (t'.handle shared' request').1 ∧
        (t.handle shared request).1.status = .notFound := by
  refine ⟨fun r r' shared shared' request request' hform hrequest hreports ↦
    CompiledRoute.handle_eq_of_alike hform hrequest hreports,
    fun t t' shared shared' request request' h h' ↦ ?_⟩
  rw [RouteTable.handle_eq_ofError h "", RouteTable.handle_eq_ofError h' ""]
  exact ⟨rfl, rfl⟩

/-- A route that sets a header field, asks a source for the user, and answers with what a factory
replies. -/
def whisperingLamp (e : RouteError) (reply : Reply Json) : CompiledRoute Unit :=
  let lamps : Factory Unit := { Factory.base with get := fun _ app ↦ (reply, app) }
  let bind : Bind Unit := ⟨"lamps", none, none, none, .new (.new fun _ _ app ↦ (.made lamps, app))⟩
  { schemaId := "lamps", routeId := "get", kind := .get, pattern := ⟨"/lamps/:id"⟩, bind := bind
    pipeline := ⟨"/lamps/:id",
      [.direct "stamp" fun x ↦
        (.proceed, { x with response := x.response.withHeader "x-lamp" "7" }),
      .loadPrincipal (some fun _ app ↦ (.error e, app)), .default .get bind]⟩ }

/-- A request of a known user for one lamp. -/
def lampRequest : Request (Factory Unit) :=
  { Request.new .get "/lamps/7" with user := some (.withId "ada") }

theorem whisperingLamp_sameForm (e e' : RouteError) (reply reply' : Reply Json) :
    (whisperingLamp e reply).SameForm (whisperingLamp e' reply') where
  kind := rfl
  pattern := rfl
  steps := .cons (.direct ..) (.cons (.loadPrincipal ..) (.cons (.default _ rfl) .nil))

/-- What such a route hears when it serves that request. -/
theorem exists_whisperingLamp_reports : ∃ params, ∀ (e : RouteError) (reply : Reply Json),
    (whisperingLamp e reply).reports ⟨(), [], []⟩ lampRequest =
      [.act ⟨{ lampRequest with params }, .new, ()⟩ .proceed
          ⟨{ lampRequest with params }, Response.new.withHeader "x-lamp" "7", ()⟩,
        .principal (.withId "ada") (.error e),
        .factory (.ofRequest { lampRequest with params }) (reply.map .item)] := by
  -- Whether the request is accepted is computed for one lamp and is the same for all.
  have hone : ∃ params, (whisperingLamp (.forbidden "") (.panic "")).accept lampRequest =
      .ok params := ⟨_, rfl⟩
  obtain ⟨params, hone⟩ := hone
  refine ⟨params, fun e reply ↦ ?_⟩
  have haccept : (whisperingLamp e reply).accept lampRequest = .ok params := by
    rw [← hone]
    exact (whisperingLamp_sameForm ..).accept_eq (.refl _)
  rw [CompiledRoute.reports, haccept]
  cases reply <;> rfl

theorem whisperingLamp_reports_alike {e e' : RouteError} {reply reply' : Reply Json}
    (he : e.Alike e') (hreply : (reply.map FactoryOutput.item).Alike (reply'.map .item)) :
    List.Forall₂ Report.Alike ((whisperingLamp e reply).reports ⟨(), [], []⟩ lampRequest)
      ((whisperingLamp e' reply').reports ⟨(), [], []⟩ lampRequest) := by
  obtain ⟨params, hreports⟩ := exists_whisperingLamp_reports
  rw [hreports, hreports]
  have hstamped (x y : Exchange Unit) (hleft : y.Alike y) :
      Report.Alike (.act x .proceed y) (.act x .proceed y) :=
    .act fun _ ↦ ⟨.proceed, hleft⟩
  exact .cons (hstamped _ _ ⟨.refl _, rfl⟩)
    (.cons (.principal fun _ ↦ .error he) (.cons (.factory fun _ ↦ hreply) .nil))

/-- Neither what the source says, nor what the factory fails with or panics with, shows in an
answer; nor does a path that is not there. -/
theorem whisperingLamp_keeps_secret_texts :
    let forbids := whisperingLamp (.forbidden "ada is banned")
    let fails := whisperingLamp (.forbidden "ada is unknown")
    let shared : Shared Unit := ⟨(), [], []⟩
    ((forbids (.error (.internal "fuse 7" (some "burnt")))).handle shared lampRequest).1 =
      ((fails (.error (.internal "socket 3" none))).handle shared lampRequest).1 ∧
    ((forbids (.panic "fuse 7")).handle shared lampRequest).1 =
      ((fails (.panic "socket 3")).handle shared lampRequest).1 ∧
    (RouteTable.handle ⟨[forbids (.panic "fuse 7")]⟩ shared (.new .put "/lamps/7")).1 =
      (RouteTable.handle ⟨[]⟩ shared (.new .get "/sockets")).1 := by
  intro forbids fails shared
  obtain ⟨hhandle, hmissing⟩ := answers_keep_secret_texts (σ := Unit)
  refine ⟨?_, ?_, ?_⟩
  · exact hhandle _ _ _ _ _ _ (whisperingLamp_sameForm ..) (.refl _)
      (whisperingLamp_reports_alike (.forbidden ..) (.error (.internal ..)))
  · exact hhandle _ _ _ _ _ _ (whisperingLamp_sameForm ..) (.refl _)
      (whisperingLamp_reports_alike (.forbidden ..) (.panic ..))
  · exact (hmissing _ _ _ _ _ _ rfl rfl).1

end SchemaRouting
