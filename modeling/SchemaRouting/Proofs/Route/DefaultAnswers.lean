import SchemaRouting.Proofs.Pipeline.Alike
import SchemaRouting.Proofs.Pipeline.Resolution
import SchemaRouting.Proofs.Route.ValidatedCalls

/-!
# What the handler of an operation answers

The handler of an operation asks its factory for the method of the route, if there is one that the
factory knows, and else makes the canonical call. Either way it is as if the canonical call of some
factory were made (`Factory.AnsweredAs`): the factory's own, or that of one which makes the call of
the method and takes its value for what the operation returns (`Factory.ofAction`). What that call
gives is told per operation, with the status and the body that are answered (`Factory.Gives`), and
so is the error that it fails with (`Factory.FailsWith`). The handler does just that
(`Resolution.servesBy`), and an error is also what the route is answered with
(`default_answers_canonical_call`).
-/

set_option autoImplicit false
set_option relaxedAutoImplicit false

namespace SchemaRouting

open Dispatch (State SameResult SameWork sameResult_iff)

variable {σ : Type}

/-! ### Calls of a factory -/

@[simp] theorem Reply.map_map {α β γ : Type} (f : α → β) (g : β → γ) (reply : Reply α) :
    (reply.map f).map g = reply.map fun a ↦ g (f a) := by
  cases reply <;> rfl

namespace Factory

/-- The items that a value is taken for. -/
def itemsOf : Json → List Json
  | .array values => values
  | .null => []
  | v => [v]

/-- The factory whose canonical calls all make one call and return its value: as items for a list,
and not at all for a removal. -/
def ofAction (action : Action σ Json) : Factory σ where
  list _ app := ((action app).1.map itemsOf, (action app).2)
  get _ := action
  create _ := action
  update _ := action
  remove _ app := ((action app).1.map fun _ ↦ (), (action app).2)
  custom _ _ _ := none

/-- What is asked of a factory is answered by the canonical call of another one: of itself if no
method is asked for, or the canonical one, or one that it does not know, and otherwise of the
factory that returns the value of its method. -/
inductive AnsweredAs (f : Factory σ) (method : Option String) (operation : FactoryOperation)
    (call : FactoryCall) : Factory σ → Prop
  | unset : method = none → AnsweredAs f method operation call f
  | canonical : method = some operation.name → AnsweredAs f method operation call f
  | unknown {name : String} : method = some name → f.custom name operation call = none →
    AnsweredAs f method operation call f
  | known {name : String} {action : Action σ Json} : method = some name → name ≠ operation.name →
    f.custom name operation call = some action →
    AnsweredAs f method operation call (ofAction action)

/-- The canonical call of an operation returns a value. The operation answers with a status and a
body, and leaves the application in a state. -/
inductive Gives (f : Factory σ) (id : String) (call : FactoryCall) (app : σ) :
    OperationKind → Json → Nat → Json → σ → Prop
  | list {values : List Json} {app' : σ} : f.list call app = (.ok values, app') →
    Gives f id call app .list (.array values) 200
      (.object [(id, .array (values.filter (· ≠ .null)))]) app'
  | get {v : Json} {app' : σ} : f.get call app = (.ok v, app') →
    Gives f id call app .get v 200 v app'
  | post {v : Json} {app' : σ} : f.create call app = (.ok v, app') →
    Gives f id call app .post v 201 v app'
  | put {v : Json} {app' : σ} : f.update call app = (.ok v, app') →
    Gives f id call app .put v 200 v app'
  | patch {v : Json} {app' : σ} : f.update call app = (.ok v, app') →
    Gives f id call app .patch v 200 v app'
  | delete {app' : σ} : f.remove call app = (.ok (), app') →
    Gives f id call app .delete .null 204 (.object []) app'

/-- The canonical call of an operation fails with an error. -/
inductive FailsWith (f : Factory σ) (call : FactoryCall) (app : σ) :
    OperationKind → RouteError → σ → Prop
  | list {e : RouteError} {app' : σ} : f.list call app = (.error e, app') →
    FailsWith f call app .list e app'
  | get {e : RouteError} {app' : σ} : f.get call app = (.error e, app') →
    FailsWith f call app .get e app'
  | post {e : RouteError} {app' : σ} : f.create call app = (.error e, app') →
    FailsWith f call app .post e app'
  | put {e : RouteError} {app' : σ} : f.update call app = (.error e, app') →
    FailsWith f call app .put e app'
  | patch {e : RouteError} {app' : σ} : f.update call app = (.error e, app') →
    FailsWith f call app .patch e app'
  | delete {e : RouteError} {app' : σ} : f.remove call app = (.error e, app') →
    FailsWith f call app .delete e app'

variable {f g : Factory σ} {id : String} {method : Option String} {operation : FactoryOperation}
  {call : FactoryCall} {app app' : σ} {kind : OperationKind}

theorem exists_answeredAs (f : Factory σ) (method : Option String) (operation : FactoryOperation)
    (call : FactoryCall) : ∃ g, f.AnsweredAs method operation call g := by
  cases method with
  | none => exact ⟨f, .unset rfl⟩
  | some name =>
    by_cases hname : name = operation.name
    · exact ⟨f, .canonical (congrArg some hname)⟩
    · cases hcustom : f.custom name operation call with
      | none => exact ⟨f, .unknown rfl hcustom⟩
      | some action => exact ⟨ofAction action, .known rfl hname hcustom⟩

section Canonical

variable (f : Factory σ) (call : FactoryCall) (app : σ)

@[simp] theorem canonical_list : f.canonical .list call app =
    ((f.list call app).1.map .items, (f.list call app).2) := rfl

@[simp] theorem canonical_get : f.canonical .get call app =
    ((f.get call app).1.map .item, (f.get call app).2) := rfl

@[simp] theorem canonical_create : f.canonical .create call app =
    ((f.create call app).1.map .item, (f.create call app).2) := rfl

@[simp] theorem canonical_update : f.canonical .update call app =
    ((f.update call app).1.map .item, (f.update call app).2) := rfl

@[simp] theorem canonical_remove : f.canonical .remove call app =
    ((f.remove call app).1.map fun _ ↦ .removed, (f.remove call app).2) := rfl

end Canonical

/-- Returned by a canonical call, a value counts as what it counts as under the operation. -/
theorem canonical_ofAction (action : Action σ Json) (operation : FactoryOperation)
    (call : FactoryCall) (app : σ) : (ofAction action).canonical operation call app =
      ((action app).1.map (.ofJson operation), (action app).2) := by
  have hitems : (fun v ↦ .items (itemsOf v)) = FactoryOutput.ofJson .list := by
    funext v
    cases v <;> rfl
  cases operation with
  | list => simp [ofAction, hitems]
  | get => rfl
  | create => rfl
  | update => rfl
  | remove =>
    simp only [canonical_remove, ofAction, Reply.map_map]
    rfl

theorem Gives.canonical {raw body : Json} {status : Nat}
    (h : f.Gives id call app kind raw status body app') :
    ∃ output, f.canonical kind.factoryOperation call app = (.ok output, app') ∧
      output.toJson = raw ∧ Step.answerOf kind id output = (⟨status⟩, body) := by
  cases h with
  | @list values _ hcall =>
    have hnull : (fun v : Json ↦ !v.isNull) = fun v ↦ decide (v ≠ .null) := by
      funext v
      cases v <;> simp [Json.isNull]
    refine ⟨.items values, ?_, rfl, ?_⟩
    · simp [OperationKind.factoryOperation, hcall, Reply.map]
    · unfold Step.answerOf
      rw [hnull]
      rfl
  | get hcall | post hcall | put hcall | patch hcall =>
    refine ⟨.item raw, ?_, rfl, rfl⟩
    simp [OperationKind.factoryOperation, hcall, Reply.map]
  | delete hcall =>
    refine ⟨.removed, ?_, rfl, rfl⟩
    simp [OperationKind.factoryOperation, hcall, Reply.map]

theorem FailsWith.canonical {e : RouteError} (h : f.FailsWith call app kind e app') :
    f.canonical kind.factoryOperation call app = (.error e, app') := by
  cases h with
  | list hcall | get hcall | post hcall | put hcall | patch hcall | delete hcall =>
    simp [OperationKind.factoryOperation, hcall, Reply.map]

end Factory

/-! ### The handler of an operation -/

namespace Step

/-- A factory is called as the one that answers for it is called canonically, up to notes. -/
theorem exists_callFactory_eq {f g : Factory σ} {bind : Bind σ} {operation : FactoryOperation}
    {call : FactoryCall} (h : f.AnsweredAs bind.factoryMethod operation call g) (s : State σ) :
    ∃ notes, callFactory f bind operation call s =
      ((g.canonical operation call s.app).1,
        { s with app := (g.canonical operation call s.app).2, notes }) := by
  have hcanonical (hnone : f.override? bind.factoryMethod operation call = none) :
      ∃ notes, callFactory f bind operation call s =
        ((f.canonical operation call s.app).1,
          { s with app := (f.canonical operation call s.app).2, notes }) := by
    rw [callFactory, hnone]
    exact ⟨_, rfl⟩
  cases h with
  | unset hmethod => exact hcanonical (by rw [hmethod]; rfl)
  | canonical hmethod => exact hcanonical (by simp [hmethod, Factory.override?])
  | unknown hmethod hcustom => exact hcanonical (by simp [hmethod, Factory.override?, hcustom])
  | @known name action hmethod hne hcustom =>
    have hown : f.override? bind.factoryMethod operation call = some action := by
      simp [hmethod, Factory.override?, hne, hcustom]
    rw [callFactory, hown, Factory.canonical_ofAction]
    exact ⟨s.notes, rfl⟩

end Step

/-- The settings of a route without a method of its own. -/
def Bind.plain (bind : Bind σ) : Bind σ := { bind with factoryMethod := none }

namespace Resolution

variable (x : Resolution σ) (kind : OperationKind)

/-- What the request tells the factory. -/
def call : FactoryCall := .ofRequest x.on.request

/-- A factory is found, and the canonical call of another one answers for it. -/
def AnsweredAs (g : Factory σ) : Prop :=
  ∃ f, x.found = .made f ∧ f.AnsweredAs x.bind.factoryMethod kind.factoryOperation x.call g

/-- The request with what a factory returned, and the response that answers with it. -/
structure Returned (t : State σ) (raw : Json) (status : Nat) (body : Json) : Prop where
  request : t.request =
    { x.on.request with context := { x.on.request.context with responseObject := some raw } }
  response : t.response = { x.on.response with status := ⟨status⟩, body := some body }

/-- The request as it was, and the response that tells of an error. -/
structure Failed (t : State σ) (e : RouteError) : Prop where
  request : t.request = x.on.request
  response : t.response = x.on.response.withError e

/-- The handler of an operation serves by the canonical call of a factory. -/
structure ServesBy (g : Factory σ) : Prop where
  returns : ∀ raw status body app, g.Gives x.bind.id x.call x.left.app kind raw status body app →
    ∃ t, (Step.default kind x.bind).run x.on = (.proceed, t) ∧ x.Returned t raw status body ∧
      t.app = app ∧ t.defaults = x.left.defaults
  fails : ∀ e app, g.FailsWith x.call x.left.app kind e app →
    ∃ t, (Step.default kind x.bind).run x.on = (.fail e, t) ∧ x.Failed t e ∧
      t.app = app ∧ t.defaults = x.left.defaults

variable {x kind}

theorem request_left (x : Resolution σ) : x.left.request = x.on.request :=
  Step.resolveFactory_request x.bind x.on

theorem response_left (x : Resolution σ) : x.left.response = x.on.response :=
  Step.resolveFactory_response x.bind x.on

theorem run_default_of_made {f : Factory σ} (h : x.found = .made f) :
    (Step.default kind x.bind).run x.on = Step.answerBy f kind x.bind x.left := by
  have hfound : Step.resolveFactory x.bind x.on = (.made f, x.left) := by rw [← h]; rfl
  rw [Step.run, Step.runDefault, hfound]

theorem exists_callFactory_eq {f g : Factory σ}
    (h : f.AnsweredAs x.bind.factoryMethod kind.factoryOperation x.call g) :
    ∃ notes, Step.callFactory f x.bind kind.factoryOperation (.ofRequest x.left.request) x.left =
      ((g.canonical kind.factoryOperation x.call x.left.app).1,
        { x.left with app := (g.canonical kind.factoryOperation x.call x.left.app).2, notes }) := by
  rw [request_left]
  exact Step.exists_callFactory_eq h x.left

/-- Assumes: a factory that answers for the one that is found. -/
theorem servesBy {g : Factory σ} (h : x.AnsweredAs kind g) : x.ServesBy kind g := by
  obtain ⟨f, hmade, hanswered⟩ := h
  obtain ⟨notes, hcall⟩ := exists_callFactory_eq hanswered
  constructor
  · intro raw status body app hgives
    obtain ⟨output, hcanonical, hraw, hanswer⟩ := hgives.canonical
    rw [hcanonical] at hcall
    rw [run_default_of_made hmade, Step.answerBy, hcall]
    dsimp only
    rw [hanswer, hraw]
    refine ⟨_, rfl, ⟨?_, ?_⟩, rfl, rfl⟩
    · simp [State.withRequest, State.withResponse, request_left]
    · simp [State.withRequest, State.withResponse, Response.withStatus, Response.withJson,
        response_left]
  · intro e app hfails
    rw [hfails.canonical] at hcall
    rw [run_default_of_made hmade, Step.answerBy, hcall]
    refine ⟨_, rfl, ⟨?_, ?_⟩, rfl, rfl⟩
    · simp [State.note, State.withResponse, request_left]
    · simp [State.note, State.withResponse, response_left]

/-- Assumes: calls of two factories with one result, which is answered alike. -/
theorem answerBy_sameResult {f g : Factory σ} {kind kind' : OperationKind} {bind bind' : Bind σ}
    {s t : State σ} (hanswer : Step.answerOf kind bind.id = Step.answerOf kind' bind'.id)
    (hcall : SameResult (Step.callFactory f bind kind.factoryOperation (.ofRequest s.request) s)
      (Step.callFactory g bind' kind'.factoryOperation (.ofRequest t.request) t)) :
    SameResult (Step.answerBy f kind bind s) (Step.answerBy g kind' bind' t) := by
  obtain ⟨notes, hcall⟩ := sameResult_iff.mp hcall
  unfold Step.answerBy
  rw [hcall]
  generalize Step.callFactory f bind kind.factoryOperation (.ofRequest s.request) s = called
  obtain ⟨reply, left⟩ := called
  cases reply with
  | ok output =>
    dsimp only
    rw [hanswer]
    exact ⟨rfl, rfl, rfl⟩
  | error e => exact ⟨rfl, rfl, rfl⟩
  | panic message => exact ⟨rfl, rfl, rfl⟩

/-- A method that is not the factory's own, or that is the canonical one, may as well not be asked
for. -/
theorem run_plain_sameResult {f : Factory σ} (hmade : x.found = .made f)
    (h : x.AnsweredAs kind f) :
    SameResult ((Step.default kind x.bind.plain).run x.on)
      ((Step.default kind x.bind).run x.on) := by
  obtain ⟨f', hmade', hanswered⟩ := h
  rw [hmade] at hmade'
  cases hmade'
  let plain : Resolution σ := ⟨x.bind.plain, x.on⟩
  have hplain : f.AnsweredAs plain.bind.factoryMethod kind.factoryOperation plain.call f :=
    .unset rfl
  have hmade_plain : plain.found = .made f := hmade
  obtain ⟨notes, hcall⟩ := exists_callFactory_eq hanswered
  obtain ⟨notes', hcall'⟩ := exists_callFactory_eq hplain
  have hrun : (Step.default kind x.bind.plain).run x.on =
      Step.answerBy f kind x.bind.plain plain.left := run_default_of_made hmade_plain
  rw [run_default_of_made hmade, hrun]
  refine answerBy_sameResult rfl ?_
  rw [hcall, hcall']
  exact ⟨rfl, rfl, rfl⟩

/-- The canonical call of the factory that answers, from the context of the request, does the same.
-/
theorem run_withFactory_sameResult {g : Factory σ} (h : x.AnsweredAs kind g) :
    SameResult ((Step.default kind x.bind.plain).run (Step.withFactory x.left g))
      (((Step.default kind x.bind).run x.on).1,
        Step.withFactory ((Step.default kind x.bind).run x.on).2 g) := by
  obtain ⟨f, hmade, hanswered⟩ := h
  have hplain : g.AnsweredAs x.bind.plain.factoryMethod kind.factoryOperation x.call g := .unset rfl
  obtain ⟨notes, hcall⟩ := exists_callFactory_eq hanswered
  obtain ⟨notes', hcall'⟩ := Step.exists_callFactory_eq hplain (Step.withFactory x.left g)
  have htold : FactoryCall.ofRequest (Step.withFactory x.left g).request = x.call := by
    show FactoryCall.ofRequest x.left.request = x.call
    rw [request_left]
    rfl
  have hfound : Step.resolveFactory x.bind.plain (Step.withFactory x.left g) =
      (.made g, Step.withFactory x.left g) := rfl
  have happ : (Step.withFactory x.left g).app = x.left.app := rfl
  rw [run_default_of_made hmade, Step.run, Step.runDefault, hfound, Step.answerBy]
  dsimp only
  rw [Step.answerBy, htold, hcall, hcall', happ]
  generalize g.canonical kind.factoryOperation x.call x.left.app = called
  obtain ⟨reply, app⟩ := called
  cases reply <;> exact ⟨rfl, rfl, rfl⟩

theorem run_patch_sameResult (x : Resolution σ) :
    SameResult ((Step.default .patch x.bind).run x.on) ((Step.default .put x.bind).run x.on) := by
  cases hfound : x.found with
  | made f =>
    rw [run_default_of_made hfound, run_default_of_made hfound]
    apply answerBy_sameResult
    · funext output
      cases output <;> rfl
    · exact ⟨rfl, .refl _⟩
  | panicked message =>
    rw [(Step.run_of_panicked hfound).2, (Step.run_of_panicked hfound).2]
    exact ⟨rfl, .refl _⟩

end Resolution

namespace CompiledRoute

variable {r : CompiledRoute σ} {shared : Shared σ} {request : Request (Factory σ)}

/-- Assumes: a route that leads to the handler of an operation, which fails with an error. -/
theorem handle_tells_of_default_fails {front back : List (Step σ)} {kind : OperationKind}
    {bind : Bind σ} {s t : State σ} {e : RouteError}
    (hsteps : r.pipeline.steps = front ++ .default kind bind :: back)
    (hleads : r.LeadsTo shared request front s)
    (hfails : (Step.default kind bind).run s = (.fail e, t)) :
    (r.handle shared request).1.Tells e := by
  obtain ⟨params, haccept, hfront⟩ := hleads
  have hstops : Dispatch.StopsAt front (.default kind bind) (r.start shared request params)
      (.failed (Step.defaultName kind) e) t := ⟨s, .fail e, hfront, hfails, .fail e⟩
  have hends : r.Ends shared request (.failed (Step.defaultName kind) e) t := by
    refine ⟨params, haccept, ?_⟩
    rw [hsteps]
    exact Dispatch.runSteps_of_stopsAt hstops back
  have htells := Step.tells_of_default_fails hfails
  have hwritten : t.response.isWritten = true := by simp [Response.isWritten, htells.body]
  rw [handle_of_ends hends]
  simpa [answer, Outcome.error?, hwritten] using htells

end CompiledRoute

/-- The handler of an operation finds a factory, and the canonical call of that factory or of one
that stands for its method answers: with the raw result as the response object and the status and
body of the operation, or with the error, the request being as it was. A method that is not asked
for or is not the factory's own makes no difference, and a route that fails in the handler answers
with its error. Where the building of a factory panics, there is none to call, and so does the
handler. -/
theorem default_answers_canonical_call (kind : OperationKind) (x : Resolution σ) :
    (∀ f, x.found = .made f → ∃ g, x.AnsweredAs kind g) ∧
    (∀ g, x.AnsweredAs kind g → x.ServesBy kind g ∧
      SameResult ((Step.default kind x.bind.plain).run (Step.withFactory x.left g))
        (((Step.default kind x.bind).run x.on).1,
          Step.withFactory ((Step.default kind x.bind).run x.on).2 g)) ∧
    (∀ f, x.found = .made f → x.AnsweredAs kind f →
      SameResult ((Step.default kind x.bind.plain).run x.on)
        ((Step.default kind x.bind).run x.on)) ∧
    SameResult ((Step.default .patch x.bind).run x.on) ((Step.default .put x.bind).run x.on) ∧
    (∀ e t, (Step.default kind x.bind).run x.on = (.fail e, t) →
      ∀ (r : CompiledRoute σ) (shared : Shared σ) (request : Request (Factory σ))
        (front back : List (Step σ)), r.pipeline.steps = front ++ .default kind x.bind :: back →
        r.LeadsTo shared request front x.on → (r.handle shared request).1.Tells e) ∧
    ∀ message, x.found = .panicked message →
      (Step.default kind x.bind).run x.on = (.panic message, x.left) := by
  refine ⟨fun f hmade ↦ ?_,
    fun _ hg ↦ ⟨Resolution.servesBy hg, Resolution.run_withFactory_sameResult hg⟩,
    fun _ hmade hf ↦ Resolution.run_plain_sameResult hmade hf, x.run_patch_sameResult,
    fun _ _ hfails _ _ _ _ _ hsteps hleads ↦
      CompiledRoute.handle_tells_of_default_fails hsteps hleads hfails,
    fun _ hpanicked ↦ (Step.run_of_panicked hpanicked).2 kind⟩
  obtain ⟨g, hg⟩ := f.exists_answeredAs x.bind.factoryMethod kind.factoryOperation x.call
  exact ⟨g, f, hmade, hg⟩

/-- A factory for the lamps of a hall. It knows a method that finds them and one that fails. -/
def hallFactory : Factory Unit :=
  { Factory.base with custom := fun name _ _ ↦
      if name = "lit" then some fun app ↦ (.ok (.array [.null, .string "lamp"]), app)
      else if name = "dark" then some fun app ↦ (.error (.factory ⟨409⟩ "dark" none), app)
      else none }

/-- The settings of a route that asks the hall's factory for a method. -/
def hallBind (method : String) : Bind Unit :=
  ⟨"lamps", none, some "hall", some method,
    .new (Services.baseRegistry.register "hall" hallFactory)⟩

def hallLamps (method : String) : CompiledRoute Unit :=
  ⟨"lamps", "list", .list, ⟨"/lamps"⟩, ⟨"/lamps", [.default .list (hallBind method)]⟩,
    hallBind method⟩

/-- The factory as the handler of the route looks for it. -/
def hallFound (method : String) : Resolution Unit :=
  ⟨hallBind method, (hallLamps method).start ⟨(), [], []⟩ (.new .get "/lamps") .empty⟩

/-- The lamps that are found are listed, and the failure is answered as it is. -/
theorem hall_lamps_lit_or_dark :
    (∃ t, (Step.default .list (hallBind "lit")).run (hallFound "lit").on = (.proceed, t) ∧
      (hallFound "lit").Returned t (.array [.null, .string "lamp"]) 200
        (.object [("lamps", .array [.string "lamp"])])) ∧
    ((hallLamps "dark").handle ⟨(), [], []⟩ (.new .get "/lamps")).1.Tells
      (.factory ⟨409⟩ "dark" none) := by
  constructor
  · have hlit : (hallFound "lit").AnsweredAs .list
        (.ofAction fun app ↦ (.ok (.array [.null, .string "lamp"]), app)) :=
      ⟨hallFactory, rfl, .known rfl (by decide) rfl⟩
    obtain ⟨-, hserves, -⟩ := default_answers_canonical_call .list (hallFound "lit")
    obtain ⟨t, hrun, hreturned, -, -⟩ := (hserves _ hlit).1.returns _ _ _ _ (.list rfl)
    exact ⟨t, hrun, hreturned⟩
  · have hdark : (hallFound "dark").AnsweredAs .list
        (.ofAction fun app ↦ (.error (.factory ⟨409⟩ "dark" none), app)) :=
      ⟨hallFactory, rfl, .known rfl (by decide) rfl⟩
    obtain ⟨-, hserves, -, -, htells, -⟩ := default_answers_canonical_call .list (hallFound "dark")
    obtain ⟨t, hrun, -, -, -⟩ := (hserves _ hdark).1.fails _ _ (.list rfl)
    exact htells _ t hrun (hallLamps "dark") _ _ [] [] rfl ⟨_, rfl, .nil _⟩

end SchemaRouting
