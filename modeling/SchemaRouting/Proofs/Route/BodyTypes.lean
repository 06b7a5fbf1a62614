import SchemaRouting.Proofs.Route.Finding
import SchemaRouting.Proofs.Route.ValidatedCalls

/-!
# Bodies of routes that are posted or put to

A route that is posted or put to runs on a request exactly if the path matches and the request has
the route's method and a body of an accepted type (`CarriesBody`), or asks for the options of the
route (`CompiledRoute.run_eq_ok_iff_carriesBody`). The guard looks for the type of a body by the
method of the request and not by that of the route, and lets the method of options through for
every route, so a request for options runs the steps whatever it carries
(`options_reach_posted_lamp`). Any other request that such a route runs its steps on carries a body
of an accepted type (`runs_on_body_or_options`).
-/

set_option autoImplicit false
set_option relaxedAutoImplicit false

namespace SchemaRouting

open Dispatch (State)

variable {σ : Type}

/-- A request says that it carries a body of one of the two accepted types. -/
def CarriesBody (request : Request (Factory σ)) : Prop :=
  ∃ contentType, request.contentType? = some contentType ∧
    (Http.mediaType contentType = "application/json" ∨
      Http.mediaType contentType = "application/x-www-form-urlencoded")

namespace CompiledRoute

variable {r : CompiledRoute σ} {request : Request (Factory σ)} {shared : Shared σ}

theorem isAcceptedBody_iff :
    isAcceptedBody request.contentType? = true ↔ CarriesBody request := by
  rw [isAcceptedBody, CarriesBody]
  cases request.contentType? with
  | none => simp
  | some contentType => simp [acceptedBodyTypes, Http.jsonType, Http.formType]

theorem needsBody_iff {method : Http.Method} :
    needsBody method = true ↔ method = .post ∨ method = .put := by
  simp [needsBody]

theorem guard_eq_ok_iff {method : Http.Method} {contentType : Option String} :
    r.guard method contentType = .ok () ↔ (method = .options ∨ method = r.method) ∧
      (needsBody method = true → isAcceptedBody contentType = true) := by
  rw [guard]
  cases needsBody method <;> cases isAcceptedBody contentType <;> simp [or_iff_not_imp_left]

/-- Assumes: a route that is posted or put to. Its guard lets a request for its options pass, and
one by its own method that carries a body. -/
theorem guard_eq_ok_iff_carriesBody (hposts : r.method = .post ∨ r.method = .put) :
    r.guard request.method request.contentType? = .ok () ↔
      request.method = .options ∨ request.method = r.method ∧ CarriesBody request := by
  have hneeds : needsBody r.method = true := needsBody_iff.mpr hposts
  have hoptions : needsBody .options = false := rfl
  rw [guard_eq_ok_iff, isAcceptedBody_iff]
  constructor
  · rintro ⟨hmethod | hmethod, hbody⟩
    · exact .inl hmethod
    · rw [hmethod] at hbody
      exact .inr ⟨hmethod, hbody hneeds⟩
  · rintro (hmethod | ⟨hmethod, hbody⟩)
    · refine ⟨.inl hmethod, fun hneedsBody ↦ ?_⟩
      rw [hmethod, hoptions] at hneedsBody
      cases hneedsBody
    · exact ⟨.inr hmethod, fun _ ↦ hbody⟩

theorem accept_of_run_eq_ok {s : State σ} {outcome : Outcome} (h : (r.run s).1 = .ok outcome) :
    ∃ params, r.accept s.request = .ok params := by
  cases haccept : r.accept s.request with
  | ok params => exact ⟨params, rfl⟩
  | error e =>
    rw [run_of_refuses (accept_eq_error_iff.mp haccept)] at h
    cases h

/-- Assumes: a route that is posted or put to. It runs on a request if its path matches, and it
asks for options or has the method of the route and carries a body. -/
theorem run_eq_ok_iff_carriesBody (hposts : r.method = .post ∨ r.method = .put) (s : State σ) :
    (∃ outcome, (r.run s).1 = .ok outcome) ↔
      (s.request.method = .options ∨ s.request.method = r.method ∧ CarriesBody s.request) ∧
        ∃ params, r.pattern.extract s.request.path = .ok params := by
  constructor
  · rintro ⟨outcome, hrun⟩
    obtain ⟨params, haccept⟩ := accept_of_run_eq_ok hrun
    obtain ⟨hguard, hextract⟩ := accept_eq_ok_iff.mp haccept
    exact ⟨(guard_eq_ok_iff_carriesBody hposts).mp hguard, params, hextract⟩
  · rintro ⟨hmethod, params, hextract⟩
    have hguard := (guard_eq_ok_iff_carriesBody hposts).mpr hmethod
    rw [run_eq_dispatch (accept_eq_ok_iff.mpr ⟨hguard, hextract⟩)]
    exact ⟨_, rfl⟩

theorem accept_of_stepsRun_ne_nil (h : r.stepsRun shared request ≠ []) :
    ∃ params, r.accept request = .ok params := by
  cases haccept : r.accept request with
  | ok params => exact ⟨params, rfl⟩
  | error e => exact absurd (stepsRun_of_refuses (accept_eq_error_iff.mp haccept)) h

/-- Assumes: a route that is posted or put to. A request on which it runs any step carries a body
of an accepted type, unless it asks for the options of the route; the steps that it runs answer the
request as all of its steps do. The route runs on exactly the requests whose path matches and that
ask for options, or have its method and carry such a body; on any other it ends with an error,
leaves everything as it is, and would do so whatever its steps were. -/
theorem runs_on_body_or_options (hposts : r.method = .post ∨ r.method = .put) :
    (∀ (shared : Shared σ) (request : Request (Factory σ)), r.stepsRun shared request ≠ [] →
      request.method = .options ∨ CarriesBody request) ∧
    (∀ (shared : Shared σ) (request : Request (Factory σ)),
      (r.withSteps (r.stepsRun shared request)).handle shared request =
        r.handle shared request) ∧
    ∀ s : State σ,
      ((∃ outcome, (r.run s).1 = .ok outcome) ↔
        (s.request.method = .options ∨ s.request.method = r.method ∧ CarriesBody s.request) ∧
          ∃ params, r.pattern.extract s.request.path = .ok params) ∧
      ((∃ outcome, (r.run s).1 = .ok outcome) ∨
        ∃ e, ∀ pipeline, ({ r with pipeline } : CompiledRoute σ).run s = (.error e, s)) := by
  refine ⟨fun shared request hsteps ↦ ?_, handle_withSteps_stepsRun r,
    fun s ↦ ⟨run_eq_ok_iff_carriesBody hposts s, ?_⟩⟩
  · obtain ⟨params, haccept⟩ := accept_of_stepsRun_ne_nil hsteps
    have hguard := (accept_eq_ok_iff.mp haccept).1
    exact ((guard_eq_ok_iff_carriesBody hposts).mp hguard).imp_right And.right
  · cases haccept : r.accept s.request with
    | ok params =>
      rw [run_eq_dispatch haccept]
      exact .inl ⟨_, rfl⟩
    | error e =>
      refine .inr ⟨e, fun pipeline ↦ ?_⟩
      have hother : ({ r with pipeline } : CompiledRoute σ).accept s.request = .error e := haccept
      exact run_of_refuses (accept_eq_error_iff.mp hother)

end CompiledRoute

namespace Schema

/-- A schema of lamps with a route that they are posted to. -/
def postedLamps : Definition Unit :=
  { (Settings.empty : Definition Unit) with
    path := some "/lamps"
    routes := [("post", .empty)] }

/-- The compiled route. -/
def postedLamp : CompiledRoute Unit :=
  plainCompiler.assemble ⟨"lamps", "post", postedLamps, .empty, .post⟩

/-- A request for lamps by a method, with a content type. -/
def lampsAsked (method : Http.Method) (contentType : String) : Request (Factory Unit) :=
  (Request.new method "/lamps").withHeader "content-type" contentType

/-- A lamp that is posted as a form is one that the steps are run on, and its type is accepted
however it is spelt. -/
theorem posted_form_carries_body :
    plainCompiler.compile (.single postedLamps) "lamps" "post" = .ok postedLamp ∧
    postedLamp.method = .post ∧
    postedLamp.stepsRun ⟨(), [], []⟩
      (lampsAsked .post " Application/X-WWW-Form-Urlencoded ; charset=utf-8") ≠ [] ∧
    CarriesBody (lampsAsked .post " Application/X-WWW-Form-Urlencoded ; charset=utf-8") := by
  have hsteps : postedLamp.stepsRun ⟨(), [], []⟩
      (lampsAsked .post " Application/X-WWW-Form-Urlencoded ; charset=utf-8") ≠ [] :=
    List.cons_ne_nil _ _
  have hcarries := (CompiledRoute.runs_on_body_or_options (r := postedLamp) (.inl rfl)).1 _ _ hsteps
  have hmethod : Http.Method.post ≠ .options := by decide
  exact ⟨rfl, rfl, hsteps, hcarries.resolve_left hmethod⟩

/-- It is not so that every request carries a body of an accepted type that steps of a route are run
on to which lamps are posted: one that asks for its options need not carry any. -/
theorem options_reach_posted_lamp :
    ¬ ∀ (r : CompiledRoute Unit) (shared : Shared Unit) (request : Request (Factory Unit)),
      plainCompiler.compile (.single postedLamps) "lamps" "post" = .ok r →
      (r.method = .post ∨ r.method = .put) → r.stepsRun shared request ≠ [] →
      CarriesBody request := by
  intro h
  have hsteps : postedLamp.stepsRun ⟨(), [], []⟩ (.new .options "/lamps") ≠ [] :=
    List.cons_ne_nil _ _
  obtain ⟨contentType, hcontentType, -⟩ := h postedLamp _ _ rfl (.inl rfl) hsteps
  cases hcontentType

end Schema

end SchemaRouting
