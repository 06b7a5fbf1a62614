import SchemaRouting.Proofs.Route.BodyTypes
import SchemaRouting.Proofs.Path.Extracting

/-!
# All or nothing before the steps of a route

Running a route asks its guard first and its pattern next, and dispatches its steps last. The guard
turns a request away that is to have a body and carries none of an accepted type, or else one of
another method than that of the route that does not ask for options (`TurnsAway`). Why a route does
not run is told by that and by how the path departs from the pattern, with the guard first
(`Rejects`), and that is just what the two refuse (`rejects_iff_refuses`).

A rejected request leaves the whole state as it was, and would do so whatever steps the route had
(`Rejects.run_eq`). Any other is dispatched with nothing but its parameters set
(`run_is_all_or_nothing`).
-/

set_option autoImplicit false
set_option relaxedAutoImplicit false

namespace SchemaRouting.CompiledRoute

open Dispatch (State)

variable {σ : Type}

/-- The error of a request by another method than that of the route. -/
def methodRefusal (r : CompiledRoute σ) (request : Request (Factory σ)) : RouteError :=
  .forbidden ("invalid method " ++ request.method.name ++ ", wanted " ++ r.method.name)

/-- The guard of a route turns a request away: it is posted or put and carries no body of an
accepted type, or its method is neither that of options nor that of the route. -/
def TurnsAway (r : CompiledRoute σ) (request : Request (Factory σ)) : Prop :=
  (request.method = .post ∨ request.method = .put) ∧ ¬ CarriesBody request ∨
    request.method ≠ .options ∧ request.method ≠ r.method

/-- The error that a route rejects a request with: that of a missing body, else that of the method,
else that of the path. -/
inductive Rejects (r : CompiledRoute σ) (request : Request (Factory σ)) : RouteError → Prop
  | body : request.method = .post ∨ request.method = .put → ¬ CarriesBody request →
    Rejects r request (bodyRefusal request)
  | method : (request.method = .post ∨ request.method = .put → CarriesBody request) →
    request.method ≠ .options → request.method ≠ r.method →
    Rejects r request (r.methodRefusal request)
  | path {m : Path.Mismatch} : ¬ r.TurnsAway request → r.pattern.Departs request.path m →
    Rejects r request (.ofMismatch m)

variable {r : CompiledRoute σ} {request : Request (Factory σ)}

/-! ### The guard -/

theorem lacksBody_iff_not_carriesBody : LacksBody request ↔
    (request.method = .post ∨ request.method = .put) ∧ ¬ CarriesBody request := by
  rw [lacksBody_iff, ← isAcceptedBody_iff, Bool.and_eq_true, needsBody_iff, Bool.not_eq_true',
    Bool.not_eq_true]

theorem guard_eq_ok_iff_not_turnsAway :
    r.guard request.method request.contentType? = .ok () ↔ ¬ r.TurnsAway request := by
  rw [guard_eq_ok_iff, isAcceptedBody_iff, needsBody_iff, TurnsAway]
  tauto

theorem guard_of_lacksBody (h : LacksBody request) :
    r.guard request.method request.contentType? = .error (bodyRefusal request) :=
  if_pos (lacksBody_iff.mp h)

theorem guard_of_otherMethod (hbody : ¬ LacksBody request) (hoptions : request.method ≠ .options)
    (hmethod : request.method ≠ r.method) :
    r.guard request.method request.contentType? = .error (r.methodRefusal request) := by
  rw [guard, if_neg (lacksBody_iff.not.mp hbody), if_neg]
  · rfl
  · simp [hoptions, hmethod]

/-! ### The guard and then the path -/

theorem Rejects.refuses {e : RouteError} (h : r.Rejects request e) : r.Refuses request e := by
  cases h with
  | body hneeds hnone =>
    exact .guard (guard_of_lacksBody (lacksBody_iff_not_carriesBody.mpr ⟨hneeds, hnone⟩))
  | method hcarries hoptions hmethod =>
    refine .guard (guard_of_otherMethod (fun hlacks ↦ ?_) hoptions hmethod)
    obtain ⟨hneeds, hnone⟩ := lacksBody_iff_not_carriesBody.mp hlacks
    exact hnone (hcarries hneeds)
  | path hpasses hdeparts =>
    exact .path (guard_eq_ok_iff_not_turnsAway.mpr hpasses) hdeparts.extract_eq

theorem TurnsAway.exists_guard_eq (h : r.TurnsAway request) :
    ∃ e, r.Rejects request e ∧ r.guard request.method request.contentType? = .error e := by
  by_cases hlacks : LacksBody request
  · obtain ⟨hneeds, hnone⟩ := lacksBody_iff_not_carriesBody.mp hlacks
    exact ⟨_, .body hneeds hnone, guard_of_lacksBody hlacks⟩
  · have hcarries : request.method = .post ∨ request.method = .put → CarriesBody request := by
      intro hneeds
      by_contra hnone
      exact hlacks (lacksBody_iff_not_carriesBody.mpr ⟨hneeds, hnone⟩)
    rcases h with hbody | ⟨hoptions, hmethod⟩
    · exact absurd (lacksBody_iff_not_carriesBody.mpr hbody) hlacks
    · exact ⟨_, .method hcarries hoptions hmethod, guard_of_otherMethod hlacks hoptions hmethod⟩

/-- What a route rejects is what its guard refuses or, where the guard lets it pass, its
pattern. -/
theorem rejects_iff_refuses {e : RouteError} : r.Rejects request e ↔ r.Refuses request e := by
  refine ⟨Rejects.refuses, fun h ↦ ?_⟩
  cases h with
  | guard hguard =>
    have haway : r.TurnsAway request := by
      by_contra hpasses
      rw [guard_eq_ok_iff_not_turnsAway.mpr hpasses] at hguard
      cases hguard
    obtain ⟨e', hrejects, hguard'⟩ := haway.exists_guard_eq
    rw [hguard] at hguard'
    exact Except.error.inj hguard' ▸ hrejects
  | path hguard hextract =>
    exact .path (guard_eq_ok_iff_not_turnsAway.mp hguard)
      (Path.Pattern.extract_eq_error_iff.mp hextract)

theorem exists_rejects_iff : (∃ e, r.Rejects request e) ↔ r.TurnsAway request ∨
    ¬ (r.pattern.text = request.path ∨ r.pattern.Fits request.path) := by
  have hmatches : (∃ params, r.pattern.extract request.path = .ok params) ↔
      r.pattern.text = request.path ∨ r.pattern.Fits request.path :=
    Path.Pattern.exists_extract_eq_ok_iff
  rw [← hmatches]
  constructor
  · rintro ⟨e, hrejects⟩
    by_cases haway : r.TurnsAway request
    · exact .inl haway
    · refine .inr ?_
      rintro ⟨params, hextract⟩
      have haccept : r.accept request = .ok params :=
        accept_eq_ok_iff.mpr ⟨guard_eq_ok_iff_not_turnsAway.mpr haway, hextract⟩
      rw [accept_eq_error_iff.mpr hrejects.refuses] at haccept
      cases haccept
  · rintro (haway | hpath)
    · exact haway.exists_guard_eq.imp fun _ ↦ And.left
    · by_cases haway : r.TurnsAway request
      · exact haway.exists_guard_eq.imp fun _ ↦ And.left
      · cases hextract : r.pattern.extract request.path with
        | ok params => exact absurd ⟨params, hextract⟩ hpath
        | error m =>
          exact ⟨_, .path haway (Path.Pattern.extract_eq_error_iff.mp hextract)⟩

/-! ### Running a route -/

theorem run_fst_eq_error_iff {s : State σ} {e : RouteError} :
    (r.run s).1 = .error e ↔ r.Rejects s.request e := by
  rw [rejects_iff_refuses, ← accept_eq_error_iff, run]
  cases r.accept s.request <;> simp

/-- A request that a route rejects leaves everything as it is, whatever the steps of the route. -/
theorem Rejects.run_eq {s : State σ} {e : RouteError} (h : r.Rejects s.request e)
    (pipeline : Pipeline σ) : ({ r with pipeline } : CompiledRoute σ).run s = (.error e, s) := by
  have haccept : r.accept s.request = .error e := accept_eq_error_iff.mpr h.refuses
  have hother : ({ r with pipeline } : CompiledRoute σ).accept s.request = .error e := haccept
  exact run_of_refuses (accept_eq_error_iff.mp hother)

/-- Running a route is all or nothing before its steps are dispatched. It ends with an error exactly
if the guard turns the request away or its path neither is the pattern nor fits it. The error is
that of the guard wherever it turns the request away, a missing body before another method, and is
otherwise that of the way in which the path departs from the pattern. With an error no step has run:
the request, the response and everything else are as before, and would be with any other steps.
Without one the pattern takes parameters from the path, and running the route is dispatching its
steps with these parameters set on the request and everything else as it was. -/
theorem run_is_all_or_nothing (r : CompiledRoute σ) (s : State σ) :
    ((∃ e, (r.run s).1 = .error e) ↔ r.TurnsAway s.request ∨
      ¬ (r.pattern.text = s.request.path ∨ r.pattern.Fits s.request.path)) ∧
    (∀ e, (r.run s).1 = .error e ↔ r.Rejects s.request e) ∧
    (r.TurnsAway s.request → ∃ e,
      r.guard s.request.method s.request.contentType? = .error e ∧ (r.run s).1 = .error e) ∧
    (∀ e, (r.run s).1 = .error e →
      (r.run s).2 = s ∧ ∀ pipeline, ({ r with pipeline } : CompiledRoute σ).run s = (.error e, s)) ∧
    ((¬ ∃ e, (r.run s).1 = .error e) → ∃ params,
      r.pattern.extract s.request.path = .ok params ∧
      r.run s = (.ok (r.dispatch (s.withRequest { s.request with params })).1,
        (r.dispatch (s.withRequest { s.request with params })).2)) := by
  refine ⟨?_, fun e ↦ run_fst_eq_error_iff, fun haway ↦ ?_, fun e herror ↦ ?_, fun hnone ↦ ?_⟩
  · simp only [run_fst_eq_error_iff]
    exact exists_rejects_iff
  · obtain ⟨e, hrejects, hguard⟩ := haway.exists_guard_eq
    exact ⟨e, hguard, run_fst_eq_error_iff.mpr hrejects⟩
  · have hrejects := run_fst_eq_error_iff.mp herror
    exact ⟨congrArg Prod.snd (hrejects.run_eq r.pipeline), hrejects.run_eq⟩
  · cases haccept : r.accept s.request with
    | error e =>
      have hrejects := rejects_iff_refuses.mpr (accept_eq_error_iff.mp haccept)
      exact absurd ⟨e, run_fst_eq_error_iff.mpr hrejects⟩ hnone
    | ok params =>
      exact ⟨params, (accept_eq_ok_iff.mp haccept).2, run_eq_dispatch haccept⟩

/-- A lamp that is posted as plain text, by the wrong method and to another place, is rejected for
its body. -/
example : (burstingLamp.run (.ofRequest ⟨(), [], []⟩
    ((Request.new .put "/doors").withHeader "content-type" "text/plain"))).1 =
      .error (.forbidden "PUT needs a JSON or form body, got text/plain") := rfl

end SchemaRouting.CompiledRoute
