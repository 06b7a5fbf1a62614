import SchemaRouting.Pipeline.Step

/-!
# The validating steps

Each of the two steps that validate proceeds exactly if its check passes: that of the header fields
leaves everything as it is, and that of the body puts what the check returned in its place. If the
check fails the step halts, with a bad-request answer in place of whatever status and body were
written before.
-/

set_option autoImplicit false
set_option relaxedAutoImplicit false

namespace SchemaRouting.Step

variable {σ : Type} {check : Validator} {s t : Dispatch.State σ}

theorem runValidateHeaders_eq_proceed_iff :
    (validateHeaders check).run s = (.proceed, t) ↔
      (∃ fields, check .lenient s.request.headersJson = .ok fields) ∧ t = s := by
  rw [run, runValidateHeaders]
  cases check .lenient s.request.headersJson with
  | ok fields =>
    constructor
    · intro h
      cases h
      exact ⟨⟨fields, rfl⟩, rfl⟩
    · rintro ⟨-, rfl⟩
      rfl
  | error e =>
    constructor
    · intro h
      cases h
    · rintro ⟨⟨fields, hfields⟩, -⟩
      cases hfields

theorem runValidateBody_eq_proceed_iff :
    (validateBody check).run s = (.proceed, t) ↔
      ∃ body, check .strict s.request.body = .ok body ∧
        t = s.withRequest { s.request with body } := by
  rw [run, runValidateBody]
  cases check .strict s.request.body with
  | ok body =>
    constructor
    · intro h
      cases h
      exact ⟨body, rfl, rfl⟩
    · rintro ⟨body', hbody, rfl⟩
      cases hbody
      rfl
  | error e =>
    constructor
    · intro h
      cases h
    · rintro ⟨body, hbody, -⟩
      cases hbody

theorem runValidateHeaders_of_error {e : ValidationError}
    (h : check .lenient s.request.headersJson = .error e) :
    ∃ t, (validateHeaders check).run s = (.halt, t) ∧
      t.response = { s.response with status := .badRequest, body := some headersRejection } := by
  rw [run, runValidateHeaders, h]
  exact ⟨_, rfl, rfl⟩

theorem runValidateBody_of_error {e : ValidationError}
    (h : check .strict s.request.body = .error e) :
    ∃ t, (validateBody check).run s = (.halt, t) ∧
      t.response = { s.response with status := .badRequest, body := some (bodyRejection e) } := by
  rw [run, runValidateBody, h]
  exact ⟨_, rfl, rfl⟩

end SchemaRouting.Step
