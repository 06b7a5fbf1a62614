import SchemaRouting.Proofs.Pipeline.Run

/-!
# What a dispatch is measured by

Only a step whose check fails is measured (`Step.FailsCheck`, `Step.measures_run`), and since it
halts, a run is measured for at most one, at which it ends (`Dispatch.RejectedAt`,
`Dispatch.measures_runSteps`). A dispatch is measured for that, and besides once for each of these,
whatever its steps do: that it was entered, how it ended, that its time was taken, and that it was
left (`Dispatch.measures_run`).
-/

set_option autoImplicit false
set_option relaxedAutoImplicit false

namespace SchemaRouting

open Telemetry (Measure measures measures_append)

variable {σ : Type}

namespace Step

open Dispatch

/-! ### One step -/

/-- A validating step whose check fails, and the stage that it stands for. -/
inductive FailsCheck : Step σ → State σ → String → Prop
  | headers {check : Validator} {s : State σ} {e : ValidationError} :
    check .lenient s.request.headersJson = .error e →
    FailsCheck (.validateHeaders check) s "validate_headers"
  | body {check : Validator} {s : State σ} {e : ValidationError} :
    check .strict s.request.body = .error e → FailsCheck (.validateBody check) s "validate_body"

/-- The stage of a step whose check fails. -/
def failedStage? (s : State σ) : Step σ → Option String
  | validateHeaders check =>
    match check .lenient s.request.headersJson with
    | .ok _ => none
    | .error _ => some "validate_headers"
  | validateBody check =>
    match check .strict s.request.body with
    | .ok _ => none
    | .error _ => some "validate_body"
  | direct _ _ | bound _ _ _ | loadPrincipal _ | loadFactory _ | default _ _ => none

theorem failedStage?_eq_some_iff {step : Step σ} {s : State σ} {stage : String} :
    step.failedStage? s = some stage ↔ step.FailsCheck s stage := by
  constructor
  · intro h
    cases step with
    | validateHeaders check =>
      rw [failedStage?] at h
      cases hcheck : check .lenient s.request.headersJson with
      | ok fields => simp [hcheck] at h
      | error e =>
        rw [hcheck] at h
        cases h
        exact .headers hcheck
    | validateBody check =>
      rw [failedStage?] at h
      cases hcheck : check .strict s.request.body with
      | ok body => simp [hcheck] at h
      | error e =>
        rw [hcheck] at h
        cases h
        exact .body hcheck
    | direct | bound | loadPrincipal | loadFactory | default => cases h
  · intro h
    cases h with
    | headers hcheck => rw [failedStage?, hcheck]
    | body hcheck => rw [failedStage?, hcheck]

theorem FailsCheck.halts {step : Step σ} {s : State σ} {stage : String}
    (h : step.FailsCheck s stage) : (step.run s).1 = .halt := by
  cases h with
  | headers hcheck => rw [run, runValidateHeaders, hcheck]
  | body hcheck => rw [run, runValidateBody, hcheck]

/-! Events are not measured. -/

theorem measures_events (notes : List Telemetry.Note) (level : Telemetry.Level) (message : String)
    (fields : List (String × Json)) :
    measures (notes ++ [Telemetry.event level message fields]) = measures notes := by
  simp [measures, Telemetry.event]

theorem measures_resolveFactory (bind : Bind σ) (s : State σ) :
    measures (resolveFactory bind s).2.notes = measures s.notes := by
  rw [resolveFactory]
  split
  · rfl
  · split
    · rfl
    · split
      · rfl
      · exact measures_events _ _ _ _

theorem measures_methodNotes (bind : Bind σ) (operation : FactoryOperation) :
    measures (methodNotes bind operation) = [] := by
  rw [methodNotes]
  split
  · split
    · rfl
    · exact measures_events [] _ _ _
  · rfl

theorem measures_callFactory (factory : Factory σ) (bind : Bind σ) (operation : FactoryOperation)
    (call : FactoryCall) (s : State σ) :
    measures (callFactory factory bind operation call s).2.notes = measures s.notes := by
  rw [callFactory]
  split
  · rfl
  · dsimp only
    rw [measures_append, measures_methodNotes, List.append_nil]

theorem measures_runLoadFactory (bind : Bind σ) (s : State σ) :
    measures (runLoadFactory bind s).2.notes = measures s.notes := by
  rw [runLoadFactory, ← measures_resolveFactory bind s]
  rcases resolveFactory bind s with ⟨factory | message, found⟩ <;> rfl

theorem measures_answerBy (factory : Factory σ) (kind : OperationKind) (bind : Bind σ)
    (s : State σ) : measures (answerBy factory kind bind s).2.notes = measures s.notes := by
  rw [answerBy,
    ← measures_callFactory factory bind kind.factoryOperation (.ofRequest s.request) s]
  rcases callFactory factory bind kind.factoryOperation (.ofRequest s.request) s with
    ⟨reply, left⟩
  cases reply with
  | ok output => rfl
  | error e => exact measures_events _ _ _ _
  | panic message => rfl

theorem measures_runDefault (kind : OperationKind) (bind : Bind σ) (s : State σ) :
    measures (runDefault kind bind s).2.notes = measures s.notes := by
  rw [runDefault, ← measures_resolveFactory bind s]
  rcases resolveFactory bind s with ⟨factory | message, found⟩
  · exact measures_answerBy factory kind bind found
  · rfl

theorem measures_runLoadPrincipal (source : Option (PrincipalSource σ)) (s : State σ) :
    measures (runLoadPrincipal source s).2.notes = measures s.notes := by
  rw [runLoadPrincipal]
  split
  · rfl
  · dsimp only
    split
    · split
      · rfl
      · exact measures_events _ _ _ _
      · rfl
    · rfl

/-- A step is measured for nothing but a check that fails. -/
theorem measures_run (step : Step σ) (s : State σ) : measures (step.run s).2.notes =
    measures s.notes ++ ((step.failedStage? s).map Measure.rejected).toList := by
  cases step with
  | direct name act => exact (List.append_nil _).symm
  | bound name handler bind => exact (List.append_nil _).symm
  | validateHeaders check =>
    rw [run, runValidateHeaders, failedStage?]
    cases check .lenient s.request.headersJson with
    | ok fields => exact (List.append_nil _).symm
    | error e =>
      change measures ((s.notes ++ [Telemetry.event _ _ _]) ++ [.measure _]) = _
      rw [measures_append, measures_events]
      rfl
  | validateBody check =>
    rw [run, runValidateBody, failedStage?]
    cases check .strict s.request.body with
    | ok body => exact (List.append_nil _).symm
    | error e =>
      change measures ((s.notes ++ [Telemetry.event _ _ _]) ++ [.measure _]) = _
      rw [measures_append, measures_events]
      rfl
  | loadPrincipal source =>
    exact (measures_runLoadPrincipal source s).trans (List.append_nil _).symm
  | loadFactory bind =>
    exact (measures_runLoadFactory bind s).trans (List.append_nil _).symm
  | default kind bind =>
    exact (measures_runDefault kind bind s).trans (List.append_nil _).symm

end Step

/-! ### A run, and a dispatch -/

namespace Dispatch

/-- The steps proceed up to one whose check fails. -/
def RejectedAt (stage : String) (steps : List (Step σ)) (s : State σ) : Prop :=
  ∃ front step back left, steps = front ++ step :: back ∧ Proceeds front s left ∧
    step.FailsCheck left stage

/-- The stage that a run is rejected at. -/
def rejection? : List (Step σ) → State σ → Option String
  | [], _ => none
  | step :: rest, s =>
    match step.run s with
    | (.proceed, t) => rejection? rest t
    | _ => step.failedStage? s

theorem rejection?_of_proceeds {steps : List (Step σ)} {s t : State σ} (h : Proceeds steps s t) :
    rejection? steps s = none := by
  induction h with
  | nil s => rfl
  | cons hstep _ ih =>
    rw [rejection?, hstep]
    exact ih

theorem rejection?_append_of_proceeds {front : List (Step σ)} {s t : State σ}
    (h : Proceeds front s t) (back : List (Step σ)) :
    rejection? (front ++ back) s = rejection? back t := by
  induction h with
  | nil s => rfl
  | cons hstep _ ih =>
    rw [List.cons_append, rejection?, hstep]
    exact ih

theorem rejection?_of_ne_proceed {step : Step σ} {s : State σ} (h : (step.run s).1 ≠ .proceed)
    (back : List (Step σ)) : rejection? (step :: back) s = step.failedStage? s := by
  rw [rejection?]
  split
  · rename_i t hrun
    exact absurd (congrArg Prod.fst hrun) h
  · rfl

theorem EndsAt.ne_proceed {step : Step σ} {verdict : Verdict} {outcome : Outcome}
    (h : EndsAt step verdict outcome) : verdict ≠ .proceed := by
  cases h <;> nofun

theorem rejection?_eq_some_iff {stage : String} {steps : List (Step σ)} {s : State σ} :
    rejection? steps s = some stage ↔ RejectedAt stage steps s := by
  constructor
  · intro h
    rcases proceeds_or_stopsAt steps s with ⟨t, hall⟩ | ⟨front, step, back, outcome, t, rfl, hstop⟩
    · simp [rejection?_of_proceeds hall] at h
    · obtain ⟨left, verdict, hfront, hrun, hends⟩ := hstop
      have hne : (step.run left).1 ≠ .proceed := by
        rw [hrun]
        exact hends.ne_proceed
      rw [rejection?_append_of_proceeds hfront, rejection?_of_ne_proceed hne] at h
      exact ⟨front, step, back, left, rfl, hfront, Step.failedStage?_eq_some_iff.mp h⟩
  · rintro ⟨front, step, back, left, rfl, hfront, hfails⟩
    have hne : (step.run left).1 ≠ .proceed := by simp [hfails.halts]
    rw [rejection?_append_of_proceeds hfront, rejection?_of_ne_proceed hne]
    exact Step.failedStage?_eq_some_iff.mpr hfails

instance (stage : String) (steps : List (Step σ)) (s : State σ) :
    Decidable (RejectedAt stage steps s) :=
  decidable_of_iff _ rejection?_eq_some_iff

theorem measures_runSteps (steps : List (Step σ)) (s : State σ) :
    measures (runSteps steps s).2.notes =
      measures s.notes ++ ((rejection? steps s).map Measure.rejected).toList := by
  induction steps generalizing s with
  | nil => simp [runSteps, rejection?]
  | cons step rest ih =>
    have hstep := step.measures_run s
    by_cases hproceed : (step.run s).1 = .proceed
    · have hpasses : step.failedStage? s = none := by
        rw [Option.eq_none_iff_forall_ne_some]
        intro stage hstage
        have hhalts := (Step.failedStage?_eq_some_iff.mp hstage).halts
        simp [hproceed] at hhalts
      rcases hrun : step.run s with ⟨verdict, t⟩
      rw [hrun] at hproceed hstep
      cases hproceed
      rw [runSteps, rejection?, hrun]
      dsimp only
      rw [ih, hstep, hpasses]
      simp
    · rw [rejection?_of_ne_proceed hproceed, ← hstep, runSteps]
      rcases hrun : step.run s with ⟨verdict, t⟩
      rw [hrun] at hproceed
      cases verdict with
      | proceed => exact absurd rfl hproceed
      | halt => rfl
      | fail e => rfl
      | panic message => rfl

/-- A dispatch is measured as entered, as rejected if it is, with its outcome and its time, and as
left. -/
theorem measures_run (p : Pipeline σ) (s : State σ) :
    measures (run p s).2.notes = measures s.notes ++ .entered ::
      (((rejection? p.steps (entered p s)).map Measure.rejected).toList ++
        [.dispatched p.label (runSteps p.steps (entered p s)).1.label, .timed p.label, .left]) := by
  have hsteps := measures_runSteps p.steps (entered p s)
  have hentered : measures (entered p s).notes = measures s.notes ++ [.entered] := by
    simp [entered, State.note, spanNote, measures]
  have houtcome : ∀ outcome response, measures [outcomeNote outcome response] = [] := by
    intro outcome response
    cases outcome <;> rfl
  rw [run_eq_noted, noted]
  dsimp only
  rw [measures_append, measures_append, measures_append, houtcome, hsteps, hentered]
  simp [measures, Telemetry.dispatchMeasures]

end Dispatch

end SchemaRouting
