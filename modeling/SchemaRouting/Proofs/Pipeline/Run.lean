import SchemaRouting.Pipeline.Dispatch

/-!
# How a pipeline runs

A run goes through its steps as long as they proceed, each step on the state that the one before
it left (`Proceeds`), and ends at the first one that does not (`StopsAt`). Every run is of one of
these forms (`proceeds_or_stopsAt`), the form decides the outcome and the state left
(`runSteps_of_proceeds`, `runSteps_of_stopsAt`), and the steps that are run (`ran`) are those up to
the one it stops at: the others have no part in it (`runSteps_ran`). Two lists of steps run as one
are the first and, if it completes, the second (`runSteps_append`).

A dispatch adds notes before and after its steps. No step reads the notes (`run_sameWork`), so what
is said of the steps is said of whole dispatches up to notes (`run_goes_to_first_stop`).
-/

set_option autoImplicit false
set_option relaxedAutoImplicit false

namespace SchemaRouting.Dispatch

variable {σ : Type}

/-! ### Steps that proceed, and the first that does not -/

/-- The steps lead from one state to another: they are run in their order, each once and on the
state that the one before it left, and all of them proceed. -/
inductive Proceeds : List (Step σ) → State σ → State σ → Prop
  | nil (s : State σ) : Proceeds [] s s
  | cons {step : Step σ} {rest : List (Step σ)} {s t u : State σ} :
    step.run s = (.proceed, t) → Proceeds rest t u → Proceeds (step :: rest) s u

/-- How a run ends at a step that does not proceed. -/
inductive EndsAt (step : Step σ) : Verdict → Outcome → Prop
  | halt : EndsAt step .halt (.halted step.name)
  | fail (e : RouteError) : EndsAt step (.fail e) (.failed step.name e)
  | panic (message : String) :
    EndsAt step (.panic message)
      (.failed step.name (.internal ("step panicked: " ++ message) none))

/-- The first steps proceed, and the step after them is run on what they left and does not. -/
def StopsAt (front : List (Step σ)) (step : Step σ) (s : State σ) (outcome : Outcome)
    (t : State σ) : Prop :=
  ∃ left verdict, Proceeds front s left ∧ step.run left = (verdict, t) ∧
    EndsAt step verdict outcome

theorem EndsAt.ne_completed {step : Step σ} {verdict : Verdict} {outcome : Outcome}
    (h : EndsAt step verdict outcome) : outcome ≠ .completed := by
  cases h <;> nofun

theorem StopsAt.ne_completed {front : List (Step σ)} {step : Step σ} {s t : State σ}
    {outcome : Outcome} (h : StopsAt front step s outcome t) : outcome ≠ .completed := by
  obtain ⟨left, verdict, -, -, hends⟩ := h
  exact hends.ne_completed

theorem proceeds_nil_iff {s t : State σ} : Proceeds [] s t ↔ t = s := by
  constructor
  · intro h
    cases h
    rfl
  · rintro rfl
    exact .nil _

theorem proceeds_cons_iff {step : Step σ} {rest : List (Step σ)} {s u : State σ} :
    Proceeds (step :: rest) s u ↔ ∃ t, step.run s = (.proceed, t) ∧ Proceeds rest t u := by
  constructor
  · intro h
    cases h with
    | cons hstep hrest => exact ⟨_, hstep, hrest⟩
  · rintro ⟨t, hstep, hrest⟩
    exact .cons hstep hrest

theorem proceeds_append_iff {front back : List (Step σ)} {s u : State σ} :
    Proceeds (front ++ back) s u ↔ ∃ t, Proceeds front s t ∧ Proceeds back t u := by
  induction front generalizing s with
  | nil => simp [proceeds_nil_iff]
  | cons step rest ih =>
    simp only [List.cons_append, proceeds_cons_iff, ih]
    constructor
    · rintro ⟨t, hstep, v, hrest, hback⟩
      exact ⟨v, ⟨t, hstep, hrest⟩, hback⟩
    · rintro ⟨v, ⟨t, hstep, hrest⟩, hback⟩
      exact ⟨t, hstep, v, hrest, hback⟩

/-- Every run either gets through all steps or stops at one of them. -/
theorem proceeds_or_stopsAt (steps : List (Step σ)) (s : State σ) :
    (∃ t, Proceeds steps s t) ∨ ∃ front step back outcome t,
      steps = front ++ step :: back ∧ StopsAt front step s outcome t := by
  induction steps generalizing s with
  | nil => exact .inl ⟨s, .nil s⟩
  | cons step rest ih =>
    rcases hstep : step.run s with ⟨verdict, t⟩
    have hstop {outcome : Outcome} (hends : EndsAt step verdict outcome) :
        ∃ front step' back outcome t, step :: rest = front ++ step' :: back ∧
          StopsAt front step' s outcome t :=
      ⟨[], step, rest, outcome, t, rfl, s, verdict, .nil s, hstep, hends⟩
    cases verdict with
    | proceed =>
      rcases ih t with ⟨u, hrest⟩ | ⟨front, last, back, outcome, u, rfl, hlast⟩
      · exact .inl ⟨u, .cons hstep hrest⟩
      · obtain ⟨left, verdict, hfront, hrun, hends⟩ := hlast
        exact .inr ⟨step :: front, last, back, outcome, u, rfl, left, verdict,
          .cons hstep hfront, hrun, hends⟩
    | halt => exact .inr (hstop .halt)
    | fail e => exact .inr (hstop (.fail e))
    | panic message => exact .inr (hstop (.panic message))

/-! ### What the steps of a run leave -/

theorem runSteps_append_of_proceeds {front : List (Step σ)} {s t : State σ}
    (h : Proceeds front s t) (back : List (Step σ)) :
    runSteps (front ++ back) s = runSteps back t := by
  induction h with
  | nil s => rfl
  | cons hstep _ ih =>
    rw [List.cons_append, runSteps, hstep]
    exact ih

theorem runSteps_of_proceeds {steps : List (Step σ)} {s t : State σ} (h : Proceeds steps s t) :
    runSteps steps s = (.completed, t) := by
  have hrun := runSteps_append_of_proceeds h []
  rw [List.append_nil] at hrun
  exact hrun

theorem runSteps_of_endsAt {step : Step σ} {verdict : Verdict} {outcome : Outcome}
    {s t : State σ} (hrun : step.run s = (verdict, t)) (h : EndsAt step verdict outcome)
    (back : List (Step σ)) : runSteps (step :: back) s = (outcome, t) := by
  rw [runSteps, hrun]
  cases h <;> rfl

/-- The steps after the one that a run stops at may be any. -/
theorem runSteps_of_stopsAt {front : List (Step σ)} {step : Step σ} {outcome : Outcome}
    {s t : State σ} (h : StopsAt front step s outcome t) (back : List (Step σ)) :
    runSteps (front ++ step :: back) s = (outcome, t) := by
  obtain ⟨left, verdict, hfront, hrun, hends⟩ := h
  rw [runSteps_append_of_proceeds hfront, runSteps_of_endsAt hrun hends]

theorem runSteps_eq_completed_iff {steps : List (Step σ)} {s : State σ} :
    (runSteps steps s).1 = .completed ↔ ∃ t, Proceeds steps s t := by
  constructor
  · intro hcompleted
    rcases proceeds_or_stopsAt steps s with hall | ⟨front, step, back, outcome, t, rfl, hstop⟩
    · exact hall
    · rw [runSteps_of_stopsAt hstop] at hcompleted
      exact absurd hcompleted hstop.ne_completed
  · rintro ⟨t, hall⟩
    rw [runSteps_of_proceeds hall]

/-- Steps that are run as one list are the first ones and, if they complete, the others. -/
theorem runSteps_append (front back : List (Step σ)) (s : State σ) :
    runSteps (front ++ back) s =
      match runSteps front s with
      | (.completed, t) => runSteps back t
      | ended => ended := by
  rcases proceeds_or_stopsAt front s with ⟨t, hall⟩ | ⟨first, step, rest, outcome, t, rfl, hstop⟩
  · rw [runSteps_append_of_proceeds hall, runSteps_of_proceeds hall]
  · rw [List.append_assoc, List.cons_append, runSteps_of_stopsAt hstop, runSteps_of_stopsAt hstop]
    have hne := hstop.ne_completed
    cases outcome with
    | completed => exact absurd rfl hne
    | halted name => rfl
    | failed name e => rfl

theorem runSteps_append_of_not_proceeds {front : List (Step σ)} {s : State σ}
    (h : ¬ ∃ t, Proceeds front s t) (back : List (Step σ)) :
    runSteps (front ++ back) s = runSteps front s := by
  have hne : (runSteps front s).1 ≠ .completed := mt runSteps_eq_completed_iff.mp h
  rw [runSteps_append]
  generalize runSteps front s = ended at hne ⊢
  obtain ⟨outcome, t⟩ := ended
  cases outcome with
  | completed => exact absurd rfl hne
  | halted name => rfl
  | failed name e => rfl

/-- The steps that a run goes through, up to the first that does not proceed. -/
def ran : List (Step σ) → State σ → List (Step σ)
  | [], _ => []
  | step :: rest, s =>
    step :: match step.run s with
      | (.proceed, t) => ran rest t
      | _ => []

theorem ran_of_proceeds {steps : List (Step σ)} {s t : State σ} (h : Proceeds steps s t) :
    ran steps s = steps := by
  induction h with
  | nil s => rfl
  | cons hstep _ ih =>
    rw [ran, hstep]
    exact congrArg _ ih

theorem ran_of_stopsAt {front : List (Step σ)} {step : Step σ} {outcome : Outcome}
    {s t : State σ} (h : StopsAt front step s outcome t) (back : List (Step σ)) :
    ran (front ++ step :: back) s = front ++ [step] := by
  obtain ⟨left, verdict, hfront, hrun, hends⟩ := h
  induction hfront with
  | nil s =>
    rw [List.nil_append, ran, hrun]
    cases hends <;> rfl
  | cons hstep _ ih =>
    rw [List.cons_append, ran, hstep]
    exact congrArg _ (ih hrun)

/-- A run of no other steps than those it goes through ends in the same way. -/
theorem runSteps_ran (steps : List (Step σ)) (s : State σ) :
    runSteps (ran steps s) s = runSteps steps s := by
  rcases proceeds_or_stopsAt steps s with ⟨t, hall⟩ | ⟨front, step, back, outcome, t, rfl, hstop⟩
  · rw [ran_of_proceeds hall]
  · rw [ran_of_stopsAt hstop, runSteps_of_stopsAt hstop, runSteps_of_stopsAt hstop]

theorem ran_eq_nil_iff {steps : List (Step σ)} {s : State σ} : ran steps s = [] ↔ steps = [] := by
  cases steps <;> simp [ran]

/-! ### Notes -/

/-- Two states that differ in nothing but the notes made so far. -/
def SameWork (s t : State σ) : Prop := s.toExchange = t.toExchange ∧ s.defaults = t.defaults

theorem SameWork.refl (s : State σ) : SameWork s s := ⟨rfl, rfl⟩

theorem SameWork.symm {s t : State σ} (h : SameWork s t) : SameWork t s := ⟨h.1.symm, h.2.symm⟩

theorem SameWork.trans {s t u : State σ} (h : SameWork s t) (h' : SameWork t u) : SameWork s u :=
  ⟨h.1.trans h'.1, h.2.trans h'.2⟩

theorem sameWork_iff {s t : State σ} : SameWork s t ↔ ∃ notes, t = { s with notes } := by
  constructor
  · intro h
    obtain ⟨x, defaults, notes⟩ := s
    obtain ⟨x', defaults', notes'⟩ := t
    obtain ⟨rfl, rfl⟩ := h
    exact ⟨notes', rfl⟩
  · rintro ⟨notes, rfl⟩
    exact ⟨rfl, rfl⟩

/-- Two results that are alike, the states beside them differing in nothing but notes. -/
def SameResult {α : Type} (first second : α × State σ) : Prop :=
  first.1 = second.1 ∧ SameWork first.2 second.2

theorem SameResult.symm {α : Type} {first second : α × State σ} (h : SameResult first second) :
    SameResult second first := ⟨h.1.symm, h.2.symm⟩

theorem SameResult.trans {α : Type} {first second third : α × State σ}
    (h : SameResult first second) (h' : SameResult second third) : SameResult first third :=
  ⟨h.1.trans h'.1, h.2.trans h'.2⟩

theorem sameResult_iff {α : Type} {first second : α × State σ} :
    SameResult first second ↔ ∃ notes, second = (first.1, { first.2 with notes }) := by
  obtain ⟨a, s⟩ := first
  obtain ⟨b, t⟩ := second
  constructor
  · rintro ⟨rfl, h⟩
    obtain ⟨notes, rfl⟩ := sameWork_iff.mp h
    exact ⟨notes, rfl⟩
  · rintro ⟨notes, h⟩
    cases h
    exact ⟨rfl, rfl, rfl⟩

end SchemaRouting.Dispatch

namespace SchemaRouting.Step

open Dispatch

variable {σ : Type}

theorem runAct_sameWork (act : Act σ) {s t : State σ} (h : SameWork s t) :
    SameResult (runAct act s) (runAct act t) := by
  obtain ⟨notes, rfl⟩ := sameWork_iff.mp h
  exact ⟨rfl, rfl, rfl⟩

theorem runValidateHeaders_sameWork (check : Validator) {s t : State σ} (h : SameWork s t) :
    SameResult (runValidateHeaders check s) (runValidateHeaders check t) := by
  obtain ⟨notes, rfl⟩ := sameWork_iff.mp h
  unfold runValidateHeaders
  cases check .lenient s.request.headersJson <;> exact ⟨rfl, rfl, rfl⟩

theorem runValidateBody_sameWork (check : Validator) {s t : State σ} (h : SameWork s t) :
    SameResult (runValidateBody check s) (runValidateBody check t) := by
  obtain ⟨notes, rfl⟩ := sameWork_iff.mp h
  unfold runValidateBody
  cases check .strict s.request.body <;> exact ⟨rfl, rfl, rfl⟩

theorem runLoadPrincipal_sameWork (source : Option (PrincipalSource σ)) {s t : State σ}
    (h : SameWork s t) : SameResult (runLoadPrincipal source s) (runLoadPrincipal source t) := by
  obtain ⟨notes, rfl⟩ := sameWork_iff.mp h
  unfold runLoadPrincipal
  dsimp only
  rcases knownPrincipal s.request with _ | ⟨known, isOpen⟩
  · exact ⟨rfl, rfl, rfl⟩
  · cases source with
    | none => exact ⟨rfl, rfl, rfl⟩
    | some source =>
      cases isOpen with
      | false => exact ⟨rfl, rfl, rfl⟩
      | true =>
        dsimp only [State.withRequest]
        rcases source known s.app with ⟨reply, app⟩
        cases reply <;> exact ⟨rfl, rfl, rfl⟩

theorem resolveFactory_sameWork (bind : Bind σ) {s t : State σ} (h : SameWork s t) :
    SameResult (resolveFactory bind s) (resolveFactory bind t) := by
  obtain ⟨notes, rfl⟩ := sameWork_iff.mp h
  unfold resolveFactory
  dsimp only
  cases s.request.context.factory with
  | some factory => exact ⟨rfl, rfl, rfl⟩
  | none =>
    cases bind.factoryName with
    | none => exact ⟨rfl, rfl, rfl⟩
    | some name =>
      dsimp only
      cases bind.services.factories.get? name <;> exact ⟨rfl, rfl, rfl⟩

theorem runLoadFactory_sameWork (bind : Bind σ) {s t : State σ} (h : SameWork s t) :
    SameResult (runLoadFactory bind s) (runLoadFactory bind t) := by
  obtain ⟨notes, hfactory⟩ := sameResult_iff.mp (resolveFactory_sameWork bind h)
  unfold runLoadFactory
  rw [hfactory]
  rcases resolveFactory bind s with ⟨built, left⟩
  cases built <;> exact ⟨rfl, rfl, rfl⟩

theorem callFactory_sameWork (factory : Factory σ) (bind : Bind σ) (operation : FactoryOperation)
    (call : FactoryCall) {s t : State σ} (h : SameWork s t) :
    SameResult (callFactory factory bind operation call s)
      (callFactory factory bind operation call t) := by
  obtain ⟨notes, rfl⟩ := sameWork_iff.mp h
  unfold callFactory
  cases factory.override? bind.factoryMethod operation call <;> exact ⟨rfl, rfl, rfl⟩

theorem answerBy_sameWork (factory : Factory σ) (kind : OperationKind) (bind : Bind σ)
    {s t : State σ} (h : SameWork s t) :
    SameResult (answerBy factory kind bind s) (answerBy factory kind bind t) := by
  have htold : FactoryCall.ofRequest t.request = .ofRequest s.request := by
    obtain ⟨notes, rfl⟩ := sameWork_iff.mp h
    rfl
  obtain ⟨notes, hcall⟩ := sameResult_iff.mp
    (callFactory_sameWork factory bind kind.factoryOperation (.ofRequest s.request) h)
  unfold answerBy
  rw [htold, hcall]
  rcases callFactory factory bind kind.factoryOperation (.ofRequest s.request) s with
    ⟨reply, after⟩
  cases reply <;> exact ⟨rfl, rfl, rfl⟩

theorem runDefault_sameWork (kind : OperationKind) (bind : Bind σ) {s t : State σ}
    (h : SameWork s t) : SameResult (runDefault kind bind s) (runDefault kind bind t) := by
  obtain ⟨notes, hfactory⟩ := sameResult_iff.mp (resolveFactory_sameWork bind h)
  unfold runDefault
  rw [hfactory]
  rcases resolveFactory bind s with ⟨built, left⟩
  have hwork : SameWork left { left with notes } := ⟨rfl, rfl⟩
  cases built with
  | made factory => exact answerBy_sameWork factory kind bind hwork
  | panicked message => exact ⟨rfl, hwork⟩

/-- No step reads the notes. -/
theorem run_sameWork (step : Step σ) {s t : State σ} (h : SameWork s t) :
    SameResult (step.run s) (step.run t) := by
  cases step with
  | direct name act => exact runAct_sameWork act h
  | bound name handler bind => exact runAct_sameWork (handler bind) h
  | validateHeaders check => exact runValidateHeaders_sameWork check h
  | validateBody check => exact runValidateBody_sameWork check h
  | loadPrincipal source => exact runLoadPrincipal_sameWork source h
  | loadFactory bind => exact runLoadFactory_sameWork bind h
  | default kind bind => exact runDefault_sameWork kind bind h

end SchemaRouting.Step

namespace SchemaRouting.Dispatch

variable {σ : Type}

theorem runSteps_sameWork (steps : List (Step σ)) {s t : State σ} (h : SameWork s t) :
    SameResult (runSteps steps s) (runSteps steps t) := by
  induction steps generalizing s t with
  | nil => exact ⟨rfl, h⟩
  | cons step rest ih =>
    obtain ⟨notes, hstep⟩ := sameResult_iff.mp (step.run_sameWork h)
    rw [runSteps, runSteps, hstep]
    rcases step.run s with ⟨verdict, left⟩
    have hleft : SameWork left { left with notes } := ⟨rfl, rfl⟩
    cases verdict with
    | proceed => exact ih hleft
    | halt => exact ⟨rfl, hleft⟩
    | fail e => exact ⟨rfl, hleft⟩
    | panic message => exact ⟨rfl, hleft⟩

/-! ### Dispatches -/

/-- The state that the first step of a dispatch is run on. -/
def entered (p : Pipeline σ) (s : State σ) : State σ :=
  (s.note (.measure .entered)).note (spanNote p s.request)

theorem entered_sameWork (p : Pipeline σ) (s : State σ) : SameWork (entered p s) s := ⟨rfl, rfl⟩

/-- The end of a dispatch, which makes the notes on how it ended. -/
def noted (label : String) (result : Outcome × State σ) : Outcome × State σ :=
  (result.1, { result.2 with
    notes := result.2.notes ++ [outcomeNote result.1 result.2.response] ++
      (Telemetry.dispatchMeasures label result.1.label).map .measure ++ [.measure .left] })

theorem run_eq_noted (p : Pipeline σ) (s : State σ) :
    run p s = noted p.label (runSteps p.steps (entered p s)) := rfl

theorem noted_sameResult (label : String) (result : Outcome × State σ) :
    SameResult (noted label result) result := ⟨rfl, rfl, rfl⟩

theorem run_sameResult (p : Pipeline σ) {s t : State σ} (h : SameWork s t) :
    SameResult (run p s) (runSteps p.steps t) := by
  rw [run_eq_noted]
  exact (noted_sameResult _ _).trans
    (runSteps_sameWork p.steps ((entered_sameWork p s).trans h))

/-- Two pipelines dispatched as one are the first and, if it completes, the second. -/
theorem run_append_sameResult (p q : Pipeline σ) (label : String) (s : State σ) :
    SameResult (run ⟨label, p.steps ++ q.steps⟩ s)
      (if (run p s).1 = .completed then run q (run p s).2 else run p s) := by
  have hboth := run_sameResult ⟨label, p.steps ++ q.steps⟩ (SameWork.refl s)
  have hfirst := run_sameResult p (SameWork.refl s)
  rw [runSteps_append] at hboth
  rcases hrun : runSteps p.steps s with ⟨outcome, t⟩
  rw [hrun] at hboth hfirst
  by_cases hcompleted : outcome = .completed
  · subst hcompleted
    rw [if_pos hfirst.1]
    exact hboth.trans (run_sameResult q hfirst.2).symm
  · rw [if_neg (by rw [hfirst.1]; exact hcompleted)]
    refine hboth.trans (SameResult.trans ?_ hfirst.symm)
    cases outcome with
    | completed => exact absurd rfl hcompleted
    | halted name => exact ⟨rfl, rfl, rfl⟩
    | failed name e => exact ⟨rfl, rfl, rfl⟩

/-- A dispatch runs its steps in their order, each once and on the state that the one before it
left, up to and including the first that does not proceed, and what comes after that one has no
part in the result. It completes exactly if all steps proceed; otherwise the outcome names the step
it stopped at, with the step's own error or that of its panic, and the state is what that step
left. Two pipelines dispatched as one are the first and, if it completes, the second on what the
first left. The states are told up to the notes, which no step reads. -/
theorem run_goes_to_first_stop (p : Pipeline σ) (s : State σ) :
    ((∃ t, Proceeds p.steps (entered p s) t ∧ (run p s).1 = .completed ∧ SameWork (run p s).2 t) ∨
      ∃ front step back t, p.steps = front ++ step :: back ∧
        StopsAt front step (entered p s) (run p s).1 t ∧ SameWork (run p s).2 t ∧
        ∀ others, run { p with steps := front ++ step :: others } s = run p s) ∧
    ((run p s).1 = .completed ↔ ∃ t, Proceeds p.steps (entered p s) t) ∧
    ∀ (q : Pipeline σ) (label : String), SameResult (run ⟨label, p.steps ++ q.steps⟩ s)
      (if (run p s).1 = .completed then run q (run p s).2 else run p s) := by
  refine ⟨?_, ?_, fun q label ↦ run_append_sameResult p q label s⟩
  · obtain ⟨label, steps⟩ := p
    rcases proceeds_or_stopsAt steps (entered ⟨label, steps⟩ s) with
      ⟨t, hall⟩ | ⟨front, step, back, outcome, t, rfl, hstop⟩
    · refine .inl ⟨t, hall, ?_⟩
      rw [run_eq_noted, runSteps_of_proceeds hall]
      exact ⟨rfl, rfl, rfl⟩
    · have hrun (others : List (Step σ)) :
          run ⟨label, front ++ step :: others⟩ s = noted label (outcome, t) := by
        rw [run_eq_noted]
        exact congrArg (noted label) (runSteps_of_stopsAt hstop others)
      refine .inr ⟨front, step, back, t, rfl, ?_, ?_, fun others ↦ ?_⟩
      · rw [hrun back]
        exact hstop
      · rw [hrun back]
        exact ⟨rfl, rfl⟩
      · rw [hrun back]
        exact hrun others
  · rw [run_eq_noted]
    exact runSteps_eq_completed_iff

end SchemaRouting.Dispatch
