import SchemaRouting.Proofs.Pipeline.Run

/-!
# The principal of a request

A request tells who it comes from by the user that it has, or else by its session. Where the user is
there, or the session has a uid, that is the current principal, and a source may know more of it
(`Current`). A session that is logged in without a uid gives its names and address, and there is
nobody to ask about (`SignedIn`). Any other request is anonymous
(`current_or_signedIn_or_anonymous`).

What loading the principal does is told by the kind of the request and the answer of the source
(`Loads`), and that is just what the step does (`runLoadPrincipal_eq_iff`). The user is set before
the source is asked, so a source that fails or panics leaves the current principal in its place. A
panic is all that keeps the step from proceeding (`runLoadPrincipal_proceeds_iff`), and a dispatch
then fails there (`principal_is_loaded_or_kept`).
-/

set_option autoImplicit false
set_option relaxedAutoImplicit false

namespace SchemaRouting.Step

open Dispatch Telemetry

variable {σ : Type}

/-! ### Who a request comes from -/

/-- The principal that a source is asked about: the user that the request has already, or else one
of nothing but the uid of its session. -/
inductive Current (r : Request (Factory σ)) : Principal → Prop
  | user {p : Principal} : r.user = some p → Current r p
  | uid {session : Session} {uid : String} : r.user = none → r.session = some session →
    session.uid = some uid → Current r ⟨some uid, none, none, none, []⟩

/-- The principal of the names and the address of a session that is logged in and has no uid, where
the request has no user. -/
inductive SignedIn (r : Request (Factory σ)) : Principal → Prop
  | session {session : Session} : r.user = none → r.session = some session → session.uid = none →
    session.loggedIn = true →
    SignedIn r ⟨none, session.firstName, session.lastName, session.email, []⟩

/-- The request has no user, and no session but one that has no uid and is not logged in. -/
def Anonymous (r : Request (Factory σ)) : Prop :=
  r.user = none ∧ ∀ session, r.session = some session → session.uid = none ∧ ¬ session.loggedIn

section Known

variable {r : Request (Factory σ)} {p : Principal}

theorem Current.known (h : Current r p) : knownPrincipal r = some (p, true) := by
  cases h with
  | user huser => simp only [knownPrincipal, huser]
  | uid huser hsession huid =>
    simp only [knownPrincipal, huser, hsession, huid]
    rfl

theorem SignedIn.known (h : SignedIn r p) : knownPrincipal r = some (p, false) := by
  cases h with
  | session huser hsession huid hin =>
    simp only [knownPrincipal, huser, hsession, huid, hin]
    rfl

theorem Anonymous.known (h : Anonymous r) : knownPrincipal r = none := by
  obtain ⟨huser, hnone⟩ := h
  cases hsession : r.session with
  | none => simp only [knownPrincipal, huser, hsession]
  | some session =>
    obtain ⟨huid, hin⟩ := hnone session hsession
    simp only [knownPrincipal, huser, hsession, huid, if_neg hin]

/-- Every request is of one of the three kinds. -/
theorem current_or_signedIn_or_anonymous (r : Request (Factory σ)) :
    (∃ p, Current r p) ∨ (∃ p, SignedIn r p) ∨ Anonymous r := by
  cases huser : r.user with
  | some p => exact .inl ⟨p, .user huser⟩
  | none =>
    cases hsession : r.session with
    | none => exact .inr (.inr ⟨huser, by simp [hsession]⟩)
    | some session =>
      cases huid : session.uid with
      | some uid => exact .inl ⟨_, .uid huser hsession huid⟩
      | none =>
        by_cases hin : session.loggedIn = true
        · exact .inr (.inl ⟨_, .session huser hsession huid hin⟩)
        · refine .inr (.inr ⟨huser, fun other hother ↦ ?_⟩)
          rw [hsession] at hother
          cases hother
          exact ⟨huid, hin⟩

end Known

/-! ### What loading does -/

/-- A state with the user of its request set, and the application as the call of a source left it.
-/
def withUser (s : State σ) (user : Principal) (app : σ) : State σ :=
  { s with request := { s.request with user := some user }, app }

/-- The note on a source that knows nothing of a principal. -/
def lookupNote (p : Principal) (e : RouteError) : Note :=
  event .warn "Could not load principal"
    [("principal_id", .string (p.id.getD "")), ("error", .string e.message)]

/-- A source is asked about the current principal, and this is its reply and what it leaves of the
application. -/
def Asks (source : Option (PrincipalSource σ)) (s : State σ) (p : Principal)
    (reply : Reply Principal) (app : σ) : Prop :=
  Current s.request p ∧ ∃ load, source = some load ∧ load p s.app = (reply, app)

/-- How loading the principal ends and the state that it leaves. -/
inductive Loads (source : Option (PrincipalSource σ)) (s : State σ) : Verdict → State σ → Prop
  | anonymous : Anonymous s.request → Loads source s .proceed s
  | signedIn {p : Principal} : SignedIn s.request p →
    Loads source s .proceed (withUser s p s.app)
  | unasked {p : Principal} : Current s.request p → source = none →
    Loads source s .proceed (withUser s p s.app)
  | loaded {p loaded : Principal} {app : σ} : Asks source s p (.ok loaded) app →
    Loads source s .proceed (withUser s loaded app)
  | kept {p : Principal} {e : RouteError} {app : σ} : Asks source s p (.error e) app →
    Loads source s .proceed ((withUser s p app).note (lookupNote p e))
  | panicked {p : Principal} {message : String} {app : σ} : Asks source s p (.panic message) app →
    Loads source s (.panic message) (withUser s p app)

variable {source : Option (PrincipalSource σ)} {s t : State σ} {verdict : Verdict}

theorem Loads.run_eq (h : Loads source s verdict t) : runLoadPrincipal source s = (verdict, t) := by
  cases h with
  | anonymous hkind => simp only [runLoadPrincipal, hkind.known]
  | signedIn hkind =>
    simp only [runLoadPrincipal, hkind.known]
    rfl
  | unasked hkind hsource =>
    simp only [runLoadPrincipal, hkind.known, hsource]
    rfl
  | loaded hasks | kept hasks | panicked hasks =>
    obtain ⟨hkind, load, rfl, hload⟩ := hasks
    simp only [runLoadPrincipal, hkind.known, State.withRequest, hload]
    rfl

theorem exists_loads (source : Option (PrincipalSource σ)) (s : State σ) :
    ∃ verdict t, Loads source s verdict t := by
  rcases current_or_signedIn_or_anonymous s.request with ⟨p, hkind⟩ | ⟨p, hkind⟩ | hkind
  · cases source with
    | none => exact ⟨_, _, .unasked hkind rfl⟩
    | some load =>
      rcases hload : load p s.app with ⟨reply, app⟩
      have hasks : Asks (some load) s p reply app := ⟨hkind, load, rfl, hload⟩
      cases reply with
      | ok loaded => exact ⟨_, _, .loaded hasks⟩
      | error e => exact ⟨_, _, .kept hasks⟩
      | panic message => exact ⟨_, _, .panicked hasks⟩
  · exact ⟨_, _, .signedIn hkind⟩
  · exact ⟨_, _, .anonymous hkind⟩

theorem runLoadPrincipal_eq_iff :
    runLoadPrincipal source s = (verdict, t) ↔ Loads source s verdict t := by
  refine ⟨fun hrun ↦ ?_, Loads.run_eq⟩
  obtain ⟨verdict', t', hloads⟩ := exists_loads source s
  rw [hloads.run_eq] at hrun
  cases hrun
  exact hloads

/-- Nothing is changed but the user of the request, the application by the call of a source, and the
notes. -/
theorem Loads.frame (h : Loads source s verdict t) : ∃ user app notes,
    t = { s with request := { s.request with user }, app, notes := s.notes ++ notes } ∧
      (app = s.app ∨ ∃ p reply, Asks source s p reply app) := by
  cases h with
  | anonymous => exact ⟨s.request.user, s.app, [], by simp, .inl rfl⟩
  | @signedIn p | @unasked p => exact ⟨some p, s.app, [], by simp [withUser], .inl rfl⟩
  | @loaded _ p _ hasks | @panicked p _ _ hasks =>
    exact ⟨some p, _, [], by simp [withUser], .inr ⟨_, _, hasks⟩⟩
  | kept hasks => exact ⟨_, _, [_], rfl, .inr ⟨_, _, hasks⟩⟩

theorem runLoadPrincipal_proceeds_iff : (runLoadPrincipal source s).1 = .proceed ↔
    ∀ p message app, ¬ Asks source s p (.panic message) app := by
  constructor
  · intro hproceeds p message app hasks
    rw [(Loads.panicked hasks).run_eq] at hproceeds
    cases hproceeds
  · intro hnone
    obtain ⟨verdict, t, hloads⟩ := exists_loads source s
    rw [hloads.run_eq]
    cases hloads with
    | anonymous | signedIn | unasked | loaded | kept => rfl
    | panicked hasks => exact absurd hasks (hnone _ _ _)

/-- Where there is nobody to ask about, loading does the same with any source. -/
theorem runLoadPrincipal_of_not_current (h : ∀ p, ¬ Current s.request p)
    (source other : Option (PrincipalSource σ)) :
    runLoadPrincipal other s = runLoadPrincipal source s := by
  rcases current_or_signedIn_or_anonymous s.request with ⟨p, hkind⟩ | ⟨p, hkind⟩ | hkind
  · exact absurd hkind (h p)
  · rw [(Loads.signedIn hkind).run_eq, (Loads.signedIn hkind).run_eq]
  · rw [(Loads.anonymous hkind).run_eq, (Loads.anonymous hkind).run_eq]

/-! ### Dispatches -/

theorem stopsAt_loadPrincipal {front : List (Step σ)} {left : State σ} {p : Principal}
    {message : String} {app : σ} (hfront : Proceeds front s left)
    (hasks : Asks source left p (.panic message) app) :
    StopsAt front (.loadPrincipal source) s
      (.failed "load_principal" (.internal ("step panicked: " ++ message) none))
      (withUser left p app) :=
  ⟨left, .panic message, hfront, (Loads.panicked hasks).run_eq, .panic message⟩

/-- Loading the principal does what the kind of the request and the reply of the source say. It
changes nothing but the user of the request, apart from the application by the call of a source and
from notes. It proceeds unless a source that is asked about the current principal panics, and where
there is no current principal it does the same with any source and leaves the application. A
dispatch that comes to a step whose source panics fails there, and the request keeps the current
principal. -/
theorem principal_is_loaded_or_kept (source : Option (PrincipalSource σ)) (s : State σ) :
    (∀ verdict t, (Step.loadPrincipal source).run s = (verdict, t) ↔ Loads source s verdict t) ∧
    (∃ user app notes, ((Step.loadPrincipal source).run s).2 =
        { s with request := { s.request with user }, app, notes := s.notes ++ notes } ∧
      (app = s.app ∨ ∃ p reply, Asks source s p reply app)) ∧
    (((Step.loadPrincipal source).run s).1 = .proceed ↔
      ∀ p message app, ¬ Asks source s p (.panic message) app) ∧
    ((∀ p, ¬ Current s.request p) → ((Step.loadPrincipal source).run s).2.app = s.app ∧
      ∀ other, (Step.loadPrincipal other).run s = (Step.loadPrincipal source).run s) ∧
    ∀ (label : String) (front back : List (Step σ)) (start : State σ) (p : Principal)
        (message : String) (app : σ),
      Proceeds front (entered ⟨label, front ++ .loadPrincipal source :: back⟩ start) s →
      Asks source s p (.panic message) app →
      (Dispatch.run ⟨label, front ++ .loadPrincipal source :: back⟩ start).1 =
          .failed "load_principal" (.internal ("step panicked: " ++ message) none) ∧
        SameWork (Dispatch.run ⟨label, front ++ .loadPrincipal source :: back⟩ start).2
          (withUser s p app) := by
  have hframe : ∃ user app notes, ((Step.loadPrincipal source).run s).2 =
        { s with request := { s.request with user }, app, notes := s.notes ++ notes } ∧
      (app = s.app ∨ ∃ p reply, Asks source s p reply app) := by
    obtain ⟨verdict, t, hloads⟩ := exists_loads source s
    rw [Step.run, hloads.run_eq]
    exact hloads.frame
  refine ⟨fun verdict t ↦ runLoadPrincipal_eq_iff, hframe, runLoadPrincipal_proceeds_iff,
    fun hnone ↦ ⟨?_, runLoadPrincipal_of_not_current hnone source⟩, ?_⟩
  · obtain ⟨user, app, notes, hrun, happ | ⟨p, reply, hcurrent, -⟩⟩ := hframe
    · rw [hrun]
      exact happ
    · exact absurd hcurrent (hnone p)
  · intro label front back start p message app hfront hasks
    rw [run_eq_noted, runSteps_of_stopsAt (stopsAt_loadPrincipal hfront hasks)]
    exact ⟨rfl, rfl, rfl⟩

/-- A source that counts how often it is asked and gives up on everybody. -/
def darkDirectory : PrincipalSource Nat := fun _ asked ↦ (.panic "no light", asked + 1)

/-- Somebody asks for the lamps in a session, and nobody knows more of the user. -/
def lampsWatched (session : Option Session) : State Nat :=
  { request := { Request.new .get "/lamps" with session }, response := .new, app := 0,
    defaults := [], notes := [] }

/-- The session's user is set by the first step, is still there when the source of the second one
panics, and the source was asked once. Without a session it is not asked. -/
theorem dark_directory_keeps_watcher :
    let dispatched := Dispatch.run
      ⟨"/lamps", [.loadPrincipal none, .loadPrincipal (some darkDirectory), .loadPrincipal none]⟩
      (lampsWatched (some (.forUid "ada")))
    dispatched.1 = .failed "load_principal" (.internal "step panicked: no light" none) ∧
      dispatched.2.request.user = some (.withId "ada") ∧ dispatched.2.app = 1 ∧
      (Step.loadPrincipal (some darkDirectory)).run (lampsWatched none) =
        (.proceed, lampsWatched none) := by
  intro dispatched
  have hanonymous : ∀ p, ¬ Current (lampsWatched none).request p := by
    rintro p (huser | ⟨-, hsession, -⟩)
    · cases huser
    · cases hsession
  obtain ⟨-, -, -, -, hpanics⟩ := principal_is_loaded_or_kept (some darkDirectory)
    (withUser (entered ⟨"/lamps", [.loadPrincipal none, .loadPrincipal (some darkDirectory),
      .loadPrincipal none]⟩ (lampsWatched (some (.forUid "ada")))) (.withId "ada") 0)
  obtain ⟨-, -, -, hsame, -⟩ :=
    principal_is_loaded_or_kept (some darkDirectory) (lampsWatched none)
  obtain ⟨houtcome, hwork⟩ := hpanics "/lamps" [.loadPrincipal none] [.loadPrincipal none]
    (lampsWatched (some (.forUid "ada"))) (.withId "ada") "no light" 1 (.cons rfl (.nil _))
    ⟨.user rfl, darkDirectory, rfl, rfl⟩
  refine ⟨houtcome, ?_, ?_, ?_⟩
  · exact congrArg (·.request.user) hwork.1
  · exact congrArg (·.app) hwork.1
  · exact ((hsame hanonymous).2 none).symm

end SchemaRouting.Step
