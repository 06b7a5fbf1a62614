import Mathlib.Tactic.ByContra
import Mathlib.Tactic.SplitIfs
import SchemaRouting.Route.Table
import SchemaRouting.Proofs.Route.Serving

/-!
# Finding the route of a request

A route fits a method and a path if it has the method and its pattern matches the path
(`CompiledRoute.Fits`). The route at some place of a table is the one to be found if it fits, no
other that fits has fewer placeholders, and none that was mounted before it has as few
(`IsFoundAt`). There is at most one such route (`IsFoundAt.unique`), and the search gives it, or
nothing where no route fits (`find?_eq_some_iff`, `find?_eq_none_iff`). What one more route changes
and what the order of mounting matters for are read off that (`find?_fewest_then_earliest`).

A route that was found for a request is one that its guard and its pattern accept, but for the type
of a body (`CompiledRoute.Fits.accept`), so the search and the guard never disagree. Which route is
found does not depend on the steps of any (`find?_withPipelines`), and no others are run than those
of the one that is found (`handle_withPipelines`, `find?_agrees_with_guard`).
-/

set_option autoImplicit false
set_option relaxedAutoImplicit false

namespace SchemaRouting

open Dispatch (State)

variable {σ : Type}

/-- A route fits a method and a path: it has the method, which a request for options does not ask
for, and its pattern matches the path. -/
def CompiledRoute.Fits (r : CompiledRoute σ) (method : Http.Method) (path : String) : Prop :=
  (method = .options ∨ r.method = method) ∧ ∃ params, r.pattern.extract path = .ok params

namespace RouteTable

variable {method : Http.Method} {path : String} {t u : RouteTable σ} {r : CompiledRoute σ}

theorem answers_iff : answers method path r = true ↔ r.Fits method path := by
  have hmatch : r.pattern.isMatch path = true ↔ ∃ params, r.pattern.extract path = .ok params := by
    rw [Path.Pattern.isMatch]
    cases r.pattern.extract path <;> simp
  simp [answers, CompiledRoute.Fits, hmatch]

/-! ### The route to be found -/

/-- The route at a place of a list is the one to be found: it fits, no route that fits has fewer
placeholders, and every one before it that fits has more. -/
structure IsFoundAt (routes : List (CompiledRoute σ)) (method : Http.Method) (path : String)
    (place : Nat) (r : CompiledRoute σ) : Prop where
  mounted : routes[place]? = some r
  fits : r.Fits method path
  fewest : ∀ other ∈ routes, other.Fits method path →
    r.pattern.placeholderCount ≤ other.pattern.placeholderCount
  earliest : ∀ earlier < place, ∀ other, routes[earlier]? = some other → other.Fits method path →
    r.pattern.placeholderCount < other.pattern.placeholderCount

theorem IsFoundAt.mem {routes : List (CompiledRoute σ)} {place : Nat}
    (h : IsFoundAt routes method path place r) : r ∈ routes :=
  List.mem_of_getElem? h.mounted

theorem IsFoundAt.unique {routes : List (CompiledRoute σ)} {place place' : Nat}
    {r' : CompiledRoute σ} (h : IsFoundAt routes method path place r)
    (h' : IsFoundAt routes method path place' r') : place = place' ∧ r = r' := by
  have hle := h.fewest r' h'.mem h'.fits
  have hle' := h'.fewest r h.mem h.fits
  have hplace : place = place' := by
    rcases Nat.lt_trichotomy place place' with hlt | heq | hlt
    · have := h'.earliest place hlt r h.mounted h.fits
      omega
    · exact heq
    · have := h.earliest place' hlt r' h'.mounted h'.fits
      omega
  subst hplace
  have hmounted := h.mounted
  rw [h'.mounted] at hmounted
  exact ⟨rfl, (Option.some.inj hmounted).symm⟩

/-- A route before all others of a list is the one to be found if it fits and none of them that
fits has fewer placeholders. -/
theorem isFoundAt_zero {rest : List (CompiledRoute σ)} (hfits : r.Fits method path)
    (hfewest : ∀ other ∈ rest, other.Fits method path →
      r.pattern.placeholderCount ≤ other.pattern.placeholderCount) :
    IsFoundAt (r :: rest) method path 0 r where
  mounted := rfl
  fits := hfits
  fewest other hother hother_fits := by
    rcases List.mem_cons.mp hother with rfl | hrest
    · exact Nat.le_refl _
    · exact hfewest other hrest hother_fits
  earliest earlier hearlier := absurd hearlier (Nat.not_lt_zero earlier)

/-- A route put before a list leaves the one to be found if it does not fit or has more
placeholders. -/
theorem IsFoundAt.cons {rest : List (CompiledRoute σ)} {first : CompiledRoute σ} {place : Nat}
    (h : IsFoundAt rest method path place r)
    (hfirst : first.Fits method path →
      r.pattern.placeholderCount < first.pattern.placeholderCount) :
    IsFoundAt (first :: rest) method path (place + 1) r where
  mounted := h.mounted
  fits := h.fits
  fewest other hother hfits := by
    rcases List.mem_cons.mp hother with rfl | hrest
    · exact Nat.le_of_lt (hfirst hfits)
    · exact h.fewest other hrest hfits
  earliest earlier hearlier other hother hfits := by
    cases earlier with
    | zero =>
      have hsame : first = other := Option.some.inj hother
      subst hsame
      exact hfirst hfits
    | succ earlier => exact h.earliest earlier (by omega) other hother hfits

/-! ### The search -/

theorem fewestPlaceholders_eq_none_iff {routes : List (CompiledRoute σ)} :
    fewestPlaceholders routes = none ↔ routes = [] := by
  cases routes with
  | nil => simp [fewestPlaceholders]
  | cons first rest =>
    rw [fewestPlaceholders]
    cases fewestPlaceholders rest with
    | none => simp
    | some other =>
      dsimp only
      split_ifs <;> simp

theorem find?_eq_none_iff :
    t.find? method path = none ↔ ∀ r ∈ t.routes, ¬ r.Fits method path := by
  rw [find?, fewestPlaceholders_eq_none_iff, List.filter_eq_nil_iff]
  simp only [answers_iff]

/-- What the search does with the first route: it is passed over if it does not fit, and gives way
to one further on with fewer placeholders. -/
theorem find?_cons (first : CompiledRoute σ) (rest : List (CompiledRoute σ)) :
    (⟨first :: rest⟩ : RouteTable σ).find? method path =
      if answers method path first then
        match (⟨rest⟩ : RouteTable σ).find? method path with
        | none => some first
        | some other =>
          if other.pattern.placeholderCount < first.pattern.placeholderCount then some other
          else some first
      else (⟨rest⟩ : RouteTable σ).find? method path := by
  simp only [find?, List.filter_cons]
  split_ifs <;> rfl

theorem isFoundAt_of_find? {routes : List (CompiledRoute σ)}
    (h : (⟨routes⟩ : RouteTable σ).find? method path = some r) :
    ∃ place, IsFoundAt routes method path place r := by
  induction routes generalizing r with
  | nil => cases h
  | cons first rest ih =>
    rw [find?_cons] at h
    split_ifs at h with hfits
    · rw [answers_iff] at hfits
      cases hrest : (⟨rest⟩ : RouteTable σ).find? method path with
      | none =>
        rw [hrest] at h
        cases h
        have hnone := find?_eq_none_iff.mp hrest
        exact ⟨0, isFoundAt_zero hfits fun other hother hother_fits ↦
          absurd hother_fits (hnone other hother)⟩
      | some other =>
        obtain ⟨place, hother⟩ := ih hrest
        rw [hrest] at h
        dsimp only at h
        split_ifs at h with hfewer
        · cases h
          exact ⟨place + 1, hother.cons fun _ ↦ hfewer⟩
        · cases h
          refine ⟨0, isFoundAt_zero hfits fun another hanother hanother_fits ↦ ?_⟩
          have hle := hother.fewest another hanother hanother_fits
          omega
    · rw [answers_iff] at hfits
      obtain ⟨place, hr⟩ := ih h
      exact ⟨place + 1, hr.cons fun hfirst ↦ absurd hfirst hfits⟩

/-- The search gives the route to be found. -/
theorem find?_eq_some_iff :
    t.find? method path = some r ↔ ∃ place, IsFoundAt t.routes method path place r := by
  constructor
  · exact isFoundAt_of_find?
  · rintro ⟨place, hr⟩
    cases hfind : t.find? method path with
    | none => exact absurd hr.fits (find?_eq_none_iff.mp hfind r hr.mem)
    | some r' =>
      obtain ⟨place', hr'⟩ := isFoundAt_of_find? hfind
      rw [(hr.unique hr').2]

theorem fits_of_find? (h : t.find? method path = some r) : r.Fits method path := by
  obtain ⟨place, hr⟩ := find?_eq_some_iff.mp h
  exact hr.fits

/-! ### One more route, and another order -/

/-- A route takes the place of what was found before: it fits, and has fewer placeholders than what
was found, if there was anything. -/
def Supersedes (t : RouteTable σ) (method : Http.Method) (path : String) (r : CompiledRoute σ) :
    Prop :=
  r.Fits method path ∧ ∀ before, t.find? method path = some before →
    r.pattern.placeholderCount < before.pattern.placeholderCount

theorem find?_mount_of_supersedes (h : t.Supersedes method path r) :
    (t.mount r).find? method path = some r := by
  obtain ⟨hfits, hfewer⟩ := h
  have hlt : ∀ other ∈ t.routes, other.Fits method path →
      r.pattern.placeholderCount < other.pattern.placeholderCount := by
    intro other hother hother_fits
    cases hfind : t.find? method path with
    | none => exact absurd hother_fits (find?_eq_none_iff.mp hfind other hother)
    | some before =>
      obtain ⟨place, hbefore⟩ := find?_eq_some_iff.mp hfind
      exact Nat.lt_of_lt_of_le (hfewer before hfind) (hbefore.fewest other hother hother_fits)
  refine find?_eq_some_iff.mpr ⟨t.routes.length, ?_, hfits, ?_, ?_⟩
  · simp [mount]
  · intro other hother hother_fits
    rcases List.mem_append.mp hother with hold | hnew
    · exact Nat.le_of_lt (hlt other hold hother_fits)
    · have hsame : other = r := List.mem_singleton.mp hnew
      subst hsame
      exact Nat.le_refl _
  · intro earlier hearlier other hother hother_fits
    rw [mount, List.getElem?_append_left hearlier] at hother
    exact hlt other (List.mem_of_getElem? hother) hother_fits

theorem find?_mount_of_not_supersedes (h : ¬ t.Supersedes method path r) :
    (t.mount r).find? method path = t.find? method path := by
  cases hfind : t.find? method path with
  | none =>
    have hunfit : ¬ r.Fits method path := by
      intro hfits
      refine h ⟨hfits, fun before hbefore ↦ ?_⟩
      rw [hfind] at hbefore
      cases hbefore
    rw [find?_eq_none_iff] at hfind ⊢
    intro other hother
    rcases List.mem_append.mp hother with hold | hnew
    · exact hfind other hold
    · rw [List.mem_singleton.mp hnew]
      exact hunfit
  | some before =>
    obtain ⟨place, hbefore⟩ := find?_eq_some_iff.mp hfind
    have hle : r.Fits method path →
        before.pattern.placeholderCount ≤ r.pattern.placeholderCount := by
      intro hfits
      by_contra hgt
      refine h ⟨hfits, fun other hother ↦ ?_⟩
      rw [hfind] at hother
      cases hother
      omega
    have hplace : place < t.routes.length := (List.getElem?_eq_some_iff.mp hbefore.mounted).1
    refine find?_eq_some_iff.mpr ⟨place, ?_, hbefore.fits, ?_, ?_⟩
    · rw [mount, List.getElem?_append_left hplace]
      exact hbefore.mounted
    · intro other hother hfits
      rcases List.mem_append.mp hother with hold | hnew
      · exact hbefore.fewest other hold hfits
      · rw [List.mem_singleton.mp hnew] at hfits ⊢
        exact hle hfits
    · intro earlier hearlier other hother hfits
      rw [mount, List.getElem?_append_left (by omega)] at hother
      exact hbefore.earliest earlier hearlier other hother hfits

/-- Tables of the same routes find routes with the same number of placeholders. -/
theorem placeholderCount_find?_of_same (h : ∀ r, r ∈ u.routes ↔ r ∈ t.routes) :
    (u.find? method path).map (·.pattern.placeholderCount) =
      (t.find? method path).map (·.pattern.placeholderCount) := by
  cases ht : t.find? method path with
  | none =>
    have hu : u.find? method path = none := by
      rw [find?_eq_none_iff] at ht ⊢
      exact fun r hr ↦ ht r ((h r).mp hr)
    rw [hu]
  | some r =>
    cases hu : u.find? method path with
    | none =>
      obtain ⟨place, hr⟩ := find?_eq_some_iff.mp ht
      exact absurd hr.fits (find?_eq_none_iff.mp hu r ((h r).mpr hr.mem))
    | some r' =>
      obtain ⟨place, hr⟩ := find?_eq_some_iff.mp ht
      obtain ⟨place', hr'⟩ := find?_eq_some_iff.mp hu
      have hle := hr.fewest r' ((h r').mp hr'.mem) hr'.fits
      have hle' := hr'.fewest r ((h r).mpr hr.mem) hr.fits
      exact congrArg some (Nat.le_antisymm hle' hle)

theorem find?_of_same (h : ∀ r, r ∈ u.routes ↔ r ∈ t.routes) (hfind : t.find? method path = some r)
    (honly : ∀ other ∈ t.routes, other.Fits method path →
      other.pattern.placeholderCount = r.pattern.placeholderCount → other = r) :
    u.find? method path = some r := by
  have hcount : (u.find? method path).map (·.pattern.placeholderCount) =
      (t.find? method path).map (·.pattern.placeholderCount) := placeholderCount_find?_of_same h
  rw [hfind] at hcount
  obtain ⟨r', hr', hsame⟩ := Option.map_eq_some_iff.mp hcount
  obtain ⟨place, hfound⟩ := find?_eq_some_iff.mp hr'
  rw [hr', honly r' ((h r').mp hfound.mem) hfound.fits hsame]

/-- The search finds nothing exactly if no route fits, and otherwise the one that was mounted first
of those that fit and have the fewest placeholders. One more route is found in place of what was
found before if it fits and has fewer placeholders than that, or nothing was found before, and
changes nothing otherwise. In another order of mounting the route found has the same number of
placeholders, and is the same route where only one that fits has that number. -/
theorem find?_fewest_then_earliest (t : RouteTable σ) (method : Http.Method) (path : String) :
    (t.find? method path = none ↔ ∀ r ∈ t.routes, ¬ r.Fits method path) ∧
    (∀ r, t.find? method path = some r ↔ ∃ place, IsFoundAt t.routes method path place r) ∧
    (∀ r, (t.Supersedes method path r → (t.mount r).find? method path = some r) ∧
      (¬ t.Supersedes method path r → (t.mount r).find? method path = t.find? method path)) ∧
    ∀ u : RouteTable σ, u.routes.Perm t.routes →
      (u.find? method path).map (·.pattern.placeholderCount) =
        (t.find? method path).map (·.pattern.placeholderCount) ∧
      ∀ r, t.find? method path = some r →
        (∀ other ∈ t.routes, other.Fits method path →
          other.pattern.placeholderCount = r.pattern.placeholderCount → other = r) →
        u.find? method path = some r :=
  ⟨find?_eq_none_iff, fun _ ↦ find?_eq_some_iff,
    fun _ ↦ ⟨find?_mount_of_supersedes, find?_mount_of_not_supersedes⟩,
    fun _ hperm ↦ ⟨placeholderCount_find?_of_same fun _ ↦ hperm.mem_iff,
      fun _ ↦ find?_of_same fun _ ↦ hperm.mem_iff⟩⟩

/-- A route of lamps with the given pattern. -/
def lampAt (text : String) : CompiledRoute Unit :=
  { CompiledRoute.burstingLamp with pattern := ⟨text⟩ }

/-- A route without placeholders is found before one that was mounted earlier and has one. -/
theorem literal_lamp_supersedes :
    (⟨[lampAt "/lamps/:id"]⟩ : RouteTable Unit).Supersedes .get "/lamps/new" (lampAt "/lamps/new") ∧
    ((⟨[lampAt "/lamps/:id"]⟩ : RouteTable Unit).mount (lampAt "/lamps/new")).find? .get
      "/lamps/new" = some (lampAt "/lamps/new") := by
  have hsupersedes : (⟨[lampAt "/lamps/:id"]⟩ : RouteTable Unit).Supersedes .get "/lamps/new"
      (lampAt "/lamps/new") := by
    refine ⟨⟨.inr rfl, _, rfl⟩, fun before hbefore ↦ ?_⟩
    have hsame : lampAt "/lamps/:id" = before := Option.some.inj hbefore
    subst hsame
    decide
  obtain ⟨-, -, hmount, -⟩ :=
    find?_fewest_then_earliest ⟨[lampAt "/lamps/:id"]⟩ .get "/lamps/new"
  exact ⟨hsupersedes, (hmount _).1 hsupersedes⟩

end RouteTable

/-! ### What the guard says of a route that was found -/

/-- A request is to have a body and does not say that it has one of an accepted type. -/
def LacksBody (request : Request (Factory σ)) : Prop :=
  (request.method = .post ∨ request.method = .put) ∧
    ∀ contentType, request.contentType? = some contentType →
      Http.mediaType contentType ∉ CompiledRoute.acceptedBodyTypes

/-- The error of such a request. -/
def bodyRefusal (request : Request (Factory σ)) : RouteError :=
  .forbidden (request.method.name ++ " needs a JSON or form body, got " ++
    request.contentType?.getD "no content type")

namespace CompiledRoute

variable {r : CompiledRoute σ} {request : Request (Factory σ)} {shared : Shared σ}

theorem lacksBody_iff : LacksBody request ↔
    (needsBody request.method && !isAcceptedBody request.contentType?) = true := by
  rw [LacksBody, needsBody, isAcceptedBody]
  cases request.contentType? <;> simp

theorem refuses_of_lacksBody (h : LacksBody request) : r.Refuses request (bodyRefusal request) :=
  .guard (if_pos (lacksBody_iff.mp h))

/-- A route that fits a request accepts it, with the parameters of its path, unless the request
lacks a body. -/
theorem Fits.accept (hfits : r.Fits request.method request.path) (hbody : ¬ LacksBody request) :
    ∃ params, r.pattern.extract request.path = .ok params ∧ r.accept request = .ok params := by
  obtain ⟨hmethod, params, hparams⟩ := hfits
  have hguard : r.guard request.method request.contentType? = .ok () := by
    rw [guard, if_neg (lacksBody_iff.not.mp hbody), if_pos]
    rw [Bool.or_eq_true, decide_eq_true_eq, decide_eq_true_eq]
    exact hmethod.imp id Eq.symm
  exact ⟨params, hparams, accept_eq_ok_iff.mpr ⟨hguard, hparams⟩⟩

/-- A run without steps answers nothing, so a route that fits a request and answers it with the
status of what is not found has run a step. -/
theorem Fits.stepsRun_ne_nil (hfits : r.Fits request.method request.path)
    (hstatus : (r.handle shared request).1.status = .notFound) :
    r.stepsRun shared request ≠ [] := by
  intro hnone
  by_cases hbody : LacksBody request
  · rw [handle_of_refuses (refuses_of_lacksBody hbody)] at hstatus
    have hforbidden : Http.Status.forbidden = .notFound := hstatus
    cases hforbidden
  · obtain ⟨params, -, haccept⟩ := hfits.accept hbody
    rw [stepsRun, haccept] at hnone
    have hsteps : r.pipeline.steps = [] := Dispatch.ran_eq_nil_iff.mp hnone
    have hends : r.Ends shared request .completed (r.start shared request params) :=
      ⟨params, haccept, by rw [hsteps, Dispatch.runSteps]⟩
    rw [handle_of_ends hends] at hstatus
    have hok : Http.Status.ok = .notFound := hstatus
    cases hok

end CompiledRoute

namespace RouteTable

variable {t : RouteTable σ} {shared : Shared σ} {request : Request (Factory σ)}
  {r : CompiledRoute σ}

/-- The steps that are run while a table answers a request. -/
def stepsRun (t : RouteTable σ) (shared : Shared σ) (request : Request (Factory σ)) :
    List (Step σ) :=
  match t.find? request.method request.path with
  | some r => r.stepsRun shared request
  | none => []

theorem handle_of_find? (h : t.find? request.method request.path = some r) :
    t.handle shared request = r.handle shared request := by
  rw [handle, h]

/-- What a request is answered with for which no route was found. -/
theorem handle_of_find?_eq_none (h : t.find? request.method request.path = none) :
    (t.handle shared request).1 =
        .ofError (.notFound ("no route for " ++ request.method.name ++ " " ++ request.path)) ∧
      (t.handle shared request).2.app = shared.app ∧
      (t.handle shared request).2.defaults = shared.defaults := by
  rw [handle, h]
  exact ⟨rfl, rfl, rfl⟩

theorem find?_eq_none_iff_handle :
    t.find? request.method request.path = none ↔
      (t.handle shared request).1.status = .notFound ∧ t.stepsRun shared request = [] := by
  constructor
  · intro hnone
    refine ⟨?_, ?_⟩
    · rw [(handle_of_find?_eq_none hnone).1]
      rfl
    · rw [stepsRun, hnone]
  · rintro ⟨hstatus, hsteps⟩
    cases hfind : t.find? request.method request.path with
    | none => rfl
    | some r =>
      rw [handle_of_find? hfind] at hstatus
      rw [stepsRun, hfind] at hsteps
      exact absurd hsteps ((fits_of_find? hfind).stepsRun_ne_nil hstatus)

/-! ### Other steps of the routes of a table -/

/-- The table with other pipelines of its routes. -/
def withPipelines (t : RouteTable σ) (pipelines : CompiledRoute σ → Pipeline σ) : RouteTable σ :=
  ⟨t.routes.map fun r ↦ { r with pipeline := pipelines r }⟩

theorem find?_withPipelines (t : RouteTable σ) (pipelines : CompiledRoute σ → Pipeline σ)
    (method : Http.Method) (path : String) :
    (t.withPipelines pipelines).find? method path =
      (t.find? method path).map fun r ↦ { r with pipeline := pipelines r } := by
  obtain ⟨routes⟩ := t
  induction routes with
  | nil => rfl
  | cons first rest ih =>
    have hanswers : answers method path { first with pipeline := pipelines first } =
        answers method path first := rfl
    rw [withPipelines] at ih ⊢
    rw [List.map_cons, find?_cons, find?_cons, hanswers]
    dsimp only at ih ⊢
    rw [ih]
    cases (⟨rest⟩ : RouteTable σ).find? method path with
    | none => split_ifs <;> rfl
    | some other =>
      simp only [Option.map_some]
      split_ifs <;> rfl

/-- No other steps have a part in an answer than those of the route that is found, if one is. -/
theorem handle_withPipelines {pipelines : CompiledRoute σ → Pipeline σ}
    (h : ∀ r, t.find? request.method request.path = some r → pipelines r = r.pipeline) :
    (t.withPipelines pipelines).handle shared request = t.handle shared request := by
  have hfound : (t.withPipelines pipelines).find? request.method request.path =
      t.find? request.method request.path := by
    rw [find?_withPipelines]
    cases hfind : t.find? request.method request.path with
    | none => rfl
    | some r => rw [Option.map_some, h r hfind]
  rw [handle, handle, hfound]

/-- A request is answered as not found without a step being run exactly if no route was found for
it. Then nothing is changed, and the same would be done whatever the steps of all the routes were.
A route that was found does not refuse the request for its method or its path: it refuses it exactly
if it is to have a body and has none of an accepted type, with the status of what is forbidden, and
otherwise its steps are dispatched on the request with the parameters that the pattern takes from
the path. The steps that are run are its own: they give the answer without the others, and those of
the other routes have no part in it. -/
theorem find?_agrees_with_guard (t : RouteTable σ) (shared : Shared σ)
    (request : Request (Factory σ)) :
    (((t.handle shared request).1.status = .notFound ∧ t.stepsRun shared request = []) ↔
      t.find? request.method request.path = none) ∧
    (t.find? request.method request.path = none →
      (t.handle shared request).1 =
        .ofError (.notFound ("no route for " ++ request.method.name ++ " " ++ request.path)) ∧
      (t.handle shared request).2.app = shared.app ∧
      (t.handle shared request).2.defaults = shared.defaults ∧
      ∀ pipelines, (t.withPipelines pipelines).handle shared request =
        t.handle shared request) ∧
    ∀ r, t.find? request.method request.path = some r →
      (∀ s : State σ, s.request = request → ∀ e,
        (r.run s).1 = .error e ↔ LacksBody request ∧ e = bodyRefusal request) ∧
      (LacksBody request → (t.handle shared request).1 = .ofError (bodyRefusal request) ∧
        (t.handle shared request).1.status = .forbidden) ∧
      (¬ LacksBody request → ∃ params, r.pattern.extract request.path = .ok params ∧
        ∀ s : State σ, s.request = request →
          r.run s = (.ok (r.dispatch (s.withRequest { request with params })).1,
            (r.dispatch (s.withRequest { request with params })).2)) ∧
      (r.withSteps (t.stepsRun shared request)).handle shared request =
        t.handle shared request ∧
      ∀ pipelines, pipelines r = r.pipeline →
        (t.withPipelines pipelines).handle shared request = t.handle shared request := by
  refine ⟨find?_eq_none_iff_handle.symm, fun hnone ↦ ?_, fun r hfind ↦ ⟨?_, ?_, ?_, ?_, ?_⟩⟩
  · obtain ⟨hanswer, happ, hdefaults⟩ := handle_of_find?_eq_none hnone
    refine ⟨hanswer, happ, hdefaults, fun pipelines ↦ handle_withPipelines fun r hfind ↦ ?_⟩
    rw [hnone] at hfind
    cases hfind
  · rintro s rfl e
    by_cases hbody : LacksBody s.request
    · rw [CompiledRoute.run_of_refuses (CompiledRoute.refuses_of_lacksBody hbody)]
      simp [hbody, eq_comm]
    · obtain ⟨params, -, haccept⟩ := (fits_of_find? hfind).accept hbody
      rw [CompiledRoute.run_eq_dispatch haccept]
      simp [hbody]
  · intro hbody
    have hrefused : (t.handle shared request).1 = .ofError (bodyRefusal request) := by
      rw [handle_of_find? hfind]
      exact CompiledRoute.handle_of_refuses (CompiledRoute.refuses_of_lacksBody hbody)
    refine ⟨hrefused, ?_⟩
    rw [hrefused]
    rfl
  · intro hbody
    obtain ⟨params, hparams, haccept⟩ := (fits_of_find? hfind).accept hbody
    refine ⟨params, hparams, ?_⟩
    rintro s rfl
    exact CompiledRoute.run_eq_dispatch haccept
  · rw [handle_of_find? hfind, stepsRun, hfind]
    exact CompiledRoute.handle_withSteps_stepsRun r shared request
  · intro pipelines hsame
    refine handle_withPipelines fun r' hfind' ↦ ?_
    rw [hfind] at hfind'
    cases hfind'
    exact hsame

/-- A route that lamps are posted to. -/
def lampPost : CompiledRoute Unit := { lampAt "/lamps/:id" with kind := .post }

/-- A lamp that is posted with a content type. -/
def posted (contentType : String) : Request (Factory Unit) :=
  (Request.new .post "/lamps/7").withHeader "content-type" contentType

/-- A lamp that is posted as plain text is refused, and one that is posted as JSON reaches the steps
of its route. -/
theorem posted_lamp_needs_body_type :
    (⟨[lampPost]⟩ : RouteTable Unit).find? .post "/lamps/7" = some lampPost ∧
      (LacksBody (posted "text/plain") ∧ ((⟨[lampPost]⟩ : RouteTable Unit).handle ⟨(), [], []⟩
        (posted "text/plain")).1.status = .forbidden) ∧
      ¬ LacksBody (posted "application/json") ∧
      ∃ params, lampPost.pattern.extract "/lamps/7" = .ok params ∧
        params.get? ":id" = some "7" ∧
        (lampPost.run (.ofRequest ⟨(), [], []⟩ (posted "application/json"))).1 =
          .ok (lampPost.dispatch
            ((State.ofRequest ⟨(), [], []⟩ (posted "application/json")).withRequest
              { posted "application/json" with params })).1 := by
  have hfind : (⟨[lampPost]⟩ : RouteTable Unit).find? .post "/lamps/7" = some lampPost := rfl
  have hlacks : LacksBody (posted "text/plain") := CompiledRoute.lacksBody_iff.mpr rfl
  have hhas : ¬ LacksBody (posted "application/json") :=
    fun h ↦ by cases CompiledRoute.lacksBody_iff.mp h
  obtain ⟨-, -, hplain⟩ :=
    find?_agrees_with_guard ⟨[lampPost]⟩ ⟨(), [], []⟩ (posted "text/plain")
  obtain ⟨-, -, hjson⟩ :=
    find?_agrees_with_guard ⟨[lampPost]⟩ ⟨(), [], []⟩ (posted "application/json")
  obtain ⟨params, hparams, hrun⟩ := (hjson lampPost hfind).2.2.1 hhas
  refine ⟨hfind, ⟨hlacks, ((hplain lampPost hfind).2.1 hlacks).2⟩, hhas, params, hparams, ?_, ?_⟩
  · have hextract : lampPost.pattern.extract "/lamps/7" = .ok ⟨[(":id", "7")]⟩ := rfl
    have hparams' : lampPost.pattern.extract "/lamps/7" = .ok params := hparams
    rw [Except.ok.inj (hparams'.symm.trans hextract)]
    rfl
  · rw [hrun (.ofRequest ⟨(), [], []⟩ (posted "application/json")) rfl]

end RouteTable

end SchemaRouting
