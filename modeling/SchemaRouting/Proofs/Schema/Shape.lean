import SchemaRouting.Schema.Shape
import SchemaRouting.Proofs.Success

/-!
# Which schemas are well shaped

A schema passes its check exactly if every one of its settings, and of those of each of its routes,
has the shape it must have (`check_eq_ok_iff`, `WellShaped`), in whatever order they are looked at.
One that does not is refused as an invalid schema, whichever of its faults is found first
(`exists_check_eq_invalidSchema`).
-/

set_option autoImplicit false
set_option relaxedAutoImplicit false

namespace SchemaRouting.Schema.Shape

variable {σ : Type} {field : String}

/-! ### The parts of a check -/

theorem then_eq_ok_iff {first second : Check} :
    (do first; second) = .ok () ↔ first = .ok () ∧ second = .ok () := by
  rw [bind_eq_ok_iff]
  constructor
  · rintro ⟨_, hfirst, hsecond⟩
    exact ⟨hfirst, hsecond⟩
  · rintro ⟨hfirst, hsecond⟩
    exact ⟨(), hfirst, hsecond⟩

theorem require_eq_ok_iff {holds : Bool} {field reason : String} :
    require holds field reason = .ok () ↔ holds = true := by
  cases holds <;> simp [require]

theorem checkOptional_eq_ok_iff {check : String → Check} {text : Option String} :
    checkOptional check text = .ok () ↔ ∀ s ∈ text, check s = .ok () := by
  cases text <;> simp [checkOptional]

/-- The middlewares of a list pass exactly if every name among them is a handler's name. -/
theorem checkMiddlewares_eq_ok_iff {field : String} {index : Nat} {ms : List (Middleware σ)} :
    checkMiddlewares field index ms = .ok () ↔
      ∀ name, .named name ∈ ms → isHandlerName (Text.trim name) = true := by
  induction ms generalizing index with
  | nil => simp [checkMiddlewares]
  | cons m rest ih =>
    cases m with
    | step s => simp [checkMiddlewares, ih]
    | named name =>
      rw [checkMiddlewares, then_eq_ok_iff, checkHandlerName, require_eq_ok_iff, ih]
      simp

/-! ### The shape of a schema -/

/-- A name as handlers and factories have it, with white space around it or not. -/
def IsName (s : String) : Prop := isHandlerName (Text.trim s) = true

/-- The shape of the settings of a route. -/
structure RouteShaped (r : RouteDefinition σ) : Prop where
  id : ∀ s ∈ r.id, isIdentifier s = true
  method : ∀ s ∈ r.method, s ∈ routeMethods
  path : ∀ s ∈ r.path, isRelativePath s = true
  postValidation : ∀ s ∈ r.postValidation, IsName s
  loadFactory : ∀ s ∈ r.loadFactory, IsName s
  handler : ∀ s ∈ r.handler, IsName s
  postHandler : ∀ s ∈ r.postHandler, IsName s
  useFactory : ∀ s ∈ r.useFactory, IsName s
  useFactoryMethod : ∀ s ∈ r.useFactoryMethod, isMethodName s = true
  middlewares : ∀ name, .named name ∈ r.middlewares → IsName name

/-- The shape of a route in each way of writing it. -/
inductive EntryShaped : EntryDefinition σ → Prop
  | route {r : RouteDefinition σ} : RouteShaped r → EntryShaped (.route r)
  | path {s : String} : isRelativePath s = true → EntryShaped (.path s)
  | empty : EntryShaped .empty

/-- The shape of a schema, of all its routes and of all its middlewares. -/
structure WellShaped (d : Definition σ) : Prop where
  id : ∀ s ∈ d.id, isIdentifier s = true
  path : ∀ s ∈ d.path, isRelativePath s = true
  useFactory : ∀ s ∈ d.useFactory, IsName s
  loadFactory : ∀ s ∈ d.loadFactory, IsName s
  middlewares : ∀ name, .named name ∈ d.middlewares → IsName name
  routes : ∀ id entry, (id, entry) ∈ d.routes → isIdentifier id = true ∧ EntryShaped entry

theorem checkRoute_eq_ok_iff {r : RouteDefinition σ} :
    checkRoute field r = .ok () ↔ RouteShaped r := by
  simp only [checkRoute, then_eq_ok_iff, checkOptional_eq_ok_iff, checkMiddlewares_eq_ok_iff,
    checkIdentifier, checkMethod, checkPath, checkHandlerName, checkMethodName, require_eq_ok_iff,
    List.contains_iff_mem]
  constructor
  · rintro ⟨hid, hmethod, hpath, hpost, hload, hhandler, hafter, hfactory, hcall, hmiddlewares⟩
    exact ⟨hid, hmethod, hpath, hpost, hload, hhandler, hafter, hfactory, hcall, hmiddlewares⟩
  · intro h
    exact ⟨h.id, h.method, h.path, h.postValidation, h.loadFactory, h.handler, h.postHandler,
      h.useFactory, h.useFactoryMethod, h.middlewares⟩

theorem checkEntry_eq_ok_iff {entry : EntryDefinition σ} :
    checkEntry field entry = .ok () ↔ EntryShaped entry := by
  cases entry with
  | route r =>
    rw [checkEntry, checkRoute_eq_ok_iff]
    exact ⟨.route, fun | .route h => h⟩
  | path s =>
    rw [checkEntry, checkPath, require_eq_ok_iff]
    exact ⟨.path, fun | .path h => h⟩
  | empty => exact ⟨fun _ ↦ .empty, fun _ ↦ rfl⟩

theorem checkRoutes_eq_ok_iff {routes : List (String × EntryDefinition σ)} :
    checkRoutes routes = .ok () ↔
      ∀ id entry, (id, entry) ∈ routes → isIdentifier id = true ∧ EntryShaped entry := by
  induction routes with
  | nil => simp [checkRoutes]
  | cons first rest ih =>
    obtain ⟨key, entry⟩ := first
    rw [checkRoutes, then_eq_ok_iff, then_eq_ok_iff, checkIdentifier, require_eq_ok_iff,
      checkEntry_eq_ok_iff, ih]
    constructor
    · rintro ⟨hkey, hentry, hrest⟩ id other hmem
      rcases List.mem_cons.mp hmem with heq | hmem
      · cases heq
        exact ⟨hkey, hentry⟩
      · exact hrest id other hmem
    · intro h
      obtain ⟨hkey, hentry⟩ := h key entry List.mem_cons_self
      exact ⟨hkey, hentry, fun id other hmem ↦ h id other (List.mem_cons_of_mem _ hmem)⟩

/-- A schema passes its check exactly if it and all its routes are well shaped. -/
theorem check_eq_ok_iff {d : Definition σ} : check d = .ok () ↔ WellShaped d := by
  simp only [check, then_eq_ok_iff, checkOptional_eq_ok_iff, checkMiddlewares_eq_ok_iff,
    checkRoutes_eq_ok_iff, checkIdentifier, checkPath, checkHandlerName, require_eq_ok_iff]
  constructor
  · rintro ⟨hid, hpath, hfactory, hload, hmiddlewares, hroutes⟩
    exact ⟨hid, hpath, hfactory, hload, hmiddlewares, hroutes⟩
  · intro h
    exact ⟨h.id, h.path, h.useFactory, h.loadFactory, h.middlewares, h.routes⟩

/-! ### What a check that fails reports -/

/-- A check that fails does so as an invalid schema. -/
def FailsAsInvalid (check : Check) : Prop :=
  ∀ e, check = .error e → ∃ field reason, e = .invalidSchema field reason

theorem failsAsInvalid_ok : FailsAsInvalid (.ok ()) := nofun

theorem failsAsInvalid_require (holds : Bool) (field reason : String) :
    FailsAsInvalid (require holds field reason) := by
  intro e he
  cases holds with
  | true => cases he
  | false =>
    cases he
    exact ⟨field, reason, rfl⟩

theorem FailsAsInvalid.seq {first second : Check} (hfirst : FailsAsInvalid first)
    (hsecond : FailsAsInvalid second) : FailsAsInvalid (do first; second) := by
  intro e he
  rcases bind_eq_error_iff.mp he with he | ⟨_, -, he⟩
  · exact hfirst e he
  · exact hsecond e he

theorem failsAsInvalid_optional {check : String → Check} (hcheck : ∀ s, FailsAsInvalid (check s))
    (text : Option String) : FailsAsInvalid (checkOptional check text) := by
  cases text with
  | none => exact failsAsInvalid_ok
  | some s => exact hcheck s

theorem failsAsInvalid_middlewares (field : String) (index : Nat) (ms : List (Middleware σ)) :
    FailsAsInvalid (checkMiddlewares field index ms) := by
  induction ms generalizing index with
  | nil => exact failsAsInvalid_ok
  | cons m rest ih =>
    cases m with
    | step s => exact ih (index + 1)
    | named name => exact (failsAsInvalid_require _ _ _).seq (ih (index + 1))

theorem failsAsInvalid_route (field : String) (r : RouteDefinition σ) :
    FailsAsInvalid (checkRoute field r) := by
  unfold checkRoute
  iterate 9 refine (failsAsInvalid_optional (fun s ↦ failsAsInvalid_require _ _ _) _).seq ?_
  exact failsAsInvalid_middlewares _ _ _

theorem failsAsInvalid_entry (field : String) (entry : EntryDefinition σ) :
    FailsAsInvalid (checkEntry field entry) := by
  cases entry with
  | route r => exact failsAsInvalid_route field r
  | path s => exact failsAsInvalid_require _ _ _
  | empty => exact failsAsInvalid_ok

theorem failsAsInvalid_routes (routes : List (String × EntryDefinition σ)) :
    FailsAsInvalid (checkRoutes routes) := by
  induction routes with
  | nil => exact failsAsInvalid_ok
  | cons first rest ih =>
    exact (failsAsInvalid_require _ _ _).seq ((failsAsInvalid_entry _ _).seq ih)

theorem failsAsInvalid_check (d : Definition σ) : FailsAsInvalid (check d) := by
  unfold check
  iterate 4 refine (failsAsInvalid_optional (fun s ↦ failsAsInvalid_require _ _ _) _).seq ?_
  exact (failsAsInvalid_middlewares _ _ _).seq (failsAsInvalid_routes _)

/-- A schema that is not well shaped is refused as an invalid schema. -/
theorem exists_check_eq_invalidSchema {d : Definition σ} (hd : ¬ WellShaped d) :
    ∃ field reason, check d = .error (.invalidSchema field reason) := by
  cases hcheck : check d with
  | ok =>
    cases hd (check_eq_ok_iff.mp hcheck)
  | error e =>
    obtain ⟨field, reason, rfl⟩ := failsAsInvalid_check d e hcheck
    exact ⟨field, reason, rfl⟩

end SchemaRouting.Schema.Shape
