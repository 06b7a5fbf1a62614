import SchemaRouting.Proofs.Rule.Outcome

/-!
# Strict and lenient checks

A lenient check lets undeclared members through where a strict one refuses the first of them, and
that is all the difference there is. The two go through a value in the same order, so that they part
only at a refusal: up to there they have made the same and would report the same. This is one
relation between outcomes (`Relaxes`), which the parts of a check hand on to the whole
(`check_relaxes`).
-/

set_option autoImplicit false
set_option relaxedAutoImplicit false

namespace SchemaRouting.Rule

/-! ### Outcomes -/

section Outcomes

variable {α β : Type}

/-- The outcome of a check is that an undeclared member is not allowed. -/
def IsRefusal (outcome : Except ValidationError α) : Prop :=
  ∃ e, outcome = .error e ∧ e.violation = .notAllowed

@[simp] theorem isRefusal_error {e : ValidationError} :
    IsRefusal (.error e : Except ValidationError α) ↔ e.violation = .notAllowed := by
  simp [IsRefusal]

@[simp] theorem not_isRefusal_ok (a : α) : ¬ IsRefusal (.ok a) := by
  simp [IsRefusal]

/-- The outcome of a lenient check is never a refusal, and that of a strict check unless the strict
one is a refusal. -/
structure Relaxes (strict lenient : Except ValidationError α) : Prop where
  never : ¬ IsRefusal lenient
  same : ¬ IsRefusal strict → lenient = strict

theorem relaxes_refl {outcome : Except ValidationError α} (h : ¬ IsRefusal outcome) :
    Relaxes outcome outcome :=
  ⟨h, fun _ ↦ rfl⟩

theorem relaxes_ok (a : α) : Relaxes (.ok a) (.ok a) :=
  relaxes_refl (not_isRefusal_ok a)

theorem relaxes_error {e : ValidationError} (h : e.violation ≠ .notAllowed) :
    Relaxes (.error e : Except ValidationError α) (.error e) :=
  relaxes_refl (isRefusal_error.not.mpr h)

theorem Relaxes.bind {strict lenient : Except ValidationError α}
    {f g : α → Except ValidationError β} (h : Relaxes strict lenient)
    (hrest : ∀ a, Relaxes (f a) (g a)) : Relaxes (strict >>= f) (lenient >>= g) := by
  refine ⟨?_, fun hstrict ↦ ?_⟩
  · cases lenient with
    | error e =>
      show ¬ IsRefusal (.error e : Except ValidationError β)
      simpa using h.never
    | ok a => exact (hrest a).never
  · cases strict with
    | error e =>
      replace hstrict : ¬ IsRefusal (.error e : Except ValidationError β) := hstrict
      have hsame : lenient = .error e := h.same (by simpa using hstrict)
      rw [hsame]
      rfl
    | ok a =>
      have hsame : lenient = .ok a := h.same (not_isRefusal_ok a)
      rw [hsame]
      exact (hrest a).same hstrict

theorem Relaxes.map {strict lenient : Except ValidationError α} (h : Relaxes strict lenient)
    (f : α → β) : Relaxes (strict.map f) (lenient.map f) := by
  have hmap : ∀ outcome : Except ValidationError α, outcome.map f = outcome >>= fun a ↦ .ok (f a) :=
    fun outcome ↦ by cases outcome <;> rfl
  rw [hmap, hmap]
  exact h.bind fun a ↦ relaxes_ok (f a)

theorem relaxes_ite {p : Prop} [Decidable p] {e : ValidationError}
    {strict lenient : Except ValidationError α} (he : e.violation ≠ .notAllowed)
    (h : Relaxes strict lenient) :
    Relaxes (if p then .error e else strict) (if p then .error e else lenient) := by
  split_ifs
  · exact relaxes_error he
  · exact h

end Outcomes

/-! ### The parts of a value -/

theorem checkItems_relaxes {strict lenient : String → Json → Except ValidationError Json}
    (h : ∀ place v, Relaxes (strict place v) (lenient place v)) (path : String) (index : Nat)
    (values : List Json) :
    Relaxes (checkItems strict path index values) (checkItems lenient path index values) := by
  induction values generalizing index with
  | nil => exact relaxes_ok []
  | cons v rest ih =>
    rw [checkItems, checkItems]
    apply (h _ v).bind
    intro w
    apply (ih (index + 1)).bind
    intro ws
    exact relaxes_ok (w :: ws)

/-- A rule is as strict as it is lenient, undeclared members apart, in any place. -/
def ModesRelax (rule : Rule) : Prop :=
  ∀ path v, Relaxes (check .strict rule path v) (check .lenient rule path v)

theorem propertyValue_relaxes {property : Rule} (h : property.ModesRelax)
    (members : List (String × Json)) (path name : String) :
    Relaxes (propertyValue .strict members path name property)
      (propertyValue .lenient members path name property) := by
  cases hfind : Keyed.find? name members with
  | some v =>
    rw [propertyValue_of_some hfind, propertyValue_of_some hfind]
    exact (h _ v).map some
  | none =>
    rw [propertyValue_of_none hfind, propertyValue_of_none hfind]
    exact relaxes_ite (by simp) (relaxes_ok property.default)

theorem checkProperties_relaxes {properties : List (String × Rule)}
    (h : ∀ name property, (name, property) ∈ properties → property.ModesRelax)
    (members : List (String × Json)) (path : String) :
    Relaxes (checkProperties .strict members path properties)
      (checkProperties .lenient members path properties) := by
  induction properties with
  | nil =>
    rw [checkProperties, checkProperties]
    exact relaxes_ok []
  | cons entry rest ih =>
    obtain ⟨name, property⟩ := entry
    rw [checkProperties_cons, checkProperties_cons]
    apply (propertyValue_relaxes (h name property List.mem_cons_self) members path name).bind
    intro here
    apply (ih fun key other hmem ↦ h key other (List.mem_cons_of_mem _ hmem)).bind
    intro others
    exact relaxes_ok _

/-- The one step in which the two differ. -/
theorem copyUndeclared_relaxes (allowed : Bool) (path : String)
    (declared undeclared : List (String × Json)) :
    Relaxes (copyUndeclared allowed path declared undeclared)
      (copyUndeclared true path declared undeclared) := by
  rw [copyUndeclared_of_allowed]
  refine ⟨not_isRefusal_ok _, fun hstrict ↦ ?_⟩
  cases undeclared with
  | nil => rfl
  | cons member rest =>
    cases allowed with
    | true => rw [copyUndeclared_of_allowed]
    | false =>
      refine absurd ?_ hstrict
      simp [copyUndeclared]

/-! ### Whole values -/

theorem check_relaxes (rule : Rule) : rule.ModesRelax := by
  induction rule using childInduction with
  | step rule ih =>
    intro path v
    by_cases hnull : v = .null
    · subst hnull
      rw [check_null, check_null]
      exact relaxes_ite (by simp) (relaxes_ok Json.null)
    by_cases hfits : rule.kind.fits v = true
    · have hfitting := Kind.fitting_of_fits hfits
      generalize hkind : rule.kind = kind at hfitting
      cases hfitting with
      | string settings s =>
        rw [check_string hkind, check_string hkind]
        exact relaxes_ite (by simp) (relaxes_ite (by simp) (relaxes_ite (by simp) (relaxes_ok _)))
      | integer minimum maximum hn =>
        rw [check_integer hkind hn, check_integer hkind hn]
        exact relaxes_ite (by simp) (relaxes_ok _)
      | number minimum maximum n =>
        rw [check_number hkind, check_number hkind]
        exact relaxes_ite (by simp) (relaxes_ok _)
      | boolean b =>
        rw [check_boolean hkind, check_boolean hkind]
        exact relaxes_ok _
      | array items minItems maxItems values =>
        rw [check_array hkind, check_array hkind]
        refine relaxes_ite (by simp) (relaxes_ite (by simp) ?_)
        cases items with
        | none => exact relaxes_ok _
        | some item =>
          have hitem : item.ModesRelax := ih item (mem_children_of_item hkind)
          exact (checkItems_relaxes hitem path 0 values).map Json.array
      | object properties allowUnknown members =>
        have hproperties (name : String) (property : Rule) (hmem : (name, property) ∈ properties) :
            property.ModesRelax := ih property (mem_children_of_property hkind hmem)
        rw [check_object hkind, check_object hkind]
        apply (checkProperties_relaxes hproperties members path).bind
        intro declared
        simp only [reduceCtorEq, decide_false, Bool.or_false, decide_true, Bool.or_true]
        apply (copyUndeclared_relaxes allowUnknown path declared _).bind
        intro normalized
        exact relaxes_ok _
      | any =>
        rw [check_any hkind hnull, check_any hkind hnull]
        exact relaxes_ok _
    · have hwrong : rule.kind.fits v = false := by simpa using hfits
      rw [check_of_fits_eq_false hnull hwrong, check_of_fits_eq_false hnull hwrong]
      exact relaxes_error (by simp [wrongKind])

/-- What a strict check makes of a value a lenient check makes of it too, and an error other than
for an undeclared member is the same error for both. A lenient check never reports an undeclared
member. -/
theorem validate_lenient_of_strict (rule : Rule) (v : Json) :
    (∀ w, rule.validate .strict v = .ok w → rule.validate .lenient v = .ok w) ∧
    (∀ e, rule.validate .strict v = .error e → e.violation ≠ .notAllowed →
      rule.validate .lenient v = .error e) ∧
    ∀ e, rule.validate .lenient v = .error e → e.violation ≠ .notAllowed := by
  obtain ⟨hnever, hsame⟩ := check_relaxes rule "$" v
  refine ⟨fun w hw ↦ ?_, fun e he hother ↦ ?_, fun e he hrefused ↦ ?_⟩
  · have hnot : ¬ IsRefusal (rule.check .strict "$" v) := by
      rw [show rule.check .strict "$" v = .ok w from hw]
      exact not_isRefusal_ok w
    exact (hsame hnot).trans hw
  · have hnot : ¬ IsRefusal (check .strict rule "$" v) := by
      rw [show check .strict rule "$" v = .error e from he]
      exact isRefusal_error.not.mpr hother
    exact (hsame hnot).trans he
  · exact hnever ⟨e, he, hrefused⟩

-- Where a strict check refuses a member a lenient one lets it through and goes on.
example : lamps.validate .strict (.object [("name", .string "hall"), ("shade", .null)]) =
      .error ⟨"$.shade", .notAllowed⟩ ∧
    lamps.validate .lenient (.object [("name", .string "hall"), ("shade", .null)]) =
      .ok (.object [("lit", .bool false), ("name", .string "hall"), ("shade", .null)]) :=
  ⟨rfl, rfl⟩

/-- A lamp with a shade that lamps are not known to have, in the first room and one more. -/
def shadedLampIn (room : Int) : Json :=
  .ofMembers [("shade", .null), ("rooms", .array [.int 1, .int room]), ("name", .string "hall")]

theorem lamps_pass_or_fail_leniently :
    lamps.validate .strict (lampIn 2) = lamps.validate .lenient (lampIn 2) ∧
    lamps.validate .lenient (lampIn 2) = .ok (.object [("lit", .bool false),
      ("name", .string "hall"), ("rooms", .array [.int 1, .int 2])]) ∧
    lamps.validate .strict (shadedLampIn 0) = .error ⟨"$.rooms[1]", .outOfRange (.int 0)⟩ ∧
    lamps.validate .lenient (shadedLampIn 0) = .error ⟨"$.rooms[1]", .outOfRange (.int 0)⟩ := by
  have hpasses : lamps.validate .strict (lampIn 2) = .ok (.object [("lit", .bool false),
      ("name", .string "hall"), ("rooms", .array [.int 1, .int 2])]) := rfl
  have hfails : lamps.validate .strict (shadedLampIn 0) =
      .error ⟨"$.rooms[1]", .outOfRange (.int 0)⟩ := rfl
  have hlenient := (validate_lenient_of_strict lamps (lampIn 2)).1 _ hpasses
  have hlenient' := (validate_lenient_of_strict lamps (shadedLampIn 0)).2.1 _ hfails (by decide)
  exact ⟨hpasses.trans hlenient.symm, hlenient, hfails, hlenient'⟩

end SchemaRouting.Rule
