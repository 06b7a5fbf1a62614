import Mathlib.Tactic.ByContra
import Mathlib.Tactic.SplitIfs
import SchemaRouting.Rule.Check
import SchemaRouting.Pipeline.Dispatch
import SchemaRouting.Proofs.Pipeline.Validation
import SchemaRouting.Proofs.Rule.Parts

/-!
# Required properties of a validated body

A rule neither makes a null value nor takes one away (`isNull_of_check`), so a value that a
required rule lets through is not null. An object that is let through therefore holds each of
its required properties, and not with null (`holdsRequired_of_check_object`): the undeclared
members that are copied besides come under other keys. The one way past an object rule without
being an object is to be null where the rule itself is not required. The body that the step
leaves is of these two forms and no other (`validated_body_holds_required`), and the second one
does occur (`null_body_passes_required_property`).
-/

set_option autoImplicit false
set_option relaxedAutoImplicit false

namespace SchemaRouting.Rule

/-! ### Null values -/

theorem Text.isNull_of_check {settings : Text} {path s : String} {w : Json}
    (h : settings.check path s = .ok w) : w.isNull = false := by
  unfold Text.check at h
  dsimp only at h
  generalize (if settings.trim then SchemaRouting.Text.trim s else s) = t at h
  split_ifs at h
  cases h
  rfl

theorem isNull_of_checkInteger {minimum maximum : Option Int} {path : String} {v w : Json}
    (h : checkInteger minimum maximum path v = .ok w) : w.isNull = v.isNull := by
  unfold checkInteger at h
  split at h
  · split at h
    · split_ifs at h
      cases h
      rfl
    · cases h
  · cases h

theorem isNull_of_checkNumber {minimum maximum : Option Float} {path : String} {v w : Json}
    (h : checkNumber minimum maximum path v = .ok w) : w.isNull = v.isNull := by
  unfold checkNumber at h
  split at h
  · split_ifs at h
    cases h
    rfl
  · cases h

/-- The normalized form of a value is null exactly if the value is. -/
theorem isNull_of_check {mode : Strictness} {rule : Rule} {path : String} {v w : Json}
    (h : check mode rule path v = .ok w) : w.isNull = v.isNull := by
  obtain ⟨kind, required, default, description⟩ := rule
  rw [check.eq_def] at h
  dsimp only at h
  by_cases hnull : v.isNull = true
  · rw [if_pos hnull] at h
    split_ifs at h
    cases h
    exact hnull.symm
  · rw [if_neg hnull] at h
    rw [Bool.not_eq_true] at hnull
    rw [hnull]
    cases kind with
    | string settings =>
      dsimp only at h
      split at h
      · exact Text.isNull_of_check h
      · cases h
    | integer minimum maximum => rw [isNull_of_checkInteger h, hnull]
    | number minimum maximum => rw [isNull_of_checkNumber h, hnull]
    | boolean =>
      dsimp only at h
      split at h
      · cases h
        rfl
      · cases h
    | array items minItems maxItems =>
      dsimp only at h
      split at h
      · split_ifs at h
        split at h
        · cases h
          rfl
        · obtain ⟨values, -, rfl⟩ := map_eq_ok_iff.mp h
          rfl
      · cases h
    | object properties allowUnknown =>
      dsimp only at h
      split at h
      · obtain ⟨declared, -, h⟩ := bind_eq_ok_iff.mp h
        obtain ⟨normalized, -, h⟩ := bind_eq_ok_iff.mp h
        cases h
        rfl
      · cases h
    | any =>
      cases h
      exact hnull

/-- Assumes: a required rule that lets a value through. The value is not null. -/
theorem isNull_eq_false_of_required {mode : Strictness} {rule : Rule} {path : String} {v w : Json}
    (hrequired : rule.required = true) (h : check mode rule path v = .ok w) :
    v.isNull = false := by
  obtain ⟨kind, required, default, description⟩ := rule
  rw [check.eq_def] at h
  dsimp only at h hrequired
  by_contra hnull
  rw [if_pos (by simpa using hnull), if_pos hrequired] at h
  cases h

/-! ### Properties and undeclared members -/

/-- Every required property is there in the members of an object, and not null. -/
def HoldsRequired (properties : List (String × Rule)) (members : List (String × Json)) : Prop :=
  ∀ name rule, (name, rule) ∈ properties → rule.required = true →
    ∃ v, Keyed.find? name members = some v ∧ v ≠ .null

/-- A required property that is let through is among the members, and not null. -/
theorem find?_of_propertyValue_required {mode : Strictness} {members : List (String × Json)}
    {path name : String} {rule : Rule} {here : Option Json} (hrequired : rule.required = true)
    (h : propertyValue mode members path name rule = .ok here) :
    ∃ v, Keyed.find? name members = some v ∧ v.isNull = false := by
  unfold propertyValue at h
  cases hfind : Keyed.find? name members with
  | some v =>
    rw [hfind] at h
    obtain ⟨w, hw, -⟩ := map_eq_ok_iff.mp h
    exact ⟨v, rfl, isNull_eq_false_of_required hrequired hw⟩
  | none =>
    rw [hfind] at h
    dsimp only at h
    rw [if_pos hrequired] at h
    cases h

theorem propertyValue_of_find? {mode : Strictness} {members : List (String × Json)}
    {path name : String} {rule : Rule} {here : Option Json} {v : Json}
    (hfind : Keyed.find? name members = some v)
    (h : propertyValue mode members path name rule = .ok here) :
    ∃ w, here = some w ∧ w.isNull = v.isNull := by
  unfold propertyValue at h
  rw [hfind] at h
  obtain ⟨w, hw, rfl⟩ := map_eq_ok_iff.mp h
  exact ⟨w, rfl, isNull_of_check hw⟩

theorem find?_of_checkProperties_required {mode : Strictness} {members : List (String × Json)}
    {path name : String} {rule : Rule} {properties : List (String × Rule)}
    {normalized : List (String × Json)} (hmem : (name, rule) ∈ properties)
    (hrequired : rule.required = true)
    (h : checkProperties mode members path properties = .ok normalized) :
    ∃ v, Keyed.find? name members = some v ∧ v.isNull = false := by
  obtain ⟨here, hhere⟩ := exists_checkProperties_iff.mp ⟨normalized, h⟩ name rule hmem
  exact find?_of_propertyValue_required hrequired hhere

/-- A declared property that is among the members is in the normalized object too, null there
exactly if it was. Of two properties of one name the first decides, and it has read the same
member as the second. -/
theorem find?_checkProperties {mode : Strictness} {members : List (String × Json)}
    {path name : String} {properties : List (String × Rule)} {normalized : List (String × Json)}
    {v : Json} (hname : name ∈ Keyed.keys properties) (hfind : Keyed.find? name members = some v)
    (h : checkProperties mode members path properties = .ok normalized) :
    ∃ w, Keyed.find? name normalized = some w ∧ w.isNull = v.isNull := by
  induction properties generalizing normalized with
  | nil => cases hname
  | cons property rest ih =>
    obtain ⟨key, rule⟩ := property
    rw [checkProperties_cons] at h
    obtain ⟨here, hhere, h⟩ := bind_eq_ok_iff.mp h
    obtain ⟨others, hothers, h⟩ := bind_eq_ok_iff.mp h
    by_cases hkey : key = name
    · subst hkey
      obtain ⟨w, rfl, hw⟩ := propertyValue_of_find? hfind hhere
      cases h
      exact ⟨w, Keyed.find?_insert_self key w others, hw⟩
    · have hrest : name ∈ Keyed.keys rest := by
        rcases List.mem_cons.mp hname with heq | hrest
        · exact absurd heq.symm hkey
        · exact hrest
      obtain ⟨w, hw, hnull⟩ := ih hrest hothers
      refine ⟨w, ?_, hnull⟩
      cases h
      cases here with
      | none => exact hw
      | some u => rw [Keyed.find?_insert_of_ne (Ne.symm hkey), hw]

/-- Copying undeclared members leaves every other key as it was. -/
theorem find?_copyUndeclared {allowed : Bool} {path name : String}
    {undeclared normalized result : List (String × Json)}
    (hname : ∀ member ∈ undeclared, member.1 ≠ name)
    (h : copyUndeclared allowed path normalized undeclared = .ok result) :
    Keyed.find? name result = Keyed.find? name normalized := by
  induction undeclared generalizing normalized with
  | nil =>
    cases h
    rfl
  | cons member rest ih =>
    obtain ⟨key, v⟩ := member
    rw [copyUndeclared] at h
    split_ifs at h
    have hne : key ≠ name := hname (key, v) List.mem_cons_self
    rw [ih (fun other hother ↦ hname other (List.mem_cons_of_mem _ hother)) h,
      Keyed.find?_insert_of_ne hne.symm]

/-! ### Objects -/

/-- Assumes: members that a rule for objects lets through. The normalized members hold every
required property. -/
theorem holdsRequired_of_check_object {mode : Strictness} {rule : Rule} {path : String}
    {properties : List (String × Rule)} {allowUnknown : Bool} {members : List (String × Json)}
    {w : Json} (hkind : rule.kind = .object properties allowUnknown)
    (h : check mode rule path (.object members) = .ok w) :
    ∃ normalized, w = .object normalized ∧ HoldsRequired properties normalized := by
  obtain ⟨kind, required, default, description⟩ := rule
  subst hkind
  rw [check.eq_def] at h
  simp only [Json.isNull, Bool.false_eq_true, if_false] at h
  obtain ⟨declared, hdeclared, h⟩ := bind_eq_ok_iff.mp h
  obtain ⟨normalized, hcopied, h⟩ := bind_eq_ok_iff.mp h
  cases h
  refine ⟨normalized, rfl, fun name rule hmem hrequired ↦ ?_⟩
  obtain ⟨v, hfind, hnull⟩ := find?_of_checkProperties_required hmem hrequired hdeclared
  have hkey : name ∈ Keyed.keys properties := List.mem_map.mpr ⟨(name, rule), hmem, rfl⟩
  obtain ⟨w, hw, hsame⟩ := find?_checkProperties hkey hfind hdeclared
  refine ⟨w, ?_, ?_⟩
  · rw [find?_copyUndeclared _ hcopied, hw]
    intro member hmember heq
    have hundeclared := (List.mem_filter.mp hmember).2
    rw [heq, Keyed.contains_of_mem hmem] at hundeclared
    cases hundeclared
  · rintro rfl
    rw [hnull] at hsame
    cases hsame

/-- Assumes: a value that a rule for objects lets through. It is an object, or it is null and
the rule is not required. -/
theorem object_or_null_of_check {mode : Strictness} {rule : Rule} {path : String} {v w : Json}
    {properties : List (String × Rule)} {allowUnknown : Bool}
    (hkind : rule.kind = .object properties allowUnknown) (h : check mode rule path v = .ok w) :
    (∃ members, v = .object members) ∨ (v = .null ∧ rule.required = false) := by
  obtain ⟨kind, required, default, description⟩ := rule
  subst hkind
  rw [check.eq_def] at h
  cases v with
  | object members => exact .inl ⟨members, rfl⟩
  | null =>
    refine .inr ⟨rfl, ?_⟩
    cases required with
    | false => rfl
    | true => cases h
  | bool b => cases h
  | number n => cases h
  | string s => cases h
  | array items => cases h

end SchemaRouting.Rule

namespace SchemaRouting.Step

variable {σ : Type}

/-! ### The step -/

theorem runValidateBody_null {rule : Rule} (hrequired : rule.required = false)
    {s : Dispatch.State σ} (hnull : s.request.body = .null) :
    (validateBody rule.validate).run s = (.proceed, s) := by
  rw [runValidateBody_eq_proceed_iff]
  refine ⟨.null, ?_, ?_⟩
  · obtain ⟨kind, required, default, description⟩ := rule
    subst hrequired
    rw [hnull, Rule.validate, Rule.check.eq_def]
    rfl
  · rw [← hnull]
    rfl

/-- Assumes: a rule for objects. Where the validation of a body by it proceeds, and the body was
not null or the rule itself is required, the body is left as an object that holds every required
property and not with null, and the steps that follow are run on that request. A null body under a
rule that is not itself required proceeds as it is. -/
theorem validated_body_holds_required {rule : Rule} {properties : List (String × Rule)}
    {allowUnknown : Bool} (hkind : rule.kind = .object properties allowUnknown)
    (s : Dispatch.State σ) :
    (∀ t, (validateBody rule.validate).run s = (.proceed, t) →
      rule.required = true ∨ s.request.body ≠ .null →
      (∃ members, t.request.body = .object members ∧ Rule.HoldsRequired properties members) ∧
      ∀ rest, Dispatch.runSteps (validateBody rule.validate :: rest) s =
        Dispatch.runSteps rest t) ∧
    (rule.required = false → s.request.body = .null →
      (validateBody rule.validate).run s = (.proceed, s)) := by
  refine ⟨fun t hrun hvalue ↦ ⟨?_, fun rest ↦ ?_⟩, fun hrequired hnull ↦ ?_⟩
  · obtain ⟨body, hbody, ht⟩ := runValidateBody_eq_proceed_iff.mp hrun
    have hleft : t.request.body = body := by rw [ht]; rfl
    rw [hleft]
    rcases Rule.object_or_null_of_check hkind hbody with ⟨members, hmembers⟩ | ⟨hnull, hfalse⟩
    · rw [hmembers] at hbody
      exact Rule.holdsRequired_of_check_object hkind hbody
    · rcases hvalue with htrue | hne
      · rw [hfalse] at htrue
        cases htrue
      · exact absurd hnull hne
  · rw [Dispatch.runSteps, hrun]
  · exact runValidateBody_null hrequired hnull

/-- The state of a request with a body, before anything was done for it. -/
def bodied (body : Json) : Dispatch.State Unit where
  request := { Request.new .post "/v1/lamps" with body }
  response := .new
  app := ()
  defaults := []
  notes := []

/-- A rule for objects with a name. -/
def named : Rule := .object [("name", Rule.string.trimmed.asRequired)]

theorem lamp_body_holds_name :
    named.kind = .object [("name", Rule.string.trimmed.asRequired)] false ∧
    (validateBody named.validate).run (bodied (.object [("name", .string " lamp ")])) =
      (.proceed, bodied (.object [("name", .string "lamp")])) ∧
    ∃ members, (bodied (.object [("name", .string "lamp")])).request.body = .object members ∧
      Rule.HoldsRequired [("name", Rule.string.trimmed.asRequired)] members := by
  have hkind : named.kind = .object [("name", Rule.string.trimmed.asRequired)] false := rfl
  have hrun : (validateBody named.validate).run (bodied (.object [("name", .string " lamp ")])) =
      (.proceed, bodied (.object [("name", .string "lamp")])) := rfl
  have hnotNull : (bodied (.object [("name", .string " lamp ")])).request.body ≠ .null := by nofun
  exact ⟨hkind, hrun, ((validated_body_holds_required hkind _).1 _ hrun (.inr hnotNull)).1⟩

/-- It is not so that every body that proceeds is an object with the required properties: a null
one proceeds past a rule that is not itself required. -/
theorem null_body_passes_required_property :
    ¬ ∀ (rule : Rule) (properties : List (String × Rule)) (allowUnknown : Bool)
      (s t : Dispatch.State Unit), rule.kind = .object properties allowUnknown →
      (validateBody rule.validate).run s = (.proceed, t) →
      ∃ members, t.request.body = .object members ∧ Rule.HoldsRequired properties members := by
  intro h
  obtain ⟨members, hbody, -⟩ := h named _ _ (bodied .null) (bodied .null) rfl rfl
  cases hbody

end SchemaRouting.Step
