import Mathlib.Tactic.ByContra
import SchemaRouting.Proofs.Json.Sorted
import SchemaRouting.Proofs.Rule.Distinct
import SchemaRouting.Proofs.Rule.Parts

/-!
# Conforming values

What a rule asks of a value is said here without checking one: which values conform to it
(`Conforms`), what a conforming value becomes (`Normalizes`), and what is first wrong with another
(`FirstViolation`), where the type goes before the bounds, the bounds before the parts, an item
before those after it, a declared property before those declared later, and all of them before the
undeclared members, the least name first. Every sorted value conforms or has a first violation
(`conforms_or_exists_firstViolation`), and what it becomes is determined (`Normalizes.unique`).
-/

set_option autoImplicit false
set_option relaxedAutoImplicit false

namespace SchemaRouting.Rule

/-! ### Types and bounds -/

/-- Not below the least value, if there is one. -/
def NotBelow {α : Type} [LT α] (minimum : Option α) (a : α) : Prop :=
  ∀ least, minimum = some least → ¬ a < least

/-- Not above the greatest value, if there is one. -/
def NotAbove {α : Type} [LT α] (maximum : Option α) (a : α) : Prop :=
  ∀ most, maximum = some most → ¬ most < a

/-- The text that is judged, and kept. -/
def Text.kept (settings : Text) (s : String) : String :=
  if settings.trim then SchemaRouting.Text.trim s else s

@[simp] theorem Text.kept_kept (settings : Text) (s : String) :
    settings.kept (settings.kept s) = settings.kept s := by
  by_cases htrim : settings.trim = true <;> simp [Text.kept, htrim]

/-- No texts are listed, or the text is. -/
def Text.Allows (settings : Text) (s : String) : Prop :=
  settings.allowed = [] ∨ s ∈ settings.allowed

/-- Whether a value is of the type that a kind of rules is for. -/
def Kind.fits : Kind Rule → Json → Bool
  | .string _, .string _ => true
  | .integer .., .number (.int n) => Json.fitsWord n
  | .number .., .number _ => true
  | .boolean, .bool _ => true
  | .array .., .array _ => true
  | .object .., .object _ => true
  | .any, _ => true
  | _, _ => false

/-- A value of the type that a kind of rules is for. -/
inductive Kind.Fitting : Kind Rule → Json → Prop
  | string (settings : Text) (s : String) : Fitting (.string settings) (.string s)
  | integer (minimum maximum : Option Int) {n : Int} : Json.fitsWord n = true →
    Fitting (.integer minimum maximum) (.number (.int n))
  | number (minimum maximum : Option Float) (n : Json.Number) :
    Fitting (.number minimum maximum) (.number n)
  | boolean (b : Bool) : Fitting .boolean (.bool b)
  | array (items : Option Rule) (minItems maxItems : Option Nat) (values : List Json) :
    Fitting (.array items minItems maxItems) (.array values)
  | object (properties : List (String × Rule)) (allowUnknown : Bool)
    (members : List (String × Json)) : Fitting (.object properties allowUnknown) (.object members)
  | any (v : Json) : Fitting .any v

theorem Kind.fitting_of_fits {kind : Kind Rule} {v : Json} (h : kind.fits v = true) :
    kind.Fitting v := by
  unfold Kind.fits at h
  split at h
  · exact .string _ _
  · exact .integer _ _ h
  · exact .number _ _ _
  · exact .boolean _
  · exact .array _ _ _ _
  · exact .object _ _ _
  · exact .any _
  · cases h

/-- Whether the values of a kind stay as they are. -/
def Kind.keeps : Kind Rule → Bool
  | .string _ | .array (some _) _ _ | .object .. => false
  | .integer .. | .number .. | .boolean | .array none _ _ | .any => true

/-! ### Conforming values -/

/-- A value is as a rule says, where undeclared members may be let through everywhere. -/
inductive Conforms (mode : Strictness) : Rule → Json → Prop
  | null {rule : Rule} : rule.required = false → Conforms mode rule .null
  | string {rule : Rule} {settings : Text} {s : String} : rule.kind = .string settings →
    NotBelow settings.minLength (settings.kept s).length →
    NotAbove settings.maxLength (settings.kept s).length →
    settings.Allows (settings.kept s) → Conforms mode rule (.string s)
  | integer {rule : Rule} {minimum maximum : Option Int} {n : Int} :
    rule.kind = .integer minimum maximum → Json.fitsWord n = true → NotBelow minimum n →
    NotAbove maximum n → Conforms mode rule (.number (.int n))
  | number {rule : Rule} {minimum maximum : Option Float} {n : Json.Number} :
    rule.kind = .number minimum maximum → NotBelow minimum n.toFloat →
    NotAbove maximum n.toFloat → Conforms mode rule (.number n)
  | boolean {rule : Rule} (b : Bool) : rule.kind = .boolean → Conforms mode rule (.bool b)
  | array {rule : Rule} {items : Option Rule} {minItems maxItems : Option Nat}
    {values : List Json} : rule.kind = .array items minItems maxItems →
    NotBelow minItems values.length → NotAbove maxItems values.length →
    (∀ item, items = some item → ∀ v ∈ values, Conforms mode item v) →
    Conforms mode rule (.array values)
  | object {rule : Rule} {properties : List (String × Rule)} {allowUnknown : Bool}
    {members : List (String × Json)} : rule.kind = .object properties allowUnknown →
    (∀ name property, (name, property) ∈ properties → Keyed.find? name members = none →
      property.required = false) →
    (∀ name property v, (name, property) ∈ properties → Keyed.find? name members = some v →
      Conforms mode property v) →
    (allowUnknown = true ∨ mode = .lenient ∨
      ∀ key ∈ Keyed.keys members, key ∈ Keyed.keys properties) →
    Conforms mode rule (.object members)
  | any {rule : Rule} {v : Json} : rule.kind = .any → v ≠ .null → Conforms mode rule v

/-- A declared property of an object is as its rule says. -/
def MemberConforms (mode : Strictness) (members : List (String × Json)) (name : String)
    (property : Rule) : Prop :=
  (Keyed.find? name members = none → property.required = false) ∧
  ∀ v, Keyed.find? name members = some v → Conforms mode property v

theorem Conforms.of_members {mode : Strictness} {rule : Rule} {properties : List (String × Rule)}
    {allowUnknown : Bool} {members : List (String × Json)}
    (hkind : rule.kind = .object properties allowUnknown)
    (hmembers : ∀ name property, (name, property) ∈ properties →
      MemberConforms mode members name property)
    (hundeclared : allowUnknown = true ∨ mode = .lenient ∨
      ∀ key ∈ Keyed.keys members, key ∈ Keyed.keys properties) :
    Conforms mode rule (.object members) :=
  .object hkind (fun name property hmem ↦ (hmembers name property hmem).1)
    (fun name property v hmem ↦ (hmembers name property hmem).2 v) hundeclared

/-! ### What a value becomes -/

/-- A value becomes another under a rule: text is trimmed where the rule says so, items and
declared members become what they do under their own rules, undeclared members are copied, and of
the properties that are not there, those with a default have it. -/
inductive Normalizes : Rule → Json → Json → Prop
  | null (rule : Rule) : Normalizes rule .null .null
  | string {rule : Rule} {settings : Text} (s : String) : rule.kind = .string settings →
    Normalizes rule (.string s) (.string (settings.kept s))
  | keeps {rule : Rule} (v : Json) : rule.kind.keeps = true → Normalizes rule v v
  | array {rule item : Rule} {minItems maxItems : Option Nat} {values normalized : List Json} :
    rule.kind = .array (some item) minItems maxItems → values.length = normalized.length →
    (∀ (i : Nat) (v w : Json), values[i]? = some v → normalized[i]? = some w →
      Normalizes item v w) →
    Normalizes rule (.array values) (.array normalized)
  | object {rule : Rule} {properties : List (String × Rule)} {allowUnknown : Bool}
    {members normalized : List (String × Json)} : rule.kind = .object properties allowUnknown →
    Keyed.Ascending normalized →
    (∀ key, key ∈ Keyed.keys normalized ↔ key ∈ Keyed.keys members ∨
      ∃ property, (key, property) ∈ properties ∧ property.required = false ∧
        property.default.isSome = true) →
    (∀ name property v w, (name, property) ∈ properties → Keyed.find? name members = some v →
      Keyed.find? name normalized = some w → Normalizes property v w) →
    (∀ name property w, (name, property) ∈ properties → Keyed.find? name members = none →
      Keyed.find? name normalized = some w → property.default = some w) →
    (∀ key, key ∉ Keyed.keys properties → Keyed.find? key normalized = Keyed.find? key members) →
    Normalizes rule (.object members) (.object normalized)

/-- What a value becomes under a rule is determined. -/
theorem Normalizes.unique {rule : Rule} {v w w' : Json} (h : Normalizes rule v w)
    (h' : Normalizes rule v w') : w = w' := by
  induction h generalizing w' with
  | null rule => cases h' <;> rfl
  | string s hkind =>
    cases h' with
    | string _ hkind' =>
      rw [hkind] at hkind'
      cases hkind'
      rfl
    | keeps _ hkeeps =>
      rw [hkind] at hkeeps
      cases hkeeps
  | keeps v hkeeps =>
    cases h' with
    | null => rfl
    | keeps => rfl
    | string s hkind =>
      rw [hkind] at hkeeps
      cases hkeeps
    | array hkind =>
      rw [hkind] at hkeeps
      cases hkeeps
    | object hkind =>
      rw [hkind] at hkeeps
      cases hkeeps
  | array hkind hlength _ ih =>
    cases h' with
    | keeps _ hkeeps =>
      rw [hkind] at hkeeps
      cases hkeeps
    | array hkind' hlength' hitems' =>
      rw [hkind] at hkind'
      cases hkind'
      refine congrArg Json.array (List.ext_getElem (hlength.symm.trans hlength') fun i hi hi' ↦ ?_)
      have hv : i < _ := hlength ▸ hi
      exact ih i _ _ (List.getElem?_eq_getElem hv) (List.getElem?_eq_getElem hi)
        (hitems' i _ _ (List.getElem?_eq_getElem hv) (List.getElem?_eq_getElem hi'))
  | @object rule properties allowUnknown members normalized hkind hascending hkeys _ habsent
      hundeclared ih =>
    cases h' with
    | keeps _ hkeeps =>
      rw [hkind] at hkeeps
      cases hkeeps
    | object hkind' hascending' hkeys' hpresent' habsent' hundeclared' =>
      rw [hkind] at hkind'
      cases hkind'
      refine congrArg Json.object (hascending.ext hascending' fun key ↦ ?_)
      -- Both sides have the same keys; what stands under one follows from what the members hold.
      by_cases hkey : key ∈ Keyed.keys normalized
      · obtain ⟨u, hu⟩ := Keyed.mem_keys_iff.mp hkey
        obtain ⟨u', hu'⟩ := Keyed.mem_keys_iff.mp ((hkeys' key).mpr ((hkeys key).mp hkey))
        by_cases hdeclared : key ∈ Keyed.keys properties
        · obtain ⟨⟨name, property⟩, hmem, rfl⟩ := List.mem_map.mp hdeclared
          rw [hu, hu']
          cases hfind : Keyed.find? name members with
          | none =>
            rw [← habsent name property u hmem hfind hu, habsent' name property u' hmem hfind hu']
          | some v =>
            have hsame := hpresent' name property v u' hmem hfind hu'
            rw [ih name property v u hmem hfind hu hsame]
        · rw [hundeclared key hdeclared, hundeclared' key hdeclared]
      · have hkey' : key ∉ Keyed.keys _ := fun hmem ↦ hkey ((hkeys key).mpr ((hkeys' key).mp hmem))
        rw [Keyed.find?_eq_none_iff.mpr hkey, Keyed.find?_eq_none_iff.mpr hkey']

/-! ### What is first wrong with a value -/

/-- A value breaks what a kind of rules says of it as a whole. -/
inductive Kind.Violates : Kind Rule → Json → Violation → Prop
  | wrongKind {kind : Kind Rule} {v : Json} : kind.fits v = false →
    Violates kind v (.wrongKind kind.name v.kindName)
  | tooShort {settings : Text} {s : String} {least : Nat} : settings.minLength = some least →
    (settings.kept s).length < least → Violates (.string settings) (.string s) (.tooShort least)
  | tooLong {settings : Text} {s : String} {most : Nat} :
    NotBelow settings.minLength (settings.kept s).length → settings.maxLength = some most →
    most < (settings.kept s).length → Violates (.string settings) (.string s) (.tooLong most)
  | notOneOf {settings : Text} {s : String} :
    NotBelow settings.minLength (settings.kept s).length →
    NotAbove settings.maxLength (settings.kept s).length → ¬ settings.Allows (settings.kept s) →
    Violates (.string settings) (.string s) (.notOneOf settings.allowed)
  | integer {minimum maximum : Option Int} {n : Int} : Json.fitsWord n = true →
    ¬ (NotBelow minimum n ∧ NotAbove maximum n) →
    Violates (.integer minimum maximum) (.number (.int n)) (.outOfRange (.int n))
  | number {minimum maximum : Option Float} {n : Json.Number} :
    ¬ (NotBelow minimum n.toFloat ∧ NotAbove maximum n.toFloat) →
    Violates (.number minimum maximum) (.number n) (.outOfRange (.float n.toFloat))
  | tooFewItems {items : Option Rule} {minItems maxItems : Option Nat} {values : List Json} :
    ¬ NotBelow minItems values.length →
    Violates (.array items minItems maxItems) (.array values) .tooFewItems
  | tooManyItems {items : Option Rule} {minItems maxItems : Option Nat} {values : List Json} :
    NotBelow minItems values.length → ¬ NotAbove maxItems values.length →
    Violates (.array items minItems maxItems) (.array values) .tooManyItems

/-- The first violation in the value at a place: one of the value as a whole, or of the first of
its parts that does not conform. -/
inductive FirstViolation (mode : Strictness) : Rule → String → Json → ValidationError → Prop
  | required {rule : Rule} {path : String} : rule.required = true →
    FirstViolation mode rule path .null ⟨path, .required⟩
  | whole {rule : Rule} {path : String} {v : Json} {violation : Violation} : v ≠ .null →
    rule.kind.Violates v violation → FirstViolation mode rule path v ⟨path, violation⟩
  | item {rule item : Rule} {path : String} {minItems maxItems : Option Nat}
    {front back : List Json} {v : Json} {e : ValidationError} :
    rule.kind = .array (some item) minItems maxItems →
    NotBelow minItems (front ++ v :: back).length → NotAbove maxItems (front ++ v :: back).length →
    (∀ u ∈ front, Conforms mode item u) →
    FirstViolation mode item (itemPath path front.length) v e →
    FirstViolation mode rule path (.array (front ++ v :: back)) e
  | missing {rule property : Rule} {path name : String} {front back : List (String × Rule)}
    {allowUnknown : Bool} {members : List (String × Json)} :
    rule.kind = .object (front ++ (name, property) :: back) allowUnknown →
    (∀ key other, (key, other) ∈ front → MemberConforms mode members key other) →
    Keyed.find? name members = none → property.required = true →
    FirstViolation mode rule path (.object members) ⟨memberPath path name, .required⟩
  | member {rule property : Rule} {path name : String} {front back : List (String × Rule)}
    {allowUnknown : Bool} {members : List (String × Json)} {v : Json} {e : ValidationError} :
    rule.kind = .object (front ++ (name, property) :: back) allowUnknown →
    (∀ key other, (key, other) ∈ front → MemberConforms mode members key other) →
    Keyed.find? name members = some v →
    FirstViolation mode property (memberPath path name) v e →
    FirstViolation mode rule path (.object members) e
  | undeclared {rule : Rule} {path key : String} {properties : List (String × Rule)}
    {members : List (String × Json)} : rule.kind = .object properties false → mode = .strict →
    (∀ name property, (name, property) ∈ properties → MemberConforms mode members name property) →
    key ∈ Keyed.keys members → key ∉ Keyed.keys properties →
    (∀ other ∈ Keyed.keys members, other ∉ Keyed.keys properties → key ≤ other) →
    FirstViolation mode rule path (.object members) ⟨memberPath path key, .notAllowed⟩

/-! ### A value conforms or has a first violation -/

section Whole

variable {mode : Strictness} {rule : Rule}

theorem conforms_or_violates_string {settings : Text} (hkind : rule.kind = .string settings)
    (s : String) : Conforms mode rule (.string s) ∨
      ∃ violation, rule.kind.Violates (.string s) violation := by
  by_cases hmin : NotBelow settings.minLength (settings.kept s).length
  · by_cases hmax : NotAbove settings.maxLength (settings.kept s).length
    · by_cases hallowed : settings.Allows (settings.kept s)
      · exact .inl (.string hkind hmin hmax hallowed)
      · rw [hkind]
        exact .inr ⟨_, .notOneOf hmin hmax hallowed⟩
    · obtain ⟨most, hmost, hlt⟩ : ∃ most, settings.maxLength = some most ∧
          most < (settings.kept s).length := by
        simpa [NotAbove] using hmax
      rw [hkind]
      exact .inr ⟨_, .tooLong hmin hmost hlt⟩
  · obtain ⟨least, hleast, hlt⟩ : ∃ least, settings.minLength = some least ∧
        (settings.kept s).length < least := by
      simpa [NotBelow] using hmin
    rw [hkind]
    exact .inr ⟨_, .tooShort hleast hlt⟩

theorem conforms_or_violates_integer {minimum maximum : Option Int}
    (hkind : rule.kind = .integer minimum maximum) {n : Int} (hn : Json.fitsWord n = true) :
    Conforms mode rule (.number (.int n)) ∨
      ∃ violation, rule.kind.Violates (.number (.int n)) violation := by
  by_cases hrange : NotBelow minimum n ∧ NotAbove maximum n
  · exact .inl (.integer hkind hn hrange.1 hrange.2)
  · rw [hkind]
    exact .inr ⟨_, .integer hn hrange⟩

theorem conforms_or_violates_number {minimum maximum : Option Float}
    (hkind : rule.kind = .number minimum maximum) (n : Json.Number) :
    Conforms mode rule (.number n) ∨ ∃ violation, rule.kind.Violates (.number n) violation := by
  by_cases hrange : NotBelow minimum n.toFloat ∧ NotAbove maximum n.toFloat
  · exact .inl (.number hkind hrange.1 hrange.2)
  · rw [hkind]
    exact .inr ⟨_, .number hrange⟩

end Whole

/-- Either all elements of a list are as they should be, or there is a first that is not. -/
theorem forall_or_exists_first {α : Type} (P : α → Prop) (l : List α) : (∀ a ∈ l, P a) ∨
    ∃ front a back, l = front ++ a :: back ∧ (∀ b ∈ front, P b) ∧ ¬ P a := by
  classical
  cases hfind : l.find? fun a ↦ decide (¬ P a) with
  | none =>
    left
    simpa [List.find?_eq_none] using hfind
  | some a =>
    obtain ⟨hnot, front, back, hsplit, hfront⟩ := List.find?_eq_some_iff_append.mp hfind
    exact .inr ⟨front, a, back, hsplit, by simpa using hfront, by simpa using hnot⟩

section Parts

variable {mode : Strictness} {rule : Rule} {path : String}

/-- Assumes: that the items conform or have a first violation, wherever they are. -/
theorem conforms_or_exists_firstViolation_array {item : Option Rule}
    {minItems maxItems : Option Nat} {values : List Json}
    (hkind : rule.kind = .array item minItems maxItems)
    (ih : ∀ r, item = some r → ∀ place, ∀ v ∈ values,
      Conforms mode r v ∨ ∃ e, FirstViolation mode r place v e) :
    Conforms mode rule (.array values) ∨ ∃ e, FirstViolation mode rule path (.array values) e := by
  by_cases hmin : NotBelow minItems values.length
  · by_cases hmax : NotAbove maxItems values.length
    · cases item with
      | none => exact .inl (.array hkind hmin hmax nofun)
      | some r =>
        rcases forall_or_exists_first (Conforms mode r) values with hall | hfirst
        · refine .inl (.array hkind hmin hmax fun r' hr ↦ ?_)
          cases hr
          exact hall
        · obtain ⟨front, v, back, rfl, hfront, hnot⟩ := hfirst
          rcases ih r rfl (itemPath path front.length) v (by simp) with hv | ⟨e, he⟩
          · exact absurd hv hnot
          · exact .inr ⟨e, .item hkind hmin hmax hfront he⟩
    · refine .inr ⟨⟨path, .tooManyItems⟩, .whole nofun ?_⟩
      rw [hkind]
      exact .tooManyItems hmin hmax
  · refine .inr ⟨⟨path, .tooFewItems⟩, .whole nofun ?_⟩
    rw [hkind]
    exact .tooFewItems hmin

/-- Assumes: that the declared members conform or have a first violation, wherever they are. -/
theorem conforms_or_exists_firstViolation_object {properties : List (String × Rule)}
    {allowUnknown : Bool} {members : List (String × Json)}
    (hkind : rule.kind = .object properties allowUnknown) (hascending : Keyed.Ascending members)
    (ih : ∀ name property, (name, property) ∈ properties → ∀ place v,
      Keyed.find? name members = some v →
      Conforms mode property v ∨ ∃ e, FirstViolation mode property place v e) :
    Conforms mode rule (.object members) ∨
      ∃ e, FirstViolation mode rule path (.object members) e := by
  rcases forall_or_exists_first (fun property ↦ MemberConforms mode members property.1 property.2)
    properties with hall | hfirst
  · have hmembers : ∀ name property, (name, property) ∈ properties →
        MemberConforms mode members name property := fun name property ↦ hall (name, property)
    by_cases hallowed : allowUnknown = true ∨ mode = .lenient ∨
        ∀ key ∈ Keyed.keys members, key ∈ Keyed.keys properties
    · exact .inl (.of_members hkind hmembers hallowed)
    · obtain ⟨hunknown, hmode, hundeclared⟩ : allowUnknown = false ∧ mode = .strict ∧
          ¬ ∀ key ∈ Keyed.keys members, key ∈ Keyed.keys properties := by
        cases mode with
        | strict => simpa using hallowed
        | lenient => simp at hallowed
      subst hunknown
      cases hcons : undeclared properties members with
      | nil => exact absurd (undeclared_eq_nil_iff.mp hcons) hundeclared
      | cons member rest =>
        obtain ⟨key, v⟩ := member
        obtain ⟨hkey, hnot, hleast⟩ := (undeclared_eq_cons_iff hascending).mp ⟨v, rest, hcons⟩
        exact .inr ⟨_, .undeclared hkind hmode hmembers hkey hnot hleast⟩
  · obtain ⟨front, ⟨name, property⟩, back, rfl, hfront, hnot⟩ := hfirst
    have hmem : (name, property) ∈ front ++ (name, property) :: back := by simp
    cases hfind : Keyed.find? name members with
    | none =>
      have hrequired : property.required = true := by
        by_contra hfalse
        exact hnot ⟨fun _ ↦ by simpa using hfalse, fun v hv ↦ by simp [hfind] at hv⟩
      exact .inr ⟨_, .missing hkind (fun key other ↦ hfront (key, other)) hfind hrequired⟩
    | some v =>
      rcases ih name property hmem (memberPath path name) v hfind with hv | ⟨e, he⟩
      · refine absurd ⟨fun hnone ↦ ?_, fun u hu ↦ ?_⟩ hnot
        · rw [hfind] at hnone
          cases hnone
        · rw [hfind] at hu
          cases hu
          exact hv
      · exact .inr ⟨e, .member hkind (fun key other ↦ hfront (key, other)) hfind he⟩

end Parts

/-- A sorted value conforms to a rule or has a first violation of it. -/
theorem conforms_or_exists_firstViolation (mode : Strictness) (rule : Rule) (path : String)
    {v : Json} (hv : v.Sorted) :
    Conforms mode rule v ∨ ∃ e, FirstViolation mode rule path v e := by
  induction rule using childInduction generalizing path v with
  | step rule ih =>
    by_cases hnull : v = .null
    · subst hnull
      cases hrequired : rule.required with
      | false => exact .inl (.null hrequired)
      | true => exact .inr ⟨_, .required hrequired⟩
    have of_whole (h : Conforms mode rule v ∨ ∃ violation, rule.kind.Violates v violation) :
        Conforms mode rule v ∨ ∃ e, FirstViolation mode rule path v e :=
      h.imp_right fun ⟨violation, hviolates⟩ ↦ ⟨_, .whole hnull hviolates⟩
    by_cases hfits : rule.kind.fits v = true
    · have hfitting := Kind.fitting_of_fits hfits
      generalize hkind : rule.kind = kind at hfitting
      cases hfitting with
      | string settings s => exact of_whole (conforms_or_violates_string hkind s)
      | integer minimum maximum hn => exact of_whole (conforms_or_violates_integer hkind hn)
      | number minimum maximum n => exact of_whole (conforms_or_violates_number hkind n)
      | boolean b => exact .inl (.boolean b hkind)
      | array items minItems maxItems values =>
        refine conforms_or_exists_firstViolation_array hkind fun item hitem place v hmem ↦ ?_
        subst hitem
        exact ih item (mem_children_of_item hkind) place (hv.items v hmem)
      | object properties allowUnknown members =>
        exact conforms_or_exists_firstViolation_object hkind hv.ascending
          fun name property hmem place v hfind ↦
            ih property (mem_children_of_property hkind hmem) place (hv.of_find? hfind)
      | any => exact .inl (.any hkind hnull)
    · exact of_whole (.inr ⟨_, .wrongKind (by simpa using hfits)⟩)

end SchemaRouting.Rule
