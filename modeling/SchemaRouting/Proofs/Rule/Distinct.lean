import Mathlib.Tactic.SplitIfs
import SchemaRouting.Rule.Reading
import SchemaRouting.Proofs.Keyed
import SchemaRouting.Proofs.Success

/-!
# Rules that declare each property once

The rules inside a rule are those for its items or its properties, and what holds of a rule
whenever it holds of the rules inside it holds of all rules (`childInduction`). In a distinct rule
no rule for objects, however deep, declares a property twice (`Distinct`). The constructors and
modifiers of rules make only distinct rules (`Built.distinct`), and so does reading one
(`distinct_of_read`).
-/

set_option autoImplicit false
set_option relaxedAutoImplicit false

namespace SchemaRouting.Rule

/-! ### The rules inside a rule -/

/-- The rules for the items or the properties of a value. -/
def Kind.children : Kind Rule → List Rule
  | .array (some items) _ _ => [items]
  | .object properties _ => properties.map Prod.snd
  | .string _ | .integer .. | .number .. | .boolean | .array none _ _ | .any => []

theorem sizeOf_lt_of_mem_children {rule child : Rule} (h : child ∈ rule.kind.children) :
    sizeOf child < sizeOf rule := by
  obtain ⟨kind, required, default, description⟩ := rule
  cases kind with
  | array items minItems maxItems =>
    cases items with
    | none => cases h
    | some items =>
      rw [List.mem_singleton.mp h]
      simp only [mk.sizeOf_spec, Kind.array.sizeOf_spec, Option.some.sizeOf_spec]
      omega
  | object properties allowUnknown =>
    obtain ⟨⟨name, rule⟩, hmem, rfl⟩ := List.mem_map.mp h
    have hlt := List.sizeOf_lt_of_mem hmem
    simp only [Prod.mk.sizeOf_spec] at hlt
    simp only [mk.sizeOf_spec, Kind.object.sizeOf_spec]
    omega
  | string settings => cases h
  | integer minimum maximum => cases h
  | number minimum maximum => cases h
  | boolean => cases h
  | any => cases h

theorem mem_children_of_item {rule item : Rule} {minItems maxItems : Option Nat}
    (hkind : rule.kind = .array (some item) minItems maxItems) : item ∈ rule.kind.children := by
  rw [hkind]
  exact List.mem_singleton_self item

theorem mem_children_of_property {rule property : Rule} {properties : List (String × Rule)}
    {allowUnknown : Bool} (hkind : rule.kind = .object properties allowUnknown) {name : String}
    (hmem : (name, property) ∈ properties) : property ∈ rule.kind.children := by
  rw [hkind]
  exact List.mem_map.mpr ⟨(name, property), hmem, rfl⟩

/-- What holds of a rule whenever it holds of the rules inside it holds of every rule. -/
@[elab_as_elim]
theorem childInduction {motive : Rule → Prop}
    (step : ∀ rule : Rule, (∀ child ∈ rule.kind.children, motive child) → motive rule)
    (rule : Rule) : motive rule :=
  step rule fun child _ ↦ childInduction step child
termination_by sizeOf rule
decreasing_by exact sizeOf_lt_of_mem_children ‹_›

/-! ### Distinct properties -/

/-- The properties that a rule declares. -/
def Kind.declared : Kind Rule → List (String × Rule)
  | .object properties _ => properties
  | .string _ | .integer .. | .number .. | .boolean | .array .. | .any => []

/-- No rule for objects in a rule declares a property twice. -/
inductive Distinct : Rule → Prop
  | mk {rule : Rule} : (Keyed.keys rule.kind.declared).Nodup →
    (∀ child ∈ rule.kind.children, Distinct child) → Distinct rule

theorem Distinct.nodup {rule : Rule} (h : rule.Distinct) {properties : List (String × Rule)}
    {allowUnknown : Bool} (hkind : rule.kind = .object properties allowUnknown) :
    (Keyed.keys properties).Nodup := by
  cases h with
  | mk hnodup _ =>
    rw [hkind] at hnodup
    exact hnodup

theorem Distinct.child {rule child : Rule} (h : rule.Distinct)
    (hchild : child ∈ rule.kind.children) :
    child.Distinct := by
  cases h with
  | mk _ hchildren => exact hchildren child hchild

/-- It depends on the rules inside alone. -/
theorem Distinct.congr {rule other : Rule} (h : rule.Distinct)
    (hdeclared : other.kind.declared = rule.kind.declared)
    (hchildren : other.kind.children = rule.kind.children) : other.Distinct := by
  cases h with
  | mk hnodup hinside => exact .mk (hdeclared ▸ hnodup) (hchildren ▸ hinside)

theorem distinct_of_no_children {rule : Rule} (hdeclared : rule.kind.declared = [])
    (hchildren : rule.kind.children = []) : rule.Distinct := by
  refine .mk ?_ ?_
  · rw [hdeclared]
    exact List.nodup_nil
  · rw [hchildren]
    exact nofun

/-- Properties that are declared once each, by distinct rules. -/
def DistinctProperties (properties : List (String × Rule)) : Prop :=
  (Keyed.keys properties).Nodup ∧ ∀ name rule, (name, rule) ∈ properties → rule.Distinct

theorem distinct_of_properties {rule : Rule} {properties : List (String × Rule)}
    {allowUnknown : Bool} (hkind : rule.kind = .object properties allowUnknown)
    (h : DistinctProperties properties) : rule.Distinct := by
  refine .mk ?_ ?_
  · rw [hkind]
    exact h.1
  · rw [hkind]
    intro child hchild
    obtain ⟨⟨name, property⟩, hmem, rfl⟩ := List.mem_map.mp hchild
    exact h.2 name property hmem

theorem distinct_of_items {rule items : Rule} {minItems maxItems : Option Nat}
    (hkind : rule.kind = .array (some items) minItems maxItems) (h : items.Distinct) :
    rule.Distinct := by
  refine .mk ?_ ?_
  · rw [hkind]
    exact List.nodup_nil
  · rw [hkind]
    intro child hchild
    rw [List.mem_singleton.mp hchild]
    exact h

/-! ### Rules that are built -/

/-- The rules that the constructors and modifiers make. -/
inductive Built : Rule → Prop
  | string : Built string
  | integer : Built integer
  | number : Built number
  | boolean : Built boolean
  | array : Built array
  | arrayOf {items : Rule} : Built items → Built (arrayOf items)
  | object {properties : List (String × Rule)} :
    (∀ name property, (name, property) ∈ properties → Built property) → Built (object properties)
  | any : Built any
  | asRequired {rule : Rule} : Built rule → Built rule.asRequired
  | withDefault {rule : Rule} (v : Json) : Built rule → Built (rule.withDefault v)
  | describe {rule : Rule} (s : String) : Built rule → Built (rule.describe s)
  | trimmed {rule : Rule} : Built rule → Built rule.trimmed
  | withMinLength {rule : Rule} (n : Nat) : Built rule → Built (rule.withMinLength n)
  | withMaxLength {rule : Rule} (n : Nat) : Built rule → Built (rule.withMaxLength n)
  | oneOf {rule : Rule} (texts : List String) : Built rule → Built (rule.oneOf texts)
  | inRange {rule : Rule} (minimum maximum : Option Int) : Built rule →
    Built (rule.inRange minimum maximum)
  | itemsBetween {rule : Rule} (minItems maxItems : Option Nat) : Built rule →
    Built (rule.itemsBetween minItems maxItems)
  | allowingUnknown {rule : Rule} : Built rule → Built rule.allowingUnknown

/-- A rule that is built declares each property once. -/
theorem Built.distinct {rule : Rule} (h : Built rule) : rule.Distinct := by
  induction h with
  | string | integer | number | boolean | array | any => exact distinct_of_no_children rfl rfl
  | arrayOf _ ih => exact distinct_of_items rfl ih
  | @object properties _ ih =>
    -- Of two properties of one name one is left.
    exact distinct_of_properties rfl ⟨Keyed.nodup_keys_ofList properties,
      fun name property hmem ↦ ih name property (Keyed.mem_of_mem_ofList hmem)⟩
  | asRequired _ ih | withDefault _ _ ih | describe _ _ ih => exact ih.congr rfl rfl
  | @trimmed rule _ ih | @withMinLength rule _ _ ih | @withMaxLength rule _ _ ih
  | @oneOf rule _ _ ih | @inRange rule _ _ _ ih | @allowingUnknown rule _ ih =>
    obtain ⟨kind, required, default, description⟩ := rule
    cases kind <;> exact ih.congr rfl rfl
  | @itemsBetween rule minItems maxItems _ ih =>
    obtain ⟨kind, required, default, description⟩ := rule
    cases kind with
    | array items _ _ => cases items <;> exact ih.congr rfl rfl
    | string | integer | number | boolean | object | any => exact ih.congr rfl rfl

/-! ### Rules that are read -/

/-- The rules that a draft holds are distinct. -/
structure Draft.Distinct (d : Draft) : Prop where
  items : ∀ rule, d.items = some rule → rule.Distinct
  properties : ∀ properties, d.properties = some properties → DistinctProperties properties

theorem Draft.distinct_empty : ({} : Draft).Distinct := ⟨nofun, nofun⟩

/-- Assumes: rules and properties that are read as distinct ones. A setting that is taken in leaves
a draft distinct. -/
theorem Draft.Distinct.set {d d' : Draft} (h : d.Distinct) {s : Setting} {t : Tree}
    {rule : Unit → Except ReadError (Option Rule)}
    {properties : Unit → Except ReadError (Option (List (String × Rule)))}
    (hrule : ∀ r, rule () = .ok (some r) → r.Distinct)
    (hproperties : ∀ ps, properties () = .ok (some ps) → DistinctProperties ps)
    (hset : d.set s t rule properties = .ok d') : d'.Distinct := by
  unfold Draft.set at hset
  by_cases hseen : d.seen.contains s = true
  · rw [if_pos hseen] at hset
    cases hset
  · rw [if_neg hseen] at hset
    cases s with
    | items =>
      obtain ⟨items, hitems, hset⟩ := bind_eq_ok_iff.mp hset
      cases hset
      refine ⟨?_, h.properties⟩
      rintro r rfl
      exact hrule r hitems
    | properties =>
      obtain ⟨ps, hps, hset⟩ := bind_eq_ok_iff.mp hset
      cases hset
      refine ⟨h.items, ?_⟩
      rintro qs rfl
      exact hproperties qs hps
    | type | required | default | description | trim | minLength | maxLength | allowed | minimum
    | maximum | minItems | maxItems | allowUnknown =>
      obtain ⟨read, -, hset⟩ := bind_eq_ok_iff.mp hset
      cases hset
      exact ⟨h.items, h.properties⟩

theorem Draft.Distinct.toRule {d : Draft} (h : d.Distinct) {rule : Rule}
    (hrule : d.toRule = .ok rule) : rule.Distinct := by
  unfold Draft.toRule at hrule
  cases htype : d.type with
  | none =>
    rw [htype] at hrule
    cases hrule
  | some tag =>
    rw [htype] at hrule
    dsimp only at hrule
    split at hrule
    · cases hrule
    · obtain ⟨kind, hkind, hrule⟩ := bind_eq_ok_iff.mp hrule
      cases hrule
      cases tag with
      | array =>
        cases hkind
        cases hitems : d.items with
        | none => exact distinct_of_no_children rfl rfl
        | some items => exact distinct_of_items rfl (h.items items hitems)
      | object =>
        cases hkind
        cases hproperties : d.properties with
        | none => exact distinct_of_no_children rfl rfl
        | some properties => exact distinct_of_properties rfl (h.properties properties hproperties)
      | integer =>
        obtain ⟨minimum, -, hkind⟩ := bind_eq_ok_iff.mp hkind
        obtain ⟨maximum, -, hkind⟩ := bind_eq_ok_iff.mp hkind
        cases hkind
        exact distinct_of_no_children rfl rfl
      | string | number | boolean | any =>
        cases hkind
        exact distinct_of_no_children rfl rfl

mutual

/-- A rule that is read declares each property once. -/
theorem distinct_of_read : ∀ {t : Tree} {rule : Rule}, read t = .ok rule → rule.Distinct
  | .object members ending, rule, h => by
    rw [read] at h
    obtain ⟨d, hd, h⟩ := bind_eq_ok_iff.mp h
    by_cases hread : ending.isRead = true
    · rw [if_pos hread] at h
      exact (distinct_of_readMembers Draft.distinct_empty hd).toRule h
    · rw [if_neg hread] at h
      cases h
  | .array items ending, rule, h => by
    rw [read] at h
    obtain ⟨d, hd, h⟩ := bind_eq_ok_iff.mp h
    split_ifs at h
    exact (distinct_of_readItems Draft.distinct_empty hd).toRule h
  | .null, _, h | .bool _, _, h | .number _, _, h | .string _, _, h | .date _, _, h
  | .broken, _, h => by
    rw [read.eq_def] at h
    cases h

theorem distinct_of_readOptionalRule : ∀ {t : Tree} {rule : Rule},
    readOptionalRule t = .ok (some rule) → rule.Distinct
  | .null, _, h => by
    rw [readOptionalRule] at h
    cases h
  | .object members ending, rule, h => by
    rw [readOptionalRule.eq_def] at h
    obtain ⟨r, hr, heq⟩ := map_eq_ok_iff.mp h
    cases heq
    exact distinct_of_read hr
  | .array items ending, rule, h => by
    rw [readOptionalRule.eq_def] at h
    obtain ⟨r, hr, heq⟩ := map_eq_ok_iff.mp h
    cases heq
    exact distinct_of_read hr
  | .bool _, _, h | .number _, _, h | .string _, _, h | .date _, _, h | .broken, _, h => by
    rw [readOptionalRule.eq_def] at h
    obtain ⟨r, hr, -⟩ := map_eq_ok_iff.mp h
    rw [read.eq_def] at hr
    cases hr

theorem distinct_of_readProperties : ∀ {t : Tree} {properties : List (String × Rule)},
    readProperties t = .ok (some properties) → DistinctProperties properties
  | .object members ending, properties, h => by
    rw [readProperties] at h
    obtain ⟨rules, hrules, h⟩ := bind_eq_ok_iff.mp h
    by_cases hread : ending.isRead = true
    · rw [if_pos hread] at h
      cases h
      exact ⟨Keyed.nodup_keys_ofList rules, fun name rule hmem ↦
        distinct_of_readRules hrules name rule (Keyed.mem_of_mem_ofList hmem)⟩
    · rw [if_neg hread] at h
      cases h
  | .null, _, h | .bool _, _, h | .number _, _, h | .string _, _, h | .date _, _, h
  | .array _ _, _, h | .broken, _, h => by
    rw [readProperties.eq_def] at h
    cases h

theorem distinct_of_readRules : ∀ {members : List (String × Tree)} {rules : List (String × Rule)},
    readRules members = .ok rules → ∀ name rule, (name, rule) ∈ rules → rule.Distinct
  | [], rules, h => by
    rw [readRules] at h
    cases h
    exact nofun
  | (name, t) :: rest, rules, h => by
    rw [readRules] at h
    obtain ⟨first, hfirst, h⟩ := bind_eq_ok_iff.mp h
    obtain ⟨others, hothers, h⟩ := bind_eq_ok_iff.mp h
    cases h
    intro key rule hmem
    rcases List.mem_cons.mp hmem with heq | hmem
    · cases heq
      exact distinct_of_read hfirst
    · exact distinct_of_readRules hothers key rule hmem

theorem distinct_of_readMembers : ∀ {members : List (String × Tree)} {d d' : Draft}, d.Distinct →
    readMembers d members = .ok d' → d'.Distinct
  | [], d, d', hd, h => by
    rw [readMembers] at h
    cases h
    exact hd
  | (key, t) :: rest, d, d', hd, h => by
    rw [readMembers] at h
    split at h
    · cases h
    · obtain ⟨next, hnext, h⟩ := bind_eq_ok_iff.mp h
      have hset := hd.set (fun _ hr ↦ distinct_of_readOptionalRule hr)
        (fun _ hps ↦ distinct_of_readProperties hps) hnext
      exact distinct_of_readMembers hset h

theorem distinct_of_readItems : ∀ {items : List Tree} {settings : List Setting} {d d' : Draft},
    d.Distinct → readItems d settings items = .ok d' → d'.Distinct
  | [], [], d, d', hd, h | [], _ :: _, d, d', hd, h => by
    rw [readItems.eq_def] at h
    cases h
    exact hd
  | t :: rest, [], d, d', hd, h => by
    rw [readItems.eq_def] at h
    cases h
    exact hd
  | t :: rest, s :: settings, d, d', hd, h => by
    rw [readItems] at h
    obtain ⟨next, hnext, h⟩ := bind_eq_ok_iff.mp h
    have hset := hd.set (fun _ hr ↦ distinct_of_readOptionalRule hr)
      (fun _ hps ↦ distinct_of_readProperties hps) hnext
    exact distinct_of_readItems hset h

end

end SchemaRouting.Rule
