import SchemaRouting.Proofs.Json.Records
import SchemaRouting.Proofs.Json.Values

/-!
# The settings that a document gives

A document gives a setting under one of its spellings, and null gives nothing (`Setting.given?`).
What it may give is said here without reading it: the settings of its kind, each once and each of
its own type (`Sound`), in every place where a rule stands (`Place`, `Acceptable`). What a rule is
that has those settings and no others follows from them (`Carries`), so no two rules do
(`Carries.unique`).
-/

set_option autoImplicit false
set_option relaxedAutoImplicit false

namespace SchemaRouting

/-! ### Values of one type -/

namespace Tree

/-- The tree, unless it is null. -/
def nonNull? : Tree → Option Tree
  | null => none
  | t => some t

def asBool? : Tree → Option Bool
  | bool b => some b
  | _ => none

def asText? : Tree → Option String
  | string s => some s
  | _ => none

def asNumber? : Tree → Option Json.Number
  | number n => some n
  | _ => none

def asWhole? : Tree → Option Int
  | number (.int n) => some n
  | _ => none

def asCount? (t : Tree) : Option Nat := t.asWhole?.map Int.toNat

def asTexts? : Tree → Option (List String)
  | array items _ => some (items.filterMap asText?)
  | _ => none

def asMembers? : Tree → Option (List (String × Tree))
  | object members _ => some members
  | _ => none

section Read

variable {t : Tree}

theorem asBool?_of_readBool {b : Bool} (h : t.readBool = .ok b) : t.asBool? = some b := by
  rw [readBool_eq_ok_iff.mp h]
  rfl

theorem asText?_of_readString {s : String} (h : t.readString = .ok s) : t.asText? = some s := by
  rw [readString_eq_ok_iff.mp h]
  rfl

theorem asNumber?_of_readNumber {n : Json.Number} (h : t.readNumber = .ok n) :
    t.asNumber? = some n := by
  rw [(readNumber_eq_ok_iff.mp h).1]
  rfl

theorem asCount?_of_readCount {n : Nat} (h : t.readCount = .ok n) : t.asCount? = some n := by
  rw [(readCount_eq_ok_iff.mp h).2]
  rfl

theorem asTexts?_of_readStrings {texts : List String} (h : t.readStrings = .ok texts) :
    t.asTexts? = some texts := by
  obtain ⟨ending, -, rfl⟩ := readStrings_eq_ok_iff.mp h
  simp [asTexts?, List.filterMap_map, Function.comp_def, asText?]

end Read

theorem nonNull?_eq_some_iff {t t' : Tree} : t.nonNull? = some t' ↔ t ≠ .null ∧ t = t' := by
  cases t <;> simp [nonNull?]

end Tree

namespace Rule

/-! ### Spellings -/

namespace Setting

variable {s : Setting} {key : String} {members : List (String × Tree)} {t : Tree}

/-- A key is one of the spellings of a setting. -/
def Spelled (s : Setting) (key : String) : Prop := key = s.name ∨ s.alias? = some key

instance : Decidable (s.Spelled key) :=
  inferInstanceAs (Decidable (key = s.name ∨ s.alias? = some key))

/-- A setting that rules of all kinds have. -/
def IsShared (s : Setting) : Prop := s ∈ [type, required, default, description]

instance : Decidable s.IsShared :=
  inferInstanceAs (Decidable (s ∈ [type, required, default, description]))

theorem ofKey?_eq_some_iff : ofKey? key = some s ↔ s.Spelled key := by
  constructor
  · intro h
    have hfound := List.find?_some h
    rw [Bool.or_eq_true, decide_eq_true_eq, decide_eq_true_eq] at hfound
    exact hfound.imp_left Eq.symm
  · rintro (rfl | halias)
    · cases s <;> rfl
    · cases s <;> cases halias <;> rfl

theorem Spelled.unique {s' : Setting} (h : s.Spelled key) (h' : s'.Spelled key) : s = s' :=
  Option.some.inj ((ofKey?_eq_some_iff.mpr h).symm.trans (ofKey?_eq_some_iff.mpr h'))

/-- What stands first under a spelling of a setting. -/
def written? (s : Setting) (members : List (String × Tree)) : Option Tree :=
  (members.find? fun member ↦ s.Spelled member.1).map Prod.snd

/-- What is given for a setting. Null gives nothing. -/
def given? (s : Setting) (members : List (String × Tree)) : Option Tree :=
  (s.written? members).bind Tree.nonNull?

theorem written?_eq_inSlot (s : Setting) (members : List (String × Tree)) :
    s.written? members = Tree.inSlot ofKey? s members := by
  rw [written?, Tree.inSlot]
  simp only [ofKey?_eq_some_iff]

theorem given?_eq_some_iff : s.given? members = some t ↔
    s.written? members = some t ∧ t ≠ .null := by
  rw [given?, Option.bind_eq_some_iff]
  constructor
  · rintro ⟨t', hwritten, hnonNull⟩
    obtain ⟨hne, rfl⟩ := Tree.nonNull?_eq_some_iff.mp hnonNull
    exact ⟨hwritten, hne⟩
  · rintro ⟨hwritten, hne⟩
    exact ⟨t, hwritten, Tree.nonNull?_eq_some_iff.mpr ⟨hne, rfl⟩⟩

theorem exists_mem_of_written? (h : s.written? members = some t) :
    ∃ key, (key, t) ∈ members ∧ s.Spelled key := by
  obtain ⟨⟨key, t'⟩, hfind, rfl⟩ := Option.map_eq_some_iff.mp h
  exact ⟨key, List.mem_of_find?_eq_some hfind, by simpa using List.find?_some hfind⟩

/-- A key and a second spelling of its setting do not stand together. -/
def GivenOnce (members : List (String × Tree)) : Prop :=
  ∀ s key key', Spelled s key → s.Spelled key' → key ∈ Keyed.keys members →
    key' ∈ Keyed.keys members → key = key'

/-- Where no setting is given twice, what stands under one of its spellings is what is written. -/
theorem written?_eq_some_of_mem (hnodup : (Keyed.keys members).Nodup) (honce : GivenOnce members)
    (hmem : (key, t) ∈ members) (hkey : s.Spelled key) : s.written? members = some t := by
  cases hfind : members.find? fun member ↦ s.Spelled member.1 with
  | none =>
    have hno := List.find?_eq_none.mp hfind (key, t) hmem
    exact absurd hkey (by simpa using hno)
  | some member =>
    obtain ⟨key', t'⟩ := member
    have hmem' := List.mem_of_find?_eq_some hfind
    have hkey' : s.Spelled key' := by simpa using List.find?_some hfind
    have hsame : key' = key := honce s key' key hkey' hkey (Keyed.mem_keys_of_mem hmem')
      (Keyed.mem_keys_of_mem hmem)
    subst hsame
    rw [written?, hfind, Option.map_some, Keyed.eq_of_mem_of_mem hnodup hmem' hmem]

/-- What is given for a setting, as a value of its type. -/
def value? {α : Type} (read : Tree → Option α) (s : Setting) (members : List (String × Tree)) :
    Option α :=
  (s.given? members).bind read

end Setting

/-! ### Places of rules -/

/-- A tree stands in the place of a rule right inside another. -/
inductive Inner : Tree → Tree → Prop
  | items {members : List (String × Tree)} {ending : Ending} {t : Tree} :
    Setting.given? .items members = some t → Inner (.object members ending) t
  | property {members properties : List (String × Tree)} {ending ending' : Ending} {name : String}
    {t : Tree} : Setting.given? .properties members = some (.object properties ending') →
    (name, t) ∈ properties → Inner (.object members ending) t

/-- A tree stands in the place of a rule anywhere in another: at its root, or at such a place in
what it gives for the items or for one of the properties. -/
inductive Place : Tree → Tree → Prop
  | root (t : Tree) : Place t t
  | inner {t t' place : Tree} : Inner t t' → Place t' place → Place t place

theorem sizeOf_lt_of_written? {s : Setting} {members : List (String × Tree)} {t : Tree}
    (h : s.written? members = some t) : sizeOf t < sizeOf members := by
  obtain ⟨key, hmem, -⟩ := Setting.exists_mem_of_written? h
  have hlt := List.sizeOf_lt_of_mem hmem
  simp only [Prod.mk.sizeOf_spec] at hlt
  omega

theorem Inner.sizeOf_lt {t t' : Tree} (h : Inner t t') : sizeOf t' < sizeOf t := by
  cases h with
  | items hitems =>
    have hlt := sizeOf_lt_of_written? (Setting.given?_eq_some_iff.mp hitems).1
    simp only [Tree.object.sizeOf_spec]
    omega
  | property hproperties hmem =>
    have hlt := sizeOf_lt_of_written? (Setting.given?_eq_some_iff.mp hproperties).1
    have hproperty := List.sizeOf_lt_of_mem hmem
    simp only [Tree.object.sizeOf_spec, Prod.mk.sizeOf_spec] at hlt hproperty ⊢
    omega

/-- What holds of a tree whenever it holds of those in the places of rules right inside it holds of
every tree. -/
@[elab_as_elim]
theorem placeInduction {motive : Tree → Prop}
    (step : ∀ t : Tree, (∀ t', Inner t t' → motive t') → motive t) (t : Tree) : motive t :=
  step t fun t' _ ↦ placeInduction step t'
termination_by sizeOf t
decreasing_by exact Inner.sizeOf_lt ‹_›

theorem isJson_of_written? {s : Setting} {members : List (String × Tree)} {ending : Ending}
    {t : Tree} (h : Tree.IsJson (.object members ending)) (hwritten : s.written? members = some t) :
    t.IsJson := by
  obtain ⟨key, hmem, -⟩ := Setting.exists_mem_of_written? hwritten
  cases h with
  | object _ hmembers => exact hmembers key t hmem

theorem isJson_of_given? {s : Setting} {members : List (String × Tree)} {ending : Ending} {t : Tree}
    (h : Tree.IsJson (.object members ending)) (hgiven : s.given? members = some t) : t.IsJson :=
  isJson_of_written? h (Setting.given?_eq_some_iff.mp hgiven).1

theorem Inner.isJson {t t' : Tree} (h : Inner t t') (ht : t.IsJson) : t'.IsJson := by
  cases h with
  | items hitems => exact isJson_of_given? ht hitems
  | property hproperties hmem =>
    have hobject := isJson_of_given? ht hproperties
    cases hobject with
    | object _ hmembers => exact hmembers _ _ hmem

/-! ### Documents that say what a rule may be told -/

/-- A tree names a kind: by its name, or as an object with the name as its one key and nothing
under it. -/
def KindTag.NamedBy (tag : KindTag) (t : Tree) : Prop :=
  t = .string tag.name ∨ t = .object [(tag.name, .null)] .strict

/-- What may be given for a setting. -/
def Setting.HasType : Setting → Tree → Prop
  | .type, t => ∃ tag : KindTag, tag.NamedBy t
  | .required, t | .trim, t | .allowUnknown, t => ∃ b, t = .bool b
  | .default, _ => True
  | .description, t => ∃ s, t = .string s
  | .minLength, t | .maxLength, t | .minItems, t | .maxItems, t =>
    ∃ n : Nat, n ≤ Tree.countLimit ∧ t = .number (.int n)
  | .allowed, t => ∃ texts : List String, t = .array (texts.map .string) .strict
  | .minimum, t | .maximum, t => ∃ n, t = .number n
  | .items, _ => True
  | .properties, t => ∃ members, t = .object members .strict

/-- What an object says of a rule of some kind can be told one. -/
structure Sound (tag : KindTag) (members : List (String × Tree)) : Prop where
  type : ∃ t, Setting.written? .type members = some t ∧ tag.NamedBy t
  known : ∀ key ∈ Keyed.keys members, ∃ s : Setting, s.Spelled key
  once : Setting.GivenOnce members
  required : ∀ t, Setting.written? .required members = some t → ∃ b, t = .bool b
  typed : ∀ (s : Setting) (t : Tree), s.given? members = some t → s.HasType t
  applies : ∀ (s : Setting) (t : Tree), s.given? members = some t → s.IsShared ∨ s ∈ tag.settings
  bounds : tag = .integer → ∀ s ∈ [Setting.minimum, .maximum], ∀ t, s.given? members = some t →
    ∃ n, Json.fitsWord n = true ∧ t = .number (.int n)

/-- In every place of a rule stands an object that says of one what it may be told. -/
def Acceptable (t : Tree) : Prop :=
  ∀ place, Place t place → ∃ tag members, place = .object members .strict ∧ Sound tag members

/-- No array stands in the place of a rule. -/
def NoArrays (t : Tree) : Prop :=
  ∀ place, Place t place → ∀ items ending, place ≠ .array items ending

theorem NoArrays.inner {t t' : Tree} (h : NoArrays t) (hinner : Inner t t') : NoArrays t' :=
  fun place hplace ↦ h place (.inner hinner hplace)

theorem acceptable_iff {t : Tree} : Acceptable t ↔
    (∃ tag members, t = .object members .strict ∧ Sound tag members) ∧
      ∀ t', Inner t t' → Acceptable t' := by
  constructor
  · intro h
    exact ⟨h t (.root t), fun t' hinner place hplace ↦ h place (.inner hinner hplace)⟩
  · rintro ⟨hroot, hinside⟩ place hplace
    cases hplace with
    | root => exact hroot
    | inner hinner hplace => exact hinside _ hinner place hplace

theorem Acceptable.noArrays {t : Tree} (h : Acceptable t) : NoArrays t := by
  intro place hplace items ending harray
  obtain ⟨tag, members, hobject, -⟩ := h place hplace
  rw [hobject] at harray
  cases harray

/-! ### The rule that has the settings given -/

/-- The kind of a rule, from the settings that are given for it and the rules inside. -/
def KindTag.kindOf (tag : KindTag) (members : List (String × Tree)) (rule : Tree → Rule) :
    Kind Rule :=
  match tag with
  | .string => .string ⟨(Setting.value? Tree.asBool? .trim members).getD false,
      Setting.value? Tree.asCount? .minLength members,
      Setting.value? Tree.asCount? .maxLength members,
      (Setting.value? Tree.asTexts? .allowed members).getD []⟩
  | .integer => .integer (Setting.value? Tree.asWhole? .minimum members)
      (Setting.value? Tree.asWhole? .maximum members)
  | .number => .number ((Setting.value? Tree.asNumber? .minimum members).map Json.Number.toFloat)
      ((Setting.value? Tree.asNumber? .maximum members).map Json.Number.toFloat)
  | .boolean => .boolean
  | .array => .array ((Setting.given? .items members).map rule)
      (Setting.value? Tree.asCount? .minItems members)
      (Setting.value? Tree.asCount? .maxItems members)
  | .object => .object
      (((Setting.value? Tree.asMembers? .properties members).getD []).map fun property ↦
        (property.1, rule property.2))
      ((Setting.value? Tree.asBool? .allowUnknown members).getD false)
  | .any => .any

/-- A rule has the settings that a tree gives, and no others. -/
inductive Carries : Tree → Rule → Prop
  | mk {members : List (String × Tree)} {ending : Ending} {tag : KindTag} {named : Tree}
    {rule : Rule} (inside : Tree → Rule) :
    Setting.written? .type members = some named → tag.NamedBy named →
    rule.kind = tag.kindOf members inside →
    rule.required = (Setting.value? Tree.asBool? .required members).getD false →
    rule.default = Setting.value? Tree.toJson? .default members →
    rule.description = Setting.value? Tree.asText? .description members →
    (∀ t, Inner (.object members ending) t → Carries t (inside t)) →
    Carries (.object members ending) rule

theorem KindTag.name_injective {tag tag' : KindTag} (h : tag.name = tag'.name) : tag = tag' := by
  cases tag <;> cases tag' <;> first | rfl | simp [KindTag.name] at h

theorem KindTag.NamedBy.unique {tag tag' : KindTag} {t : Tree} (h : tag.NamedBy t)
    (h' : tag'.NamedBy t) : tag = tag' := by
  rcases h with rfl | rfl <;> rcases h' with h' | h' <;> simp at h' <;> exact name_injective h'

/-- The kind depends on the rules inside alone, besides the settings given. -/
theorem KindTag.kindOf_congr (tag : KindTag) {members : List (String × Tree)} {ending : Ending}
    {inside inside' : Tree → Rule}
    (h : ∀ t, Inner (.object members ending) t → inside t = inside' t) :
    tag.kindOf members inside = tag.kindOf members inside' := by
  cases tag with
  | array =>
    have hitems : (Setting.given? .items members).map inside =
        (Setting.given? .items members).map inside' := by
      cases hgiven : Setting.given? .items members with
      | none => rfl
      | some t => rw [Option.map_some, Option.map_some, h t (.items hgiven)]
    rw [kindOf, kindOf, hitems]
  | object =>
    have hproperties : ∀ property ∈ (Setting.value? Tree.asMembers? .properties members).getD [],
        inside property.2 = inside' property.2 := by
      intro property hmem
      cases hgiven : Setting.given? .properties members with
      | none => simp [Setting.value?, hgiven] at hmem
      | some t =>
        cases t with
        | object properties ending' =>
          simp only [Setting.value?, hgiven, Option.bind_some, Tree.asMembers?,
            Option.getD_some] at hmem
          exact h property.2 (.property hgiven hmem)
        | null | bool _ | number _ | string _ | date _ | array _ _ | broken =>
          simp [Setting.value?, hgiven, Tree.asMembers?] at hmem
    have hsame : ∀ property ∈ (Setting.value? Tree.asMembers? .properties members).getD [],
        (property.1, inside property.2) = (property.1, inside' property.2) :=
      fun property hmem ↦ Prod.ext rfl (hproperties property hmem)
    rw [kindOf, kindOf, List.map_congr_left hsame]
  | string | integer | number | boolean | any => rfl

theorem eq_of_parts {rule rule' : Rule} (hkind : rule.kind = rule'.kind)
    (hrequired : rule.required = rule'.required) (hdefault : rule.default = rule'.default)
    (hdescription : rule.description = rule'.description) : rule = rule' := by
  cases rule
  cases rule'
  cases hkind
  cases hrequired
  cases hdefault
  cases hdescription
  rfl

/-- A tree gives the settings of one rule. -/
theorem Carries.unique {t : Tree} {rule rule' : Rule} (h : Carries t rule) (h' : Carries t rule') :
    rule = rule' := by
  induction h generalizing rule' with
  | mk inside hwritten hnamed hkind hrequired hdefault hdescription _ ih =>
    cases h' with
    | mk inside' hwritten' hnamed' hkind' hrequired' hdefault' hdescription' hinside' =>
      cases hwritten.symm.trans hwritten'
      cases hnamed.unique hnamed'
      rw [KindTag.kindOf_congr _ fun t ht ↦ ih t ht (hinside' t ht)] at hkind
      exact eq_of_parts (hkind.trans hkind'.symm) (hrequired.trans hrequired'.symm)
        (hdefault.trans hdefault'.symm) (hdescription.trans hdescription'.symm)

end Rule

end SchemaRouting
