import SchemaRouting.Rule.Writing
import SchemaRouting.Proofs.Rule.Distinct
import SchemaRouting.Proofs.Rule.Settings

/-!
# The document that a rule is written as

What is written for each setting of a rule (`told?`) makes up the members of its document
(`toTree_eq`). Where the parts of a rule can be written (`Writable`), the document is a JSON value
(`isJson_toTree`), and with its members in the order of their keys it still gives the same settings
(`given?_orderedMembers`), so it says of a rule what one may be told (`acceptable_ordered`).
-/

set_option autoImplicit false
set_option relaxedAutoImplicit false

namespace SchemaRouting.Rule

open SchemaRouting.Tree (IsJson orderedMembers)

variable {s : Setting} {t : Tree} {rule : Rule}

/-! ### What is written for a setting -/

/-- The name of the kind of a rule. -/
def Kind.tag : Kind Rule → KindTag
  | .string _ => .string
  | .integer .. => .integer
  | .number .. => .number
  | .boolean => .boolean
  | .array .. => .array
  | .object .. => .object
  | .any => .any

theorem Kind.name_tag (kind : Kind Rule) : kind.tag.name = kind.name := by
  cases kind <;> rfl

/-- What is written for a setting of a kind. -/
def Kind.told? : Kind Rule → Setting → Option Tree
  | .string settings, .trim => some (.bool settings.trim)
  | .string settings, .minLength => settings.minLength.map count
  | .string settings, .maxLength => settings.maxLength.map count
  | .string settings, .allowed =>
    if settings.allowed.isEmpty then none else some (texts settings.allowed)
  | .integer minimum _, .minimum => minimum.map whole
  | .integer _ maximum, .maximum => maximum.map whole
  | .number minimum _, .minimum => minimum.map binary
  | .number _ maximum, .maximum => maximum.map binary
  | .array items _ _, .items => items.map toTree
  | .array _ minItems _, .minItems => minItems.map count
  | .array _ _ maxItems, .maxItems => maxItems.map count
  | .object properties _, .properties => some (.object (propertiesToTree properties) .strict)
  | .object _ allowUnknown, .allowUnknown => some (.bool allowUnknown)
  | _, _ => none

/-- A tree is what is written for a setting of a kind. -/
inductive Kind.Tells : Kind Rule → Setting → Tree → Prop
  | trim (settings : Text) : Tells (.string settings) .trim (.bool settings.trim)
  | minLength {settings : Text} {n : Nat} : settings.minLength = some n →
    Tells (.string settings) .minLength (count n)
  | maxLength {settings : Text} {n : Nat} : settings.maxLength = some n →
    Tells (.string settings) .maxLength (count n)
  | allowed {settings : Text} : settings.allowed ≠ [] →
    Tells (.string settings) .allowed (texts settings.allowed)
  | leastWhole (n : Int) (maximum : Option Int) :
    Tells (.integer (some n) maximum) .minimum (whole n)
  | greatestWhole (minimum : Option Int) (n : Int) :
    Tells (.integer minimum (some n)) .maximum (whole n)
  | least (x : Float) (maximum : Option Float) :
    Tells (.number (some x) maximum) .minimum (binary x)
  | greatest (minimum : Option Float) (x : Float) :
    Tells (.number minimum (some x)) .maximum (binary x)
  | items (item : Rule) (minItems maxItems : Option Nat) :
    Tells (.array (some item) minItems maxItems) .items item.toTree
  | minItems (items : Option Rule) (n : Nat) (maxItems : Option Nat) :
    Tells (.array items (some n) maxItems) .minItems (count n)
  | maxItems (items : Option Rule) (minItems : Option Nat) (n : Nat) :
    Tells (.array items minItems (some n)) .maxItems (count n)
  | properties (properties : List (String × Rule)) (allowUnknown : Bool) :
    Tells (.object properties allowUnknown) .properties
      (.object (propertiesToTree properties) .strict)
  | allowUnknown (properties : List (String × Rule)) (allowUnknown : Bool) :
    Tells (.object properties allowUnknown) .allowUnknown (.bool allowUnknown)

theorem Kind.tells_of_told? {kind : Kind Rule} (h : kind.told? s = some t) : kind.Tells s t := by
  unfold Kind.told? at h
  split at h
  · cases h
    exact .trim _
  · obtain ⟨n, hn, rfl⟩ := Option.map_eq_some_iff.mp h
    exact .minLength hn
  · obtain ⟨n, hn, rfl⟩ := Option.map_eq_some_iff.mp h
    exact .maxLength hn
  · split at h
    · cases h
    · rename_i hsome
      cases h
      exact .allowed (by simpa using hsome)
  · obtain ⟨n, rfl, rfl⟩ := Option.map_eq_some_iff.mp h
    exact .leastWhole n _
  · obtain ⟨n, rfl, rfl⟩ := Option.map_eq_some_iff.mp h
    exact .greatestWhole _ n
  · obtain ⟨x, rfl, rfl⟩ := Option.map_eq_some_iff.mp h
    exact .least x _
  · obtain ⟨x, rfl, rfl⟩ := Option.map_eq_some_iff.mp h
    exact .greatest _ x
  · obtain ⟨item, rfl, rfl⟩ := Option.map_eq_some_iff.mp h
    exact .items item _ _
  · obtain ⟨n, rfl, rfl⟩ := Option.map_eq_some_iff.mp h
    exact .minItems _ n _
  · obtain ⟨n, rfl, rfl⟩ := Option.map_eq_some_iff.mp h
    exact .maxItems _ _ n
  · cases h
    exact .properties _ _
  · cases h
    exact .allowUnknown _ _
  · cases h

/-- What is written for a setting of a rule. -/
def told? (rule : Rule) : Setting → Option Tree
  | .type => some (.string rule.kind.name)
  | .required => some (.bool rule.required)
  | .default => rule.default.map Tree.ofJson
  | .description => rule.description.map .string
  | s => rule.kind.told? s

theorem told?_of_kind {kind : Kind Rule} (hkind : rule.kind = kind) (hs : ¬ s.IsShared) :
    rule.told? s = kind.told? s := by
  subst hkind
  cases s with
  | type | required | default | description => exact absurd (by decide) hs
  | trim | minLength | maxLength | allowed | minimum | maximum | items | minItems | maxItems
  | properties | allowUnknown => rfl

/-- The settings in the order in which they are written. -/
def Setting.writtenOrder : List Setting :=
  [type, trim, minLength, maxLength, allowed, minimum, maximum, items, minItems, maxItems,
    properties, allowUnknown, required, default, description]

/-- The members of the document of a rule. -/
def members (rule : Rule) : List (String × Tree) :=
  Setting.writtenOrder.flatMap fun s ↦ setting s id (rule.told? s)

theorem setting_map {α : Type} (s : Setting) (write : α → Tree) (value : Option α) :
    setting s id (value.map write) = setting s write value := by
  cases value <;> rfl

theorem toTree_eq (rule : Rule) : rule.toTree = .object rule.members .strict := by
  obtain ⟨kind, required, default, description⟩ := rule
  rw [toTree.eq_def]
  simp only [members, Setting.writtenOrder, List.flatMap_cons, List.flatMap_nil, List.append_nil]
  cases kind with
  | string settings =>
    obtain ⟨trim, minLength, maxLength, allowed⟩ := settings
    cases allowed <;> simp only [told?, Kind.told?, setting_map, List.append_assoc] <;> rfl
  | array items minItems maxItems =>
    cases items <;> simp only [told?, Kind.told?, setting_map, List.append_assoc] <;> rfl
  | integer _ _ | number _ _ | boolean | object _ _ | any =>
    simp only [told?, Kind.told?, setting_map, List.append_assoc]
    rfl

/-! ### The members of the document -/

theorem mem_members_iff {key : String} :
    (key, t) ∈ rule.members ↔ ∃ s : Setting, key = s.name ∧ rule.told? s = some t := by
  have hsetting : ∀ s : Setting, (key, t) ∈ setting s id (rule.told? s) ↔
      key = s.name ∧ rule.told? s = some t := by
    intro s
    cases rule.told? s <;> simp [setting, eq_comm]
  have hall : ∀ s : Setting, s ∈ Setting.writtenOrder := by
    intro s
    cases s <;> decide
  rw [members, List.mem_flatMap]
  simp [hsetting, hall]

theorem keys_members_sublist (rule : Rule) :
    (Keyed.keys rule.members).Sublist (Setting.writtenOrder.map Setting.name) := by
  rw [members]
  induction Setting.writtenOrder with
  | nil => exact .slnil
  | cons s rest ih =>
    rw [List.flatMap_cons, List.map_cons, Keyed.keys, List.map_append]
    cases rule.told? s with
    | none => exact ih.cons s.name
    | some t => exact ih.cons_cons s.name

theorem nodup_keys_members (rule : Rule) : (Keyed.keys rule.members).Nodup :=
  (keys_members_sublist rule).nodup (by decide)

/-- Every key is the first spelling of its setting. -/
theorem exists_name_of_mem_keys_members {key : String} (h : key ∈ Keyed.keys rule.members) :
    ∃ s : Setting, s.name = key := by
  obtain ⟨s, -, hname⟩ := List.mem_map.mp ((keys_members_sublist rule).subset h)
  exact ⟨s, hname⟩

theorem Setting.name_injective {s s' : Setting} (h : s.name = s'.name) : s = s' :=
  have hs : s.Spelled s.name := .inl rfl
  hs.unique (.inl h)

theorem find?_members (rule : Rule) (s : Setting) :
    Keyed.find? s.name rule.members = rule.told? s := by
  cases htold : rule.told? s with
  | some t =>
    exact Keyed.find?_of_mem (nodup_keys_members rule) (mem_members_iff.mpr ⟨s, rfl, htold⟩)
  | none =>
    rw [Keyed.find?_eq_none_iff]
    intro hmem
    obtain ⟨⟨key, t⟩, hmem, hkey⟩ := List.mem_map.mp hmem
    obtain ⟨s', hs', hfound⟩ := mem_members_iff.mp hmem
    cases Setting.name_injective (hs'.symm.trans hkey)
    rw [htold] at hfound
    cases hfound

/-- Assumes: keys that are all first spellings. -/
theorem written?_eq_find? {members : List (String × Tree)}
    (h : ∀ key ∈ Keyed.keys members, ∃ s : Setting, s.name = key) (s : Setting) :
    s.written? members = Keyed.find? s.name members := by
  rw [Setting.written?]
  induction members with
  | nil => rfl
  | cons member rest ih =>
    obtain ⟨key, t⟩ := member
    have hspelled : s.Spelled key ↔ key = s.name := by
      obtain ⟨s', rfl⟩ := h key List.mem_cons_self
      refine ⟨fun hs ↦ ?_, .inl⟩
      rw [hs.unique (.inl rfl)]
    rw [List.find?_cons, Keyed.find?, ← ih fun key hkey ↦ h key (List.mem_cons_of_mem _ hkey)]
    by_cases hkey : key = s.name
    · rw [if_pos hkey, decide_eq_true (hspelled.mpr hkey)]
      rfl
    · rw [if_neg hkey, decide_eq_false (mt hspelled.mp hkey)]

theorem exists_name_of_mem_keys_orderedMembers {key : String}
    (h : key ∈ Keyed.keys (orderedMembers rule.members)) : ∃ s : Setting, s.name = key :=
  exists_name_of_mem_keys_members
    ((Tree.mem_keys_orderedMembers_iff (nodup_keys_members rule)).mp h)

/-- With its members in the order of their keys a document says the same of each setting. -/
theorem written?_orderedMembers (rule : Rule) (s : Setting) :
    s.written? (orderedMembers rule.members) = (rule.told? s).map Tree.ordered := by
  rw [written?_eq_find? fun _ ↦ exists_name_of_mem_keys_orderedMembers,
    Tree.find?_orderedMembers (nodup_keys_members rule), find?_members]

theorem given?_orderedMembers (rule : Rule) (s : Setting) :
    s.given? (orderedMembers rule.members) =
      ((rule.told? s).map Tree.ordered).bind Tree.nonNull? := by
  rw [Setting.given?, written?_orderedMembers]

/-- What is given in the document was written there. -/
theorem exists_told_of_given? (h : s.given? (orderedMembers rule.members) = some t) :
    ∃ told, rule.told? s = some told ∧ t = told.ordered := by
  rw [given?_orderedMembers] at h
  obtain ⟨t', hmap, hnonNull⟩ := Option.bind_eq_some_iff.mp h
  obtain ⟨told, htold, rfl⟩ := Option.map_eq_some_iff.mp hmap
  exact ⟨told, htold, (Tree.nonNull?_eq_some_iff.mp hnonNull).2.symm⟩

/-! ### Rules that can be written -/

/-- The settings of a kind fit the words that they are kept in, and its bounds are finite. -/
def Kind.WithinWords : Kind Rule → Prop
  | .string settings => (∀ n, settings.minLength = some n → n ≤ Tree.countLimit) ∧
    ∀ n, settings.maxLength = some n → n ≤ Tree.countLimit
  | .integer minimum maximum => (∀ n, minimum = some n → Json.fitsWord n = true) ∧
    ∀ n, maximum = some n → Json.fitsWord n = true
  | .number minimum maximum => (∀ x, minimum = some x → x.isFinite = true) ∧
    ∀ x, maximum = some x → x.isFinite = true
  | .array _ minItems maxItems => (∀ n, minItems = some n → n ≤ Tree.countLimit) ∧
    ∀ n, maxItems = some n → n ≤ Tree.countLimit
  | .boolean | .object .. | .any => True

/-- A rule, and every rule inside it, has settings within words and a default that is a value. -/
inductive Writable : Rule → Prop
  | mk {rule : Rule} : rule.kind.WithinWords → (∀ v, rule.default = some v → v.IsValue) →
    (∀ child ∈ rule.kind.children, Writable child) → Writable rule

namespace Writable

theorem withinWords (h : rule.Writable) : rule.kind.WithinWords := by
  cases h with
  | mk hwords _ _ => exact hwords

theorem default (h : rule.Writable) : ∀ v, rule.default = some v → v.IsValue := by
  cases h with
  | mk _ hdefault _ => exact hdefault

theorem child {child : Rule} (h : rule.Writable) (hchild : child ∈ rule.kind.children) :
    child.Writable := by
  cases h with
  | mk _ _ hchildren => exact hchildren child hchild

end Writable

theorem propertiesToTree_eq_map (properties : List (String × Rule)) :
    propertiesToTree properties =
      properties.map fun property ↦ (property.1, property.2.toTree) := by
  induction properties with
  | nil => rw [propertiesToTree, List.map_nil]
  | cons property rest ih => rw [propertiesToTree, List.map_cons, ih]

theorem isJson_texts (list : List String) : (texts list).IsJson := by
  refine .array fun t ht ↦ ?_
  obtain ⟨s, -, rfl⟩ := List.mem_map.mp ht
  exact .string s

theorem isJson_propertiesToTree {properties : List (String × Rule)}
    (hnodup : (Keyed.keys properties).Nodup)
    (hproperties : ∀ name property, (name, property) ∈ properties → property.toTree.IsJson) :
    IsJson (.object (propertiesToTree properties) .strict) := by
  rw [propertiesToTree_eq_map]
  refine .object ?_ fun key t hmem ↦ ?_
  · rw [Keyed.keys_map_values]
    exact hnodup
  · obtain ⟨⟨name, property⟩, hproperty, heq⟩ := List.mem_map.mp hmem
    cases heq
    exact hproperties name property hproperty

theorem Kind.Tells.isJson {kind : Kind Rule} (h : kind.Tells s t) (hwords : kind.WithinWords)
    (hnodup : (Keyed.keys kind.declared).Nodup)
    (hchildren : ∀ child ∈ kind.children, child.toTree.IsJson) : t.IsJson := by
  cases h with
  | trim | allowUnknown => exact .bool _
  | minLength | maxLength | leastWhole | greatestWhole | minItems | maxItems => exact .int _
  | allowed => exact isJson_texts _
  | least x => exact .float (hwords.1 x rfl)
  | greatest _ x => exact .float (hwords.2 x rfl)
  | items item => exact hchildren item (List.mem_singleton_self item)
  | properties properties =>
    exact isJson_propertiesToTree hnodup fun name property hmem ↦
      hchildren property (List.mem_map.mpr ⟨(name, property), hmem, rfl⟩)

theorem isJson_toTree (hdistinct : rule.Distinct) (hwritable : rule.Writable) :
    rule.toTree.IsJson := by
  induction rule using childInduction with
  | step rule ih =>
    have hchild : ∀ child ∈ rule.kind.children, child.toTree.IsJson := fun child hmem ↦
      ih child hmem (hdistinct.child hmem) (hwritable.child hmem)
    have hnodup : (Keyed.keys rule.kind.declared).Nodup := by
      cases hdistinct with
      | mk hnodup _ => exact hnodup
    rw [toTree_eq]
    refine .object (nodup_keys_members rule) fun key t hmem ↦ ?_
    obtain ⟨s, -, htold⟩ := mem_members_iff.mp hmem
    cases s with
    | type =>
      cases htold
      exact .string _
    | required =>
      cases htold
      exact .bool _
    | default =>
      obtain ⟨v, hv, rfl⟩ := Option.map_eq_some_iff.mp htold
      exact Tree.isJson_ofJson (hwritable.default v hv)
    | description =>
      obtain ⟨text, -, rfl⟩ := Option.map_eq_some_iff.mp htold
      exact .string _
    | trim | minLength | maxLength | allowed | minimum | maximum | items | minItems | maxItems
    | properties | allowUnknown =>
      exact (Kind.tells_of_told? htold).isJson hwritable.withinWords hnodup hchild

/-! ### The document says what a rule may be told -/

theorem ordered_texts (list : List String) : (texts list).ordered = texts list := by
  have hvalue : (Json.strings list).IsValue := by
    refine .array fun v hv ↦ ?_
    obtain ⟨s, -, rfl⟩ := List.mem_map.mp hv
    exact .string s
  have htexts : texts list = Tree.ofJson (Json.strings list) := by
    rw [Json.strings, Tree.ofJson, Tree.itemsOfJson_eq_map, List.map_map]
    rfl
  rw [htexts, Tree.ordered_ofJson hvalue]

theorem ordered_binary {x : Float} (h : x.isFinite = true) : (binary x).ordered = binary x :=
  Tree.ordered_ofJson (v := .number (.float x)) (.float h)

theorem Kind.Tells.hasType {kind : Kind Rule} (h : kind.Tells s t) (hwords : kind.WithinWords)
    (hjson : t.IsJson) : s.HasType t.ordered := by
  cases h with
  | trim | allowUnknown => exact ⟨_, rfl⟩
  | minLength hn => exact ⟨_, hwords.1 _ hn, rfl⟩
  | maxLength hn => exact ⟨_, hwords.2 _ hn, rfl⟩
  | @allowed settings => exact ⟨settings.allowed, ordered_texts _⟩
  | leastWhole | greatestWhole => exact ⟨_, rfl⟩
  | least x => exact ⟨_, ordered_binary (hwords.1 x rfl)⟩
  | greatest _ x => exact ⟨_, ordered_binary (hwords.2 x rfl)⟩
  | items => trivial
  | minItems _ n => exact ⟨n, hwords.1 n rfl, rfl⟩
  | maxItems _ _ n => exact ⟨n, hwords.2 n rfl, rfl⟩
  | properties => exact ⟨_, Tree.ordered_object hjson⟩

theorem Kind.Tells.mem_settings {kind : Kind Rule} (h : kind.Tells s t) :
    s ∈ kind.tag.settings := by
  cases h <;> simp [Kind.tag, KindTag.settings]

/-- The bounds of a rule for whole numbers are within words. -/
theorem Kind.Tells.exists_bound {kind : Kind Rule} (h : kind.Tells s t)
    (hwords : kind.WithinWords) (hinteger : kind.tag = .integer)
    (hs : s ∈ [Setting.minimum, .maximum]) :
    ∃ n, Json.fitsWord n = true ∧ t = .number (.int n) := by
  cases h with
  | leastWhole n => exact ⟨n, hwords.1 n rfl, rfl⟩
  | greatestWhole _ n => exact ⟨n, hwords.2 n rfl, rfl⟩
  | least | greatest => cases hinteger
  | trim | minLength | maxLength | allowed | items | minItems | maxItems | properties
  | allowUnknown => simp at hs

theorem isJson_members (hdistinct : rule.Distinct) (hwritable : rule.Writable) :
    IsJson (.object rule.members .strict) :=
  toTree_eq rule ▸ isJson_toTree hdistinct hwritable

theorem ordered_toTree (hdistinct : rule.Distinct) (hwritable : rule.Writable) :
    rule.toTree.ordered = .object (orderedMembers rule.members) .strict := by
  rw [toTree_eq, Tree.ordered_object (isJson_members hdistinct hwritable)]

theorem sound_orderedMembers (hdistinct : rule.Distinct) (hwritable : rule.Writable) :
    Sound rule.kind.tag (orderedMembers rule.members) := by
  have hjson := isJson_members hdistinct hwritable
  have hwords := hwritable.withinWords
  refine ⟨?_, ?_, ?_, ?_, ?_, ?_, ?_⟩
  · refine ⟨.string rule.kind.name, written?_orderedMembers rule .type, .inl ?_⟩
    rw [Kind.name_tag]
  · intro key hkey
    obtain ⟨s, rfl⟩ := exists_name_of_mem_keys_orderedMembers hkey
    exact ⟨s, .inl rfl⟩
  · intro s key key' hkey hkey' hmem hmem'
    obtain ⟨first, rfl⟩ := exists_name_of_mem_keys_orderedMembers hmem
    obtain ⟨second, rfl⟩ := exists_name_of_mem_keys_orderedMembers hmem'
    rw [← hkey.unique (.inl rfl), ← hkey'.unique (.inl rfl)]
  · intro t ht
    rw [written?_orderedMembers] at ht
    cases ht
    exact ⟨_, rfl⟩
  · intro s t ht
    obtain ⟨told, htold, rfl⟩ := exists_told_of_given? ht
    cases s with
    | type =>
      cases htold
      exact ⟨rule.kind.tag, .inl (congrArg Tree.string (Kind.name_tag rule.kind).symm)⟩
    | required =>
      cases htold
      exact ⟨_, rfl⟩
    | default => trivial
    | description =>
      obtain ⟨text, -, rfl⟩ := Option.map_eq_some_iff.mp htold
      exact ⟨_, rfl⟩
    | trim | minLength | maxLength | allowed | minimum | maximum | items | minItems | maxItems
    | properties | allowUnknown =>
      have hmem := mem_members_iff.mpr ⟨_, rfl, htold⟩
      exact (Kind.tells_of_told? htold).hasType hwords (hjson.members _ _ hmem)
  · intro s t ht
    obtain ⟨told, htold, rfl⟩ := exists_told_of_given? ht
    cases s with
    | type | required | default | description => exact .inl (by simp [Setting.IsShared])
    | trim | minLength | maxLength | allowed | minimum | maximum | items | minItems | maxItems
    | properties | allowUnknown => exact .inr (Kind.tells_of_told? htold).mem_settings
  · intro hinteger s hs t ht
    obtain ⟨told, htold, rfl⟩ := exists_told_of_given? ht
    have htells : rule.kind.Tells s told := by
      simp only [List.mem_cons, List.not_mem_nil, or_false] at hs
      rcases hs with rfl | rfl <;> exact Kind.tells_of_told? htold
    obtain ⟨n, hn, rfl⟩ := htells.exists_bound hwords hinteger hs
    exact ⟨n, hn, rfl⟩

theorem exists_child_of_inner (hdistinct : rule.Distinct) (hwritable : rule.Writable)
    (h : Inner rule.toTree.ordered t) : ∃ child ∈ rule.kind.children, t = child.toTree.ordered := by
  have hjson := isJson_members hdistinct hwritable
  rw [ordered_toTree hdistinct hwritable] at h
  cases h with
  | items hitems =>
    obtain ⟨told, htold, rfl⟩ := exists_told_of_given? hitems
    have htells : rule.kind.Tells .items told := Kind.tells_of_told? htold
    generalize rule.kind = kind at htells
    cases htells with
    | items item => exact ⟨item, List.mem_singleton_self item, rfl⟩
  | property hproperties hmem =>
    obtain ⟨told, htold, hordered⟩ := exists_told_of_given? hproperties
    have htells : rule.kind.Tells .properties told := Kind.tells_of_told? htold
    have htree := hjson.members _ _ (mem_members_iff.mpr ⟨_, rfl, htold⟩)
    generalize rule.kind = kind at htells
    cases htells with
    | properties properties =>
      rw [Tree.ordered_object htree] at hordered
      cases hordered
      obtain ⟨told, htold, rfl⟩ := (Tree.mem_orderedMembers_iff htree.nodup).mp hmem
      rw [propertiesToTree_eq_map] at htold
      obtain ⟨⟨name, property⟩, hproperty, heq⟩ := List.mem_map.mp htold
      cases heq
      exact ⟨property, List.mem_map.mpr ⟨_, hproperty, rfl⟩, rfl⟩

theorem acceptable_ordered (hdistinct : rule.Distinct) (hwritable : rule.Writable) :
    Acceptable rule.toTree.ordered := by
  induction rule using childInduction with
  | step rule ih =>
    rw [acceptable_iff]
    refine ⟨⟨rule.kind.tag, _, ordered_toTree hdistinct hwritable,
      sound_orderedMembers hdistinct hwritable⟩, fun t hinner ↦ ?_⟩
    obtain ⟨child, hchild, rfl⟩ := exists_child_of_inner hdistinct hwritable hinner
    exact ih child hchild (hdistinct.child hchild) (hwritable.child hchild)

end SchemaRouting.Rule
