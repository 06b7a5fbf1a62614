import SchemaRouting.Proofs.Rule.Documents
import SchemaRouting.Proofs.Rule.Written
import SchemaRouting.Proofs.Rule.Outcome

/-!
# Rules read back from their documents

The document of a rule reads back as a rule that says the same, its properties in the order of their
names, save that a default that is null is lost (`Matches`, `matches_of_carries`). So a rule is read
back as it was exactly if it has no such default at any depth, and then it lets the same values
through (`reread_loses_null_defaults`).
-/

set_option autoImplicit false
set_option relaxedAutoImplicit false

namespace SchemaRouting.Rule

open SchemaRouting.Tree (IsJson orderedMembers)

variable {s : Setting} {rule other back : Rule} {keep : Option Json → Option Json}

/-! ### Rules that say the same -/

/-- What two rules say besides their kinds, where of a default the second has what is kept. -/
structure SharedMatch (keep : Option Json → Option Json) (rule other : Rule) : Prop where
  required : other.required = rule.required
  default : other.default = keep rule.default
  description : other.description = rule.description

/-- Two rules say the same, with their properties in any order, where of each default the second has
what is kept. -/
inductive Matches (keep : Option Json → Option Json) : Rule → Rule → Prop
  | plain {rule other : Rule} : other.kind = rule.kind → rule.kind.children = [] →
    SharedMatch keep rule other → Matches keep rule other
  | items {rule other item item' : Rule} {minItems maxItems : Option Nat} :
    rule.kind = .array (some item) minItems maxItems →
    other.kind = .array (some item') minItems maxItems → Matches keep item item' →
    SharedMatch keep rule other → Matches keep rule other
  | properties {rule other : Rule} {properties properties' : List (String × Rule)}
    {allowUnknown : Bool} : rule.kind = .object properties allowUnknown →
    other.kind = .object properties' allowUnknown →
    (Keyed.keys properties').Perm (Keyed.keys properties) →
    (∀ name property property', (name, property) ∈ properties → (name, property') ∈ properties' →
      Matches keep property property') →
    SharedMatch keep rule other → Matches keep rule other

theorem Matches.shared (h : Matches keep rule other) : SharedMatch keep rule other := by
  cases h with
  | plain _ _ hshared => exact hshared
  | items _ _ _ hshared => exact hshared
  | properties _ _ _ _ hshared => exact hshared

/-- What a default is read back as: null is read as none. -/
def keptDefault : Option Json → Option Json
  | some .null => none
  | default => default

theorem keptDefault_eq_self_iff {default : Option Json} :
    keptDefault default = default ↔ default ≠ some .null := by
  rcases default with _ | v
  · simp [keptDefault]
  · cases v <;> simp [keptDefault]

/-! ### What is read back -/

section Values

variable {α : Type} {f : Tree → Option α}

theorem value?_orderedMembers (rule : Rule) (s : Setting) (f : Tree → Option α) :
    s.value? f (orderedMembers rule.members) =
      (((rule.told? s).map Tree.ordered).bind Tree.nonNull?).bind f := by
  rw [Setting.value?, given?_orderedMembers]

theorem value?_of_bool {b : Bool} (h : rule.told? s = some (.bool b)) :
    s.value? Tree.asBool? (orderedMembers rule.members) = some b := by
  rw [value?_orderedMembers, h]
  rfl

theorem value?_of_count {n : Option Nat} (h : rule.told? s = n.map count) :
    s.value? Tree.asCount? (orderedMembers rule.members) = n := by
  rw [value?_orderedMembers, h]
  cases n <;> rfl

theorem value?_of_whole {n : Option Int} (h : rule.told? s = n.map whole) :
    s.value? Tree.asWhole? (orderedMembers rule.members) = n := by
  rw [value?_orderedMembers, h]
  cases n <;> rfl

theorem value?_of_binary {x : Option Float} (h : rule.told? s = x.map binary)
    (hfinite : ∀ y, x = some y → y.isFinite = true) :
    (s.value? Tree.asNumber? (orderedMembers rule.members)).map Json.Number.toFloat = x := by
  rw [value?_orderedMembers, h]
  cases x with
  | none => rfl
  | some y =>
    rw [Option.map_some, Option.map_some, ordered_binary (hfinite y rfl)]
    rfl

theorem value?_of_texts {list : List String}
    (h : rule.told? s = if list.isEmpty then none else some (texts list)) :
    (s.value? Tree.asTexts? (orderedMembers rule.members)).getD [] = list := by
  rw [value?_orderedMembers, h]
  cases list with
  | nil => rfl
  | cons first rest =>
    rw [if_neg (by simp), Option.map_some, ordered_texts]
    simp [texts, Tree.nonNull?, Tree.asTexts?, List.filterMap_map, Function.comp_def, Tree.asText?]

theorem value?_default (h : ∀ v, rule.default = some v → v.IsValue) :
    Setting.value? Tree.toJson? .default (orderedMembers rule.members) =
      keptDefault rule.default := by
  rw [value?_orderedMembers, told?]
  cases hdefault : rule.default with
  | none => rfl
  | some v =>
    have hv := h v hdefault
    rw [Option.map_some, Option.map_some, Tree.ordered_ofJson hv]
    have hjson := Tree.toJson?_ofJson hv
    cases v with
    | null => rfl
    | bool _ | number _ | string _ | array _ | object _ => exact hjson

end Values

/-- What a kind is read back as, given what the documents of the rules inside are. -/
def Kind.reread (inside : Tree → Rule) : Kind Rule → Kind Rule
  | .array items minItems maxItems =>
    .array (items.map fun item ↦ inside item.toTree.ordered) minItems maxItems
  | .object properties allowUnknown =>
    .object ((orderedMembers (propertiesToTree properties)).map fun property ↦
      (property.1, inside property.2)) allowUnknown
  | kind => kind

theorem given?_items {item : Rule} (hdistinct : item.Distinct) (hwritable : item.Writable)
    (htold : rule.told? .items = some item.toTree) :
    Setting.given? .items (orderedMembers rule.members) = some item.toTree.ordered := by
  rw [given?_orderedMembers, htold, Option.map_some, Option.bind_some,
    ordered_toTree hdistinct hwritable]
  rfl

theorem given?_properties {properties : List (String × Rule)}
    (hjson : IsJson (.object (propertiesToTree properties) .strict))
    (htold : rule.told? .properties = some (.object (propertiesToTree properties) .strict)) :
    Setting.given? .properties (orderedMembers rule.members) =
      some (.object (orderedMembers (propertiesToTree properties)) .strict) := by
  rw [given?_orderedMembers, htold, Option.map_some, Option.bind_some, Tree.ordered_object hjson]
  rfl

theorem isJson_properties (hdistinct : rule.Distinct) (hwritable : rule.Writable)
    {properties : List (String × Rule)} {allowUnknown : Bool}
    (hkind : rule.kind = .object properties allowUnknown) :
    IsJson (.object (propertiesToTree properties) .strict) := by
  refine isJson_propertiesToTree (hdistinct.nodup hkind) fun name property hmem ↦ ?_
  have hchild := mem_children_of_property hkind hmem
  exact isJson_toTree (hdistinct.child hchild) (hwritable.child hchild)

theorem kindOf_orderedMembers (hdistinct : rule.Distinct) (hwritable : rule.Writable)
    (inside : Tree → Rule) :
    rule.kind.tag.kindOf (orderedMembers rule.members) inside = rule.kind.reread inside := by
  have hwords := hwritable.withinWords
  cases hkind : rule.kind with
  | string settings =>
    have htold := fun s hs ↦ told?_of_kind (s := s) hkind hs
    rw [Kind.tag, KindTag.kindOf, value?_of_bool (htold .trim (by decide)),
      value?_of_count (htold .minLength (by decide)),
      value?_of_count (htold .maxLength (by decide)), value?_of_texts (htold .allowed (by decide))]
    rfl
  | integer minimum maximum =>
    have htold := fun s hs ↦ told?_of_kind (s := s) hkind hs
    rw [Kind.tag, KindTag.kindOf, value?_of_whole (htold .minimum (by decide)),
      value?_of_whole (htold .maximum (by decide))]
    rfl
  | number minimum maximum =>
    have htold := fun s hs ↦ told?_of_kind (s := s) hkind hs
    rw [hkind] at hwords
    rw [Kind.tag, KindTag.kindOf, value?_of_binary (htold .minimum (by decide)) hwords.1,
      value?_of_binary (htold .maximum (by decide)) hwords.2]
    rfl
  | boolean => rfl
  | array items minItems maxItems =>
    have htold := fun s hs ↦ told?_of_kind (s := s) hkind hs
    rw [Kind.tag, KindTag.kindOf, value?_of_count (htold .minItems (by decide)),
      value?_of_count (htold .maxItems (by decide)), Kind.reread]
    cases items with
    | none =>
      rw [given?_orderedMembers, htold .items (by decide)]
      rfl
    | some item =>
      have hchild := mem_children_of_item hkind
      rw [given?_items (hdistinct.child hchild) (hwritable.child hchild) (htold .items (by decide))]
      rfl
  | object properties allowUnknown =>
    have htold := fun s hs ↦ told?_of_kind (s := s) hkind hs
    rw [Kind.tag, KindTag.kindOf, value?_of_bool (htold .allowUnknown (by decide)), Setting.value?,
      given?_properties (isJson_properties hdistinct hwritable hkind)
        (htold .properties (by decide))]
    rfl
  | any => rfl

/-- What has the settings that the document of a rule gives says the same, save for defaults that
are null. -/
theorem matches_of_carries (hdistinct : rule.Distinct) (hwritable : rule.Writable)
    (h : Carries rule.toTree.ordered back) : Matches keptDefault rule back := by
  induction rule using childInduction generalizing back with
  | step rule ih =>
    rw [ordered_toTree hdistinct hwritable] at h
    cases h with
    | @mk _ _ tag named _ inside hwritten hnamed hback hrequired hdefault hdescription hinside =>
      have htag : tag = rule.kind.tag := by
        rw [written?_orderedMembers] at hwritten
        cases hwritten
        exact hnamed.unique (.inl (congrArg Tree.string (Kind.name_tag rule.kind).symm))
      rw [htag, kindOf_orderedMembers hdistinct hwritable] at hback
      have hshared : SharedMatch keptDefault rule back := by
        refine ⟨?_, ?_, ?_⟩
        · rw [hrequired, value?_of_bool rfl]
          rfl
        · rw [hdefault, value?_default hwritable.default]
        · rw [hdescription, value?_orderedMembers, told?]
          cases rule.description <;> rfl
      cases hkind : rule.kind with
      | array items minItems maxItems =>
        rw [hkind] at hback
        cases items with
        | none => exact .plain (hback.trans hkind.symm) (by rw [hkind]; rfl) hshared
        | some item =>
          have hchild := mem_children_of_item hkind
          have hgiven : Setting.given? .items (orderedMembers rule.members) =
              some item.toTree.ordered :=
            given?_items (hdistinct.child hchild) (hwritable.child hchild)
              (told?_of_kind hkind (by decide))
          exact .items hkind hback (ih item hchild (hdistinct.child hchild)
            (hwritable.child hchild) (hinside _ (.items hgiven))) hshared
      | object properties allowUnknown =>
        rw [hkind] at hback
        have hjson := isJson_properties hdistinct hwritable hkind
        have hgiven : Setting.given? .properties (orderedMembers rule.members) =
            some (.object (orderedMembers (propertiesToTree properties)) .strict) :=
          given?_properties hjson (told?_of_kind hkind (by decide))
        refine .properties hkind hback ?_ ?_ hshared
        · refine (List.perm_ext_iff_of_nodup ?_ (hdistinct.nodup hkind)).mpr fun name ↦ ?_
          · rw [Keyed.keys_map_values]
            exact Tree.nodup_keys_orderedMembers _
          · rw [Keyed.keys_map_values, Tree.mem_keys_orderedMembers_iff hjson.nodup,
              propertiesToTree_eq_map, Keyed.keys_map_values]
        · intro name property property' hproperty hproperty'
          have hchild := mem_children_of_property hkind hproperty
          obtain ⟨⟨key, t⟩, hmem, heq⟩ := List.mem_map.mp hproperty'
          cases heq
          obtain ⟨u, hu, rfl⟩ := (Tree.mem_orderedMembers_iff hjson.nodup).mp hmem
          have hwritten : (key, property.toTree) ∈ propertiesToTree properties := by
            rw [propertiesToTree_eq_map]
            exact List.mem_map.mpr ⟨(key, property), hproperty, rfl⟩
          cases Keyed.eq_of_mem_of_mem hjson.nodup hwritten hu
          exact ih property hchild (hdistinct.child hchild) (hwritable.child hchild)
            (hinside _ (.property hgiven hmem))
      | string _ | integer _ _ | number _ _ | boolean | any =>
        rw [hkind] at hback
        exact .plain (hback.trans hkind.symm) (by rw [hkind]; rfl) hshared

/-! ### Rules that say the same let the same values through -/

section Same

variable {mode : Strictness} {v w : Json}

theorem Matches.symm (h : Matches id rule other) : Matches id other rule := by
  induction h with
  | plain hkind hchildren hshared =>
    exact .plain hkind.symm (by rw [hkind, hchildren])
      ⟨hshared.required.symm, hshared.default.symm, hshared.description.symm⟩
  | items hkind hkind' _ hshared ih =>
    exact .items hkind' hkind ih
      ⟨hshared.required.symm, hshared.default.symm, hshared.description.symm⟩
  | properties hkind hkind' hperm _ hshared ih =>
    exact .properties hkind' hkind hperm.symm
      (fun name property property' hmem hmem' ↦ ih name property' property hmem' hmem)
      ⟨hshared.required.symm, hshared.default.symm, hshared.description.symm⟩

/-- Each property of one of two rules that say the same is one of the other. -/
theorem exists_property_of_perm {properties properties' : List (String × Rule)}
    (hperm : (Keyed.keys properties').Perm (Keyed.keys properties)) {name : String}
    {property' : Rule} (hmem : (name, property') ∈ properties') :
    ∃ property, (name, property) ∈ properties := by
  have hname := hperm.mem_iff.mp (Keyed.mem_keys_of_mem hmem)
  obtain ⟨⟨_, property⟩, hproperty, rfl⟩ := List.mem_map.mp hname
  exact ⟨property, hproperty⟩

theorem Matches.conforms (h : Matches id rule other) (hv : Conforms mode rule v) :
    Conforms mode other v := by
  induction h generalizing v with
  | plain hkind _ hshared =>
    cases hv with
    | null hrequired => exact .null (hshared.required.trans hrequired)
    | string hrule hmin hmax hallows => exact .string (hkind.trans hrule) hmin hmax hallows
    | integer hrule hn hmin hmax => exact .integer (hkind.trans hrule) hn hmin hmax
    | number hrule hmin hmax => exact .number (hkind.trans hrule) hmin hmax
    | boolean b hrule => exact .boolean b (hkind.trans hrule)
    | array hrule hmin hmax hitems => exact .array (hkind.trans hrule) hmin hmax hitems
    | object hrule hrequired hmembers hundeclared =>
      exact .object (hkind.trans hrule) hrequired hmembers hundeclared
    | any hrule hnull => exact .any (hkind.trans hrule) hnull
  | items hkind hkind' _ hshared ih =>
    cases hv with
    | null hrequired => exact .null (hshared.required.trans hrequired)
    | array hrule hmin hmax hitems =>
      cases hkind.symm.trans hrule
      refine .array hkind' hmin hmax ?_
      rintro _ ⟨⟩ v hv
      exact ih (hitems _ rfl v hv)
    | string hrule | integer hrule | number hrule | boolean _ hrule | object hrule | any hrule =>
      cases hkind.symm.trans hrule
  | properties hkind hkind' hperm hinside hshared ih =>
    cases hv with
    | null hrequired => exact .null (hshared.required.trans hrequired)
    | object hrule hrequired hmembers hundeclared =>
      cases hkind.symm.trans hrule
      refine .object hkind' ?_ ?_ ?_
      · intro name property' hmem' hnone
        obtain ⟨property, hmem⟩ := exists_property_of_perm hperm hmem'
        rw [(hinside name property property' hmem hmem').shared.required]
        exact hrequired name property hmem hnone
      · intro name property' v hmem' hsome
        obtain ⟨property, hmem⟩ := exists_property_of_perm hperm hmem'
        exact ih name property property' hmem hmem' (hmembers name property v hmem hsome)
      · exact hundeclared.imp_right (Or.imp_right fun hall key hkey ↦
          hperm.mem_iff.mpr (hall key hkey))
    | string hrule | integer hrule | number hrule | boolean _ hrule | array hrule | any hrule =>
      cases hkind.symm.trans hrule

theorem Matches.normalizes (h : Matches id rule other) (hv : Normalizes rule v w) :
    Normalizes other v w := by
  induction h generalizing v w with
  | plain hkind _ hshared =>
    cases hv with
    | null => exact .null _
    | string s hrule => exact .string s (hkind.trans hrule)
    | keeps v hkeeps => exact .keeps v (by rw [hkind, hkeeps])
    | array hrule hlength hitems => exact .array (hkind.trans hrule) hlength hitems
    | object hrule hascending hkeys hpresent habsent hundeclared =>
      exact .object (hkind.trans hrule) hascending hkeys hpresent habsent hundeclared
  | items hkind hkind' _ hshared ih =>
    cases hv with
    | null => exact .null _
    | string s hrule => cases hkind.symm.trans hrule
    | keeps v hkeeps =>
      rw [hkind] at hkeeps
      cases hkeeps
    | array hrule hlength hitems =>
      cases hkind.symm.trans hrule
      exact .array hkind' hlength fun i v w hv hw ↦ ih (hitems i v w hv hw)
    | object hrule => cases hkind.symm.trans hrule
  | properties hkind hkind' hperm hinside hshared ih =>
    cases hv with
    | null => exact .null _
    | string s hrule => cases hkind.symm.trans hrule
    | keeps v hkeeps =>
      rw [hkind] at hkeeps
      cases hkeeps
    | array hrule => cases hkind.symm.trans hrule
    | object hrule hascending hkeys hpresent habsent hundeclared =>
      cases hkind.symm.trans hrule
      refine .object hkind' hascending ?_ ?_ ?_ ?_
      · intro key
        rw [hkeys key]
        refine or_congr_right ⟨?_, ?_⟩
        · rintro ⟨property, hmem, hrequired, hdefault⟩
          obtain ⟨property', hmem'⟩ := exists_property_of_perm hperm.symm hmem
          have hsame := (hinside key property property' hmem hmem').shared
          exact ⟨property', hmem', hsame.required.trans hrequired, hsame.default ▸ hdefault⟩
        · rintro ⟨property', hmem', hrequired, hdefault⟩
          obtain ⟨property, hmem⟩ := exists_property_of_perm hperm hmem'
          have hsame := (hinside key property property' hmem hmem').shared
          exact ⟨property, hmem, hsame.required.symm.trans hrequired,
            (congrArg Option.isSome hsame.default).symm.trans hdefault⟩
      · intro name property' v w hmem' hv hw
        obtain ⟨property, hmem⟩ := exists_property_of_perm hperm hmem'
        exact ih name property property' hmem hmem' (hpresent name property v w hmem hv hw)
      · intro name property' w hmem' hnone hw
        obtain ⟨property, hmem⟩ := exists_property_of_perm hperm hmem'
        rw [(hinside name property property' hmem hmem').shared.default]
        exact habsent name property w hmem hnone hw
      · exact fun key hkey ↦ hundeclared key fun hmem ↦ hkey (hperm.mem_iff.mpr hmem)

theorem Matches.check_eq_ok_iff (h : Matches id rule other) (hrule : rule.Distinct)
    (hother : other.Distinct) (hv : v.Sorted) (path : String) :
    other.check mode path v = .ok w ↔ rule.check mode path v = .ok w := by
  rw [Rule.check_eq_ok_iff hrule hv, Rule.check_eq_ok_iff hother hv]
  exact ⟨fun hw ↦ ⟨h.symm.conforms hw.1, h.symm.normalizes hw.2⟩,
    fun hw ↦ ⟨h.conforms hw.1, h.normalizes hw.2⟩⟩

end Same

/-! ### Defaults that are null -/

/-- No default is null, of the rule or of one inside it. -/
inductive NeverNull : Rule → Prop
  | mk {rule : Rule} : rule.default ≠ some .null →
    (∀ child ∈ rule.kind.children, NeverNull child) → NeverNull rule

/-- Where no default is null, none is lost. -/
theorem Matches.of_neverNull (h : Matches keptDefault rule other) (hnull : rule.NeverNull) :
    Matches id rule other := by
  induction h with
  | plain hkind hchildren hshared =>
    cases hnull with
    | mk hdefault _ =>
      exact .plain hkind hchildren ⟨hshared.required,
        hshared.default.trans (keptDefault_eq_self_iff.mpr hdefault), hshared.description⟩
  | items hkind hkind' _ hshared ih =>
    cases hnull with
    | mk hdefault hinside =>
      exact .items hkind hkind' (ih (hinside _ (mem_children_of_item hkind))) ⟨hshared.required,
        hshared.default.trans (keptDefault_eq_self_iff.mpr hdefault), hshared.description⟩
  | properties hkind hkind' hperm _ hshared ih =>
    cases hnull with
    | mk hdefault hinside =>
      exact .properties hkind hkind' hperm (fun name property property' hmem hmem' ↦
        ih name property property' hmem hmem' (hinside _ (mem_children_of_property hkind hmem)))
        ⟨hshared.required, hshared.default.trans (keptDefault_eq_self_iff.mpr hdefault),
          hshared.description⟩

/-- A rule inside has its counterparts in what says the same, in either sense. -/
theorem Matches.exists_child {keep' : Option Json → Option Json} (h : Matches keep rule other)
    (h' : Matches keep' rule other) {child : Rule} (hchild : child ∈ rule.kind.children) :
    ∃ child', Matches keep child child' ∧ Matches keep' child child' := by
  cases h with
  | plain _ hchildren =>
    rw [hchildren] at hchild
    cases hchild
  | items hkind hkind' hitem =>
    rw [hkind] at hchild
    cases List.mem_singleton.mp hchild
    cases h' with
    | plain _ hchildren =>
      rw [hkind] at hchildren
      cases hchildren
    | items hrule hother hitem' =>
      cases hkind.symm.trans hrule
      cases hkind'.symm.trans hother
      exact ⟨_, hitem, hitem'⟩
    | properties hrule => cases hkind.symm.trans hrule
  | properties hkind hkind' hperm hinside =>
    have hproperty := hchild
    rw [hkind] at hproperty
    obtain ⟨⟨name, property⟩, hmem, rfl⟩ := List.mem_map.mp hproperty
    obtain ⟨property', hmem'⟩ := exists_property_of_perm hperm.symm hmem
    cases h' with
    | plain _ hchildren =>
      rw [hchildren] at hchild
      cases hchild
    | items hrule => cases hkind.symm.trans hrule
    | properties hrule hother _ hinside' =>
      cases hkind.symm.trans hrule
      cases hkind'.symm.trans hother
      exact ⟨property', hinside name property property' hmem hmem',
        hinside' name property property' hmem hmem'⟩

theorem Matches.same_iff_neverNull (h : Matches keptDefault rule other) :
    Matches id rule other ↔ rule.NeverNull := by
  refine ⟨fun hsame ↦ ?_, h.of_neverNull⟩
  induction rule using childInduction generalizing other with
  | step rule ih =>
    refine .mk ?_ fun child hchild ↦ ?_
    · exact keptDefault_eq_self_iff.mp (h.shared.default.symm.trans hsame.shared.default)
    · obtain ⟨child', hkept, hsame'⟩ := h.exists_child hsame hchild
      exact ih child hchild hkept hsame'

/-! ### The main theorem -/

theorem writable_of_no_children {rule : Rule} (hwords : rule.kind.WithinWords)
    (hdefault : ∀ v, rule.default = some v → v.IsValue) (hchildren : rule.kind.children = []) :
    rule.Writable := by
  refine .mk hwords hdefault ?_
  rw [hchildren]
  exact nofun

/-- The document of a rule that is built reads back as a rule that says the same save for defaults
that are null. It says quite the same exactly if no default is null, and then lets the same values
through, as the same.

Assumes: settings within words, and defaults that are values. -/
theorem reread_loses_null_defaults (hbuilt : rule.Built) (hwritable : rule.Writable) :
    ∃ back, ofJson? rule.toJson = .ok back ∧ Matches keptDefault rule back ∧
      (Matches id rule back ↔ rule.NeverNull) ∧
      (rule.NeverNull → ∀ (mode : Strictness) (v : Json), v.Sorted → ∀ w,
        back.validate mode v = .ok w ↔ rule.validate mode v = .ok w) := by
  have hdistinct := hbuilt.distinct
  have hacceptable := acceptable_ordered hdistinct hwritable
  have hjson : rule.toTree.ordered.IsJson :=
    Tree.isJson_ofJson (isJson_toTree hdistinct hwritable).isValue
  obtain ⟨back, hback⟩ :=
    (exists_read_iff_acceptable hjson hacceptable.noArrays).mpr hacceptable
  have hmatches : Matches keptDefault rule back :=
    matches_of_carries hdistinct hwritable (carries_of_read hjson hacceptable.noArrays hback)
  refine ⟨back, hback, hmatches, hmatches.same_iff_neverNull, fun hnull mode v hv w ↦ ?_⟩
  exact (hmatches.of_neverNull hnull).check_eq_ok_iff hdistinct (distinct_of_read hback) hv "$"

theorem lamps_reread : lamps.Built ∧ lamps.Writable ∧ lamps.NeverNull ∧
    ∃ back, ofJson? lamps.toJson = .ok back ∧ Matches id lamps back ∧
      back.validate .strict (lampIn 2) = lamps.validate .strict (lampIn 2) := by
  have hchildren : lamps.kind.children = [Rule.string.trimmed.asRequired,
      .arrayOf (Rule.integer.inRange (some 1) none), Rule.boolean.withDefault (.bool false)] := rfl
  have hwritable : lamps.Writable := by
    refine .mk trivial nofun fun child hchild ↦ ?_
    rw [hchildren] at hchild
    simp only [List.mem_cons, List.not_mem_nil, or_false] at hchild
    rcases hchild with rfl | rfl | rfl
    · exact writable_of_no_children ⟨nofun, nofun⟩ nofun rfl
    · refine .mk ⟨nofun, nofun⟩ nofun fun room hroom ↦ ?_
      rw [List.mem_singleton.mp hroom]
      refine writable_of_no_children ⟨?_, nofun⟩ nofun rfl
      rintro _ ⟨⟩
      decide
    · refine writable_of_no_children trivial ?_ rfl
      rintro _ ⟨⟩
      exact .bool false
  have hnull : lamps.NeverNull := by
    refine .mk nofun fun child hchild ↦ ?_
    rw [hchildren] at hchild
    simp only [List.mem_cons, List.not_mem_nil, or_false] at hchild
    rcases hchild with rfl | rfl | rfl
    · exact .mk nofun nofun
    · refine .mk nofun fun room hroom ↦ ?_
      rw [List.mem_singleton.mp hroom]
      exact .mk nofun nofun
    · exact .mk (by simp [withDefault]) nofun
  obtain ⟨back, hback, -, hsame, hpasses⟩ := reread_loses_null_defaults built_lamps hwritable
  refine ⟨built_lamps, hwritable, hnull, back, hback, hsame.mpr hnull, ?_⟩
  have hroom : lamps.validate .strict (lampIn 2) = .ok (.object [("lit", .bool false),
    ("name", .string "hall"), ("rooms", .array [.int 1, .int 2])]) := rfl
  rw [hroom]
  exact (hpasses hnull .strict _ (sorted_lampIn 2) _).mpr hroom

/-- Lamps of which the shade is null where none is given. -/
def shadelessLamps : Rule := .object [("shade", Rule.any.withDefault .null)]

theorem shade_default_lost : shadelessLamps.Built ∧ shadelessLamps.Writable ∧
    ∃ back, ofJson? shadelessLamps.toJson = .ok back ∧ ¬ Matches id shadelessLamps back ∧
      shadelessLamps.validate .strict (.object []) = .ok (.object [("shade", .null)]) ∧
      back.validate .strict (.object []) = .ok (.object []) := by
  have hbuilt : shadelessLamps.Built := by
    refine .object fun name property hmem ↦ ?_
    cases List.mem_singleton.mp hmem
    exact .withDefault _ .any
  have hwritable : shadelessLamps.Writable := by
    refine .mk trivial nofun fun child hchild ↦ ?_
    rw [List.mem_singleton.mp hchild]
    refine writable_of_no_children trivial ?_ rfl
    rintro _ ⟨⟩
    exact .null
  have hdocument : shadelessLamps.toJson = .object [("allowUnknown", .bool false),
      ("properties", .object [("shade", .object [("default", .null), ("required", .bool false),
        ("type", .string "any")])]), ("required", .bool false), ("type", .string "object")] := by
    have hrule : shadelessLamps =
        ⟨.object [("shade", ⟨.any, false, some .null, none⟩)] false, false, none, none⟩ := rfl
    rw [hrule, toJson, toTree, propertiesToTree, toTree, propertiesToTree]
    rfl
  have hback : ofJson? shadelessLamps.toJson = .ok (.object [("shade", any)]) := by
    have hshade : read (.object [("default", .null), ("required", .bool false),
        ("type", .string "any")] .strict) = .ok any := by
      rw [read_object_eq_ok_iff, readMembers_eq_foldlM]
      exact ⟨_, rfl, rfl⟩
    rw [hdocument]
    refine read_object_eq_ok_iff.mpr ?_
    rw [readMembers_eq_foldlM]
    exact ⟨_, bind_eq_ok_iff.mpr ⟨_, rfl, bind_eq_ok_iff.mpr
      ⟨_, Draft.take_property hshade "shade" (by decide), rfl⟩⟩, rfl⟩
  refine ⟨hbuilt, hwritable, _, hback, fun h ↦ ?_, rfl, rfl⟩
  cases h with
  | plain _ hchildren => cases hchildren
  | items hkind => cases hkind
  | properties hkind hkind' _ hinside =>
    cases hkind
    cases hkind'
    cases (hinside "shade" _ _ List.mem_cons_self List.mem_cons_self).shared.default

end SchemaRouting.Rule
