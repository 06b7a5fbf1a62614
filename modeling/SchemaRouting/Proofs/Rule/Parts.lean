import Mathlib.Tactic.ByContra
import Mathlib.Tactic.SplitIfs
import SchemaRouting.Rule.Check
import SchemaRouting.Proofs.Keyed
import SchemaRouting.Proofs.Success

/-!
# The parts of a checked value

The items of an array are checked one after the other, and so are the declared properties of an
object: all pass if each does, and the error is that of the first one that does not. What comes of
the items stands in their places (`getElem?_of_checkItems`), what comes of the properties under
their names in ascending order (`propertyValue_of_checkProperties`), and the undeclared members are
set besides, or the first of them is refused.
-/

set_option autoImplicit false
set_option relaxedAutoImplicit false

namespace SchemaRouting.Rule

/-! ### Items -/

section Items

variable {f : String → Json → Except ValidationError Json} {path : String} {values : List Json}

theorem exists_checkItems_eq_ok (h : ∀ v ∈ values, ∀ place, ∃ w, f place v = .ok w) (path : String)
    (index : Nat) : ∃ ws, checkItems f path index values = .ok ws := by
  induction values generalizing index with
  | nil => exact ⟨[], rfl⟩
  | cons v rest ih =>
    obtain ⟨w, hw⟩ := h v List.mem_cons_self (itemPath path index)
    obtain ⟨ws, hws⟩ := ih (fun u hu ↦ h u (List.mem_cons_of_mem _ hu)) (index + 1)
    refine ⟨w :: ws, ?_⟩
    rw [checkItems]
    exact bind_eq_ok_iff.mpr ⟨w, hw, bind_eq_ok_iff.mpr ⟨ws, hws, rfl⟩⟩

/-- The first item that fails gives the error. -/
theorem checkItems_eq_error {front back : List Json} {v : Json} {e : ValidationError} {index : Nat}
    (hfront : ∀ u ∈ front, ∀ place, ∃ w, f place u = .ok w)
    (hv : f (itemPath path (index + front.length)) v = .error e) :
    checkItems f path index (front ++ v :: back) = .error e := by
  induction front generalizing index with
  | nil =>
    rw [List.nil_append, checkItems]
    exact bind_eq_error_iff.mpr (.inl hv)
  | cons u rest ih =>
    obtain ⟨w, hw⟩ := hfront u List.mem_cons_self (itemPath path index)
    have hplace : index + (u :: rest).length = index + 1 + rest.length := by
      rw [List.length_cons]
      omega
    rw [hplace] at hv
    have hrest := ih (fun t ht ↦ hfront t (List.mem_cons_of_mem _ ht)) hv
    rw [List.cons_append, checkItems]
    exact bind_eq_error_iff.mpr (.inr ⟨w, hw, bind_eq_error_iff.mpr (.inl hrest)⟩)

theorem length_of_checkItems {index : Nat} {ws : List Json}
    (h : checkItems f path index values = .ok ws) : values.length = ws.length := by
  induction values generalizing index ws with
  | nil =>
    cases h
    rfl
  | cons v rest ih =>
    rw [checkItems] at h
    obtain ⟨w, -, h⟩ := bind_eq_ok_iff.mp h
    obtain ⟨others, hothers, h⟩ := bind_eq_ok_iff.mp h
    cases h
    rw [List.length_cons, List.length_cons, ih hothers]

theorem getElem?_of_checkItems {index : Nat} {ws : List Json}
    (h : checkItems f path index values = .ok ws) {i : Nat} {v w : Json} (hv : values[i]? = some v)
    (hw : ws[i]? = some w) : f (itemPath path (index + i)) v = .ok w := by
  induction values generalizing index ws i with
  | nil => cases hv
  | cons u rest ih =>
    rw [checkItems] at h
    obtain ⟨t, ht, h⟩ := bind_eq_ok_iff.mp h
    obtain ⟨others, hothers, h⟩ := bind_eq_ok_iff.mp h
    cases h
    cases i with
    | zero =>
      cases hv
      cases hw
      exact ht
    | succ i =>
      have hplace : index + (i + 1) = index + 1 + i := by omega
      rw [hplace]
      exact ih hothers hv hw

end Items

/-! ### Declared properties -/

section Properties

variable {mode : Strictness} {members : List (String × Json)} {path name : String} {rule : Rule}
  {properties : List (String × Rule)}

/-- What stands in the normalized object for a property: the checked member, or the default. -/
def propertyValue (mode : Strictness) (members : List (String × Json)) (path name : String)
    (rule : Rule) : Except ValidationError (Option Json) :=
  match Keyed.find? name members with
  | some v => (check mode rule (memberPath path name) v).map some
  | none => if rule.required then .error ⟨memberPath path name, .required⟩ else .ok rule.default

theorem checkProperties_cons (mode : Strictness) (members : List (String × Json))
    (path name : String) (rule : Rule) (rest : List (String × Rule)) :
    checkProperties mode members path ((name, rule) :: rest) = (do
      let here ← propertyValue mode members path name rule
      let others ← checkProperties mode members path rest
      return match here with
        | some w => Keyed.insert name w others
        | none => others) := by
  rw [checkProperties.eq_def, propertyValue]
  dsimp only
  cases Keyed.find? name members with
  | some v => rfl
  | none => split_ifs <;> rfl

theorem propertyValue_of_some {v : Json} (h : Keyed.find? name members = some v) :
    propertyValue mode members path name rule =
      (check mode rule (memberPath path name) v).map some := by
  rw [propertyValue, h]

theorem propertyValue_of_none (h : Keyed.find? name members = none) :
    propertyValue mode members path name rule =
      if rule.required then .error ⟨memberPath path name, .required⟩ else .ok rule.default := by
  rw [propertyValue, h]

theorem exists_propertyValue_eq_ok
    (hnone : Keyed.find? name members = none → rule.required = false)
    (hsome : ∀ v, Keyed.find? name members = some v →
      ∃ w, check mode rule (memberPath path name) v = .ok w) :
    ∃ here, propertyValue mode members path name rule = .ok here := by
  cases hfind : Keyed.find? name members with
  | none =>
    rw [propertyValue_of_none hfind, hnone hfind]
    exact ⟨rule.default, rfl⟩
  | some v =>
    obtain ⟨w, hw⟩ := hsome v hfind
    rw [propertyValue_of_some hfind]
    exact ⟨some w, map_eq_ok_iff.mpr ⟨w, hw, rfl⟩⟩

theorem exists_checkProperties_eq_ok
    (h : ∀ name rule, (name, rule) ∈ properties →
      ∃ here, propertyValue mode members path name rule = .ok here) :
    ∃ declared, checkProperties mode members path properties = .ok declared := by
  induction properties with
  | nil => exact ⟨[], by rw [checkProperties]⟩
  | cons property rest ih =>
    obtain ⟨name, rule⟩ := property
    obtain ⟨here, hhere⟩ := h name rule List.mem_cons_self
    obtain ⟨others, hothers⟩ := ih fun key other hmem ↦ h key other (List.mem_cons_of_mem _ hmem)
    rw [checkProperties_cons]
    exact ⟨_, bind_eq_ok_iff.mpr ⟨here, hhere, bind_eq_ok_iff.mpr ⟨others, hothers, rfl⟩⟩⟩

theorem exists_checkProperties_iff :
    (∃ declared, checkProperties mode members path properties = .ok declared) ↔
      ∀ name property, (name, property) ∈ properties →
        ∃ here, propertyValue mode members path name property = .ok here := by
  refine ⟨?_, exists_checkProperties_eq_ok⟩
  induction properties with
  | nil => exact fun _ _ _ ↦ nofun
  | cons entry rest ih =>
    obtain ⟨name, property⟩ := entry
    rintro ⟨declared, hdeclared⟩ key other hmem
    rw [checkProperties_cons] at hdeclared
    obtain ⟨here, hhere, hrest⟩ := bind_eq_ok_iff.mp hdeclared
    obtain ⟨others, hothers, -⟩ := bind_eq_ok_iff.mp hrest
    rcases List.mem_cons.mp hmem with heq | hmem
    · cases heq
      exact ⟨here, hhere⟩
    · exact ih ⟨others, hothers⟩ key other hmem

/-- Only what stands under the declared names is read. -/
theorem checkProperties_congr {others : List (String × Json)}
    (h : ∀ name ∈ Keyed.keys properties, Keyed.find? name others = Keyed.find? name members) :
    checkProperties mode others path properties = checkProperties mode members path properties := by
  induction properties with
  | nil => rw [checkProperties, checkProperties]
  | cons entry rest ih =>
    obtain ⟨name, property⟩ := entry
    have hfirst : propertyValue mode others path name property =
        propertyValue mode members path name property := by
      unfold propertyValue
      rw [h name List.mem_cons_self]
    rw [checkProperties_cons, checkProperties_cons, hfirst,
      ih fun key hkey ↦ h key (List.mem_cons_of_mem _ hkey)]

/-- The first property that fails gives the error. -/
theorem checkProperties_eq_error {front back : List (String × Rule)} {e : ValidationError}
    (hfront : ∀ name rule, (name, rule) ∈ front →
      ∃ here, propertyValue mode members path name rule = .ok here)
    (h : propertyValue mode members path name rule = .error e) :
    checkProperties mode members path (front ++ (name, rule) :: back) = .error e := by
  induction front with
  | nil =>
    rw [List.nil_append, checkProperties_cons]
    exact bind_eq_error_iff.mpr (.inl h)
  | cons property rest ih =>
    obtain ⟨key, other⟩ := property
    obtain ⟨here, hhere⟩ := hfront key other List.mem_cons_self
    have hrest := ih fun key other hmem ↦ hfront key other (List.mem_cons_of_mem _ hmem)
    rw [List.cons_append, checkProperties_cons]
    exact bind_eq_error_iff.mpr (.inr ⟨here, hhere, bind_eq_error_iff.mpr (.inl hrest)⟩)

theorem ascending_of_checkProperties {declared : List (String × Json)}
    (h : checkProperties mode members path properties = .ok declared) :
    Keyed.Ascending declared := by
  induction properties generalizing declared with
  | nil =>
    rw [checkProperties] at h
    cases h
    exact Keyed.ascending_nil
  | cons property rest ih =>
    obtain ⟨name, rule⟩ := property
    rw [checkProperties_cons] at h
    obtain ⟨here, -, h⟩ := bind_eq_ok_iff.mp h
    obtain ⟨others, hothers, h⟩ := bind_eq_ok_iff.mp h
    cases h
    cases here with
    | none => exact ih hothers
    | some w => exact Keyed.ascending_insert (ih hothers) name w

theorem find?_eq_none_of_checkProperties {declared : List (String × Json)}
    (hname : name ∉ Keyed.keys properties)
    (h : checkProperties mode members path properties = .ok declared) :
    Keyed.find? name declared = none := by
  induction properties generalizing declared with
  | nil =>
    rw [checkProperties] at h
    cases h
    rfl
  | cons property rest ih =>
    obtain ⟨key, rule⟩ := property
    have hne : name ≠ key := by
      rintro rfl
      exact hname List.mem_cons_self
    have hrest : name ∉ Keyed.keys rest := fun hmem ↦ hname (List.mem_cons_of_mem _ hmem)
    rw [checkProperties_cons] at h
    obtain ⟨here, -, h⟩ := bind_eq_ok_iff.mp h
    obtain ⟨others, hothers, h⟩ := bind_eq_ok_iff.mp h
    cases h
    cases here with
    | none => exact ih hrest hothers
    | some w =>
      rw [Keyed.find?_insert_of_ne hne]
      exact ih hrest hothers

/-- Assumes: properties that are declared once each. What is found under the name of one is what
comes of it. -/
theorem propertyValue_of_checkProperties {declared : List (String × Json)}
    (hnodup : (Keyed.keys properties).Nodup) (hmem : (name, rule) ∈ properties)
    (h : checkProperties mode members path properties = .ok declared) :
    propertyValue mode members path name rule = .ok (Keyed.find? name declared) := by
  induction properties generalizing declared with
  | nil => cases hmem
  | cons property rest ih =>
    obtain ⟨key, other⟩ := property
    obtain ⟨hkey, hrest⟩ := List.nodup_cons.mp hnodup
    rw [checkProperties_cons] at h
    obtain ⟨here, hhere, h⟩ := bind_eq_ok_iff.mp h
    obtain ⟨others, hothers, h⟩ := bind_eq_ok_iff.mp h
    cases h
    rcases List.mem_cons.mp hmem with heq | hlater
    · cases heq
      rw [hhere]
      cases here with
      | none => rw [find?_eq_none_of_checkProperties hkey hothers]
      | some w => rw [Keyed.find?_insert_self]
    · have hne : name ≠ key := by
        rintro rfl
        exact hkey (Keyed.mem_keys_of_mem hlater)
      rw [ih hrest hlater hothers]
      cases here with
      | none => rfl
      | some w => rw [Keyed.find?_insert_of_ne hne]

/-- A declared property that is not there was not required, and its default stands for it. -/
theorem default_of_checkProperties {declared : List (String × Json)}
    (hnodup : (Keyed.keys properties).Nodup) (hmem : (name, rule) ∈ properties)
    (h : checkProperties mode members path properties = .ok declared)
    (hnone : Keyed.find? name members = none) :
    rule.required = false ∧ Keyed.find? name declared = rule.default := by
  have hvalue := propertyValue_of_checkProperties hnodup hmem h
  rw [propertyValue_of_none hnone] at hvalue
  cases hrequired : rule.required with
  | false =>
    rw [hrequired] at hvalue
    exact ⟨rfl, (Except.ok.inj hvalue).symm⟩
  | true =>
    rw [hrequired] at hvalue
    cases hvalue

/-- A declared property that is there has passed its own rule. -/
theorem checked_of_checkProperties {declared : List (String × Json)} {v : Json}
    (hnodup : (Keyed.keys properties).Nodup) (hmem : (name, rule) ∈ properties)
    (h : checkProperties mode members path properties = .ok declared)
    (hsome : Keyed.find? name members = some v) :
    ∃ w, Keyed.find? name declared = some w ∧ check mode rule (memberPath path name) v = .ok w := by
  have hvalue := propertyValue_of_checkProperties hnodup hmem h
  rw [propertyValue_of_some hsome] at hvalue
  obtain ⟨w, hw, heq⟩ := map_eq_ok_iff.mp hvalue
  exact ⟨w, heq.symm, hw⟩

end Properties

/-! ### Undeclared members -/

section Undeclared

variable {properties : List (String × Rule)} {members : List (String × Json)} {key path : String}
  {allowed : Bool}

def undeclared (properties : List (String × Rule)) (members : List (String × Json)) :
    List (String × Json) :=
  members.filter fun member => !Keyed.contains member.1 properties

theorem find?_undeclared (properties : List (String × Rule)) (members : List (String × Json))
    (key : String) : Keyed.find? key (undeclared properties members) =
      if key ∈ Keyed.keys properties then none else Keyed.find? key members := by
  rw [undeclared, Keyed.find?_filter fun name ↦ !Keyed.contains name properties]
  by_cases h : key ∈ Keyed.keys properties
  · rw [if_pos h, Keyed.contains_iff.mpr h]
    rfl
  · rw [if_neg h, if_pos]
    rw [← Keyed.contains_iff, Bool.not_eq_true] at h
    rw [h]
    rfl

theorem mem_keys_undeclared : key ∈ Keyed.keys (undeclared properties members) ↔
    key ∈ Keyed.keys members ∧ key ∉ Keyed.keys properties := by
  rw [Keyed.mem_keys_iff, find?_undeclared]
  by_cases h : key ∈ Keyed.keys properties
  · simp [h]
  · simp [h, Keyed.mem_keys_iff]

theorem ascending_undeclared (h : Keyed.Ascending members) (properties : List (String × Rule)) :
    Keyed.Ascending (undeclared properties members) :=
  h.filter _

theorem undeclared_eq_nil_iff : undeclared properties members = [] ↔
    ∀ key ∈ Keyed.keys members, key ∈ Keyed.keys properties := by
  constructor
  · intro h key hkey
    by_contra hundeclared
    have hmem : key ∈ Keyed.keys (undeclared properties members) :=
      mem_keys_undeclared.mpr ⟨hkey, hundeclared⟩
    rw [h] at hmem
    cases hmem
  · intro h
    refine List.eq_nil_iff_forall_not_mem.mpr fun member hmember ↦ ?_
    have hkeys := mem_keys_undeclared.mp (Keyed.mem_keys_of_mem hmember)
    exact hkeys.2 (h member.1 hkeys.1)

/-- The undeclared members begin with the one whose key is the least. -/
theorem undeclared_eq_cons_iff (h : Keyed.Ascending members) :
    (∃ v rest, undeclared properties members = (key, v) :: rest) ↔
      key ∈ Keyed.keys members ∧ key ∉ Keyed.keys properties ∧
        ∀ other ∈ Keyed.keys members, other ∉ Keyed.keys properties → key ≤ other := by
  have hascending := ascending_undeclared h properties
  constructor
  · rintro ⟨v, rest, hcons⟩
    have hmem : key ∈ Keyed.keys (undeclared properties members) := by
      rw [hcons]
      exact List.mem_cons_self
    obtain ⟨hkey, hundeclared⟩ := mem_keys_undeclared.mp hmem
    refine ⟨hkey, hundeclared, fun other hother hnot ↦ ?_⟩
    rw [hcons] at hascending
    refine hascending.head_le ?_
    rw [← hcons]
    exact mem_keys_undeclared.mpr ⟨hother, hnot⟩
  · rintro ⟨hkey, hundeclared, hleast⟩
    have hmem : key ∈ Keyed.keys (undeclared properties members) :=
      mem_keys_undeclared.mpr ⟨hkey, hundeclared⟩
    cases hcons : undeclared properties members with
    | nil =>
      rw [hcons] at hmem
      cases hmem
    | cons member rest =>
      obtain ⟨first, v⟩ := member
      have hfirst : first ∈ Keyed.keys (undeclared properties members) := by
        rw [hcons]
        exact List.mem_cons_self
      obtain ⟨hother, hnot⟩ := mem_keys_undeclared.mp hfirst
      have hle : key ≤ first := hleast first hother hnot
      rw [hcons] at hmem hascending
      have hge : first ≤ key := hascending.head_le hmem
      rw [String.le_antisymm hle hge]
      exact ⟨v, rest, rfl⟩

/-- The declared members with the undeclared ones set besides. -/
def withUndeclared (properties : List (String × Rule)) (members declared : List (String × Json)) :
    List (String × Json) :=
  (undeclared properties members).foldl (fun done entry ↦ Keyed.insert entry.1 entry.2 done)
    declared

theorem ascending_withUndeclared {declared : List (String × Json)} (h : Keyed.Ascending declared) :
    Keyed.Ascending (withUndeclared properties members declared) :=
  Keyed.ascending_foldl_insert _ h

theorem find?_withUndeclared_of_mem (h : key ∈ Keyed.keys properties)
    (declared : List (String × Json)) :
    Keyed.find? key (withUndeclared properties members declared) = Keyed.find? key declared :=
  Keyed.find?_foldl_insert_of_notMem (fun hmem ↦ (mem_keys_undeclared.mp hmem).2 h) declared

/-- Assumes: declared members under declared names only. An undeclared name is left to the members.
-/
theorem find?_withUndeclared {declared : List (String × Json)} (hmembers : Keyed.Ascending members)
    (hdeclared : ∀ name, name ∉ Keyed.keys properties → Keyed.find? name declared = none)
    (key : String) : Keyed.find? key (withUndeclared properties members declared) =
      if key ∈ Keyed.keys properties then Keyed.find? key declared
      else Keyed.find? key members := by
  rw [withUndeclared, Keyed.find?_foldl_insert (ascending_undeclared hmembers properties).nodup,
    find?_undeclared]
  by_cases hkey : key ∈ Keyed.keys properties
  · rw [if_pos hkey, if_pos hkey, Option.none_or]
  · rw [if_neg hkey, if_neg hkey, hdeclared key hkey, Option.or_none]

/-- The names that are there: those of the members, and those of the properties that are not
required and have a default. -/
theorem mem_keys_withUndeclared {mode : Strictness} {declared : List (String × Json)}
    (hnodup : (Keyed.keys properties).Nodup) (hmembers : Keyed.Ascending members)
    (h : checkProperties mode members path properties = .ok declared) :
    key ∈ Keyed.keys (withUndeclared properties members declared) ↔ key ∈ Keyed.keys members ∨
      ∃ property, (key, property) ∈ properties ∧ property.required = false ∧
        property.default.isSome = true := by
  have hfind := find?_withUndeclared hmembers fun name hname ↦
    find?_eq_none_of_checkProperties hname h
  rw [Keyed.mem_keys_iff, hfind]
  by_cases hkey : key ∈ Keyed.keys properties
  · obtain ⟨⟨name, property⟩, hmem, rfl⟩ := List.mem_map.mp hkey
    rw [if_pos hkey]
    cases hmember : Keyed.find? name members with
    | none =>
      have hmissing : name ∉ Keyed.keys members := Keyed.find?_eq_none_iff.mp hmember
      constructor
      · rintro ⟨w, hw⟩
        obtain ⟨hrequired, hdefault⟩ := default_of_checkProperties hnodup hmem h hmember
        refine .inr ⟨property, hmem, hrequired, ?_⟩
        rw [← hdefault, hw]
        rfl
      · rintro (hthere | ⟨other, hother, -, hsome⟩)
        · exact absurd hthere hmissing
        · rw [(default_of_checkProperties hnodup hother h hmember).2]
          exact Option.isSome_iff_exists.mp hsome
    | some v =>
      obtain ⟨w, hw, -⟩ := checked_of_checkProperties hnodup hmem h hmember
      exact ⟨fun _ ↦ .inl (Keyed.mem_keys_iff.mpr ⟨v, hmember⟩), fun _ ↦ ⟨w, hw⟩⟩
  · rw [if_neg hkey, ← Keyed.mem_keys_iff]
    refine ⟨.inl, ?_⟩
    rintro (hthere | ⟨property, hmem, -, -⟩)
    · exact hthere
    · exact absurd (Keyed.mem_keys_of_mem hmem) hkey

theorem copyUndeclared_of_allowed (path : String) (normalized added : List (String × Json)) :
    copyUndeclared true path normalized added =
      .ok (added.foldl (fun done entry ↦ Keyed.insert entry.1 entry.2 done) normalized) := by
  induction added generalizing normalized with
  | nil => rfl
  | cons member rest ih => exact ih (Keyed.insert member.1 member.2 normalized)

/-- Undeclared members are set where they are allowed, or where there are none. -/
theorem copyUndeclared_eq_ok (h : allowed = true ∨ undeclared properties members = [])
    (path : String) (declared : List (String × Json)) :
    copyUndeclared allowed path declared (undeclared properties members) =
      .ok (withUndeclared properties members declared) := by
  rcases h with rfl | hnil
  · exact copyUndeclared_of_allowed path declared _
  · rw [withUndeclared, hnil]
    rfl

theorem copyUndeclared_eq_ok_iff {declared normalized : List (String × Json)} :
    copyUndeclared allowed path declared (undeclared properties members) = .ok normalized ↔
      (allowed = true ∨ undeclared properties members = []) ∧
        normalized = withUndeclared properties members declared := by
  constructor
  · intro h
    have hallowed : allowed = true ∨ undeclared properties members = [] := by
      cases hrest : undeclared properties members with
      | nil => exact .inr rfl
      | cons member rest =>
        rw [hrest, copyUndeclared] at h
        split_ifs at h with hallowed
        exact .inl hallowed
    rw [copyUndeclared_eq_ok hallowed] at h
    exact ⟨hallowed, (Except.ok.inj h).symm⟩
  · rintro ⟨hallowed, rfl⟩
    exact copyUndeclared_eq_ok hallowed path declared

end Undeclared

end SchemaRouting.Rule
