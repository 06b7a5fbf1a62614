import SchemaRouting.Proofs.Json.Sorted

/-!
# Documents that are JSON values

A JSON value is written down as a tree in which every array and object ends, no key stands twice in
an object, and every number is finite (`Tree.IsJson`). Such a tree stands for a value
(`Tree.IsJson.toJson?_eq`), and a value whose members are in the order of their keys
(`Json.IsValue`) is the value of its own tree (`Tree.toJson?_ofJson`). A tree with its members put
in that order (`Tree.ordered`) has the same members, each of them in order
(`Tree.find?_orderedMembers`).
-/

set_option autoImplicit false
set_option relaxedAutoImplicit false

namespace SchemaRouting

/-- A tree in which nothing is amiss, and each key of an object stands once. -/
inductive Tree.IsJson : Tree → Prop
  | null : IsJson .null
  | bool (b : Bool) : IsJson (.bool b)
  | int (n : Int) : IsJson (.number (.int n))
  | float {x : Float} : x.isFinite = true → IsJson (.number (.float x))
  | string (s : String) : IsJson (.string s)
  | array {items : List Tree} : (∀ t ∈ items, IsJson t) → IsJson (.array items .strict)
  | object {members : List (String × Tree)} : (Keyed.keys members).Nodup →
    (∀ key t, (key, t) ∈ members → IsJson t) → IsJson (.object members .strict)

/-- A value of finite numbers in which the members of objects are in the order of their keys. -/
inductive Json.IsValue : Json → Prop
  | null : IsValue .null
  | bool (b : Bool) : IsValue (.bool b)
  | int (n : Int) : IsValue (.number (.int n))
  | float {x : Float} : x.isFinite = true → IsValue (.number (.float x))
  | string (s : String) : IsValue (.string s)
  | array {items : List Json} : (∀ v ∈ items, IsValue v) → IsValue (.array items)
  | object {members : List (String × Json)} : Keyed.Ascending members →
    (∀ key v, (key, v) ∈ members → IsValue v) → IsValue (.object members)

theorem Json.isValue_object_iff {members : List (String × Json)} : (Json.object members).IsValue ↔
    Keyed.Ascending members ∧ ∀ key v, (key, v) ∈ members → v.IsValue := by
  constructor
  · intro h
    cases h with
    | object hascending hmembers => exact ⟨hascending, hmembers⟩
  · exact fun ⟨hascending, hmembers⟩ ↦ .object hascending hmembers

namespace Tree

/-! ### The value of a tree -/

/-- The value that a tree stands for, if it does for one. -/
def value (t : Tree) : Json := t.toJson?.getD .null

theorem IsJson.items {items : List Tree} (h : IsJson (.array items .strict)) :
    ∀ t ∈ items, t.IsJson := by
  cases h with
  | array hitems => exact hitems

theorem isJson_array_iff {items : List Tree} :
    IsJson (.array items .strict) ↔ ∀ t ∈ items, t.IsJson :=
  ⟨IsJson.items, .array⟩

section Members

variable {entries : List (String × Tree)}

theorem IsJson.nodup (h : IsJson (.object entries .strict)) : (Keyed.keys entries).Nodup := by
  cases h with
  | object hnodup _ => exact hnodup

theorem IsJson.members (h : IsJson (.object entries .strict)) :
    ∀ key t, (key, t) ∈ entries → t.IsJson := by
  cases h with
  | object _ hmembers => exact hmembers

theorem isJson_object_iff : IsJson (.object entries .strict) ↔
    (Keyed.keys entries).Nodup ∧ ∀ key t, (key, t) ∈ entries → t.IsJson :=
  ⟨fun h ↦ ⟨h.nodup, h.members⟩, fun ⟨hnodup, hmembers⟩ ↦ .object hnodup hmembers⟩

theorem IsJson.of_find? (h : IsJson (.object entries .strict)) {key : String} {t : Tree}
    (hfind : Keyed.find? key entries = some t) : t.IsJson :=
  h.members key t (Keyed.mem_of_find? hfind)

theorem membersToJson?_eq (h : ∀ key t, (key, t) ∈ entries → t.toJson? = some t.value) :
    membersToJson? entries = some (entries.map fun member ↦ (member.1, member.2.value)) := by
  induction entries with
  | nil => rfl
  | cons member rest ih =>
    obtain ⟨key, t⟩ := member
    rw [membersToJson?, h key t List.mem_cons_self,
      ih fun other s hs ↦ h other s (List.mem_cons_of_mem _ hs)]
    rfl

end Members

theorem itemsToJson?_eq {items : List Tree} (h : ∀ t ∈ items, t.toJson? = some t.value) :
    itemsToJson? items = some (items.map value) := by
  induction items with
  | nil => rfl
  | cons t rest ih =>
    rw [itemsToJson?, h t List.mem_cons_self, ih fun s hs ↦ h s (List.mem_cons_of_mem _ hs)]
    rfl

theorem IsJson.toJson?_eq {t : Tree} (h : t.IsJson) : t.toJson? = some t.value := by
  induction h with
  | null | bool b | int n | string s => rfl
  | float hx => simp [value, toJson?]
  | array _ ih =>
    rw [value, toJson?, itemsToJson?_eq ih]
    rfl
  | object _ _ ih =>
    rw [value, toJson?, membersToJson?_eq ih]
    rfl

theorem value_object {members : List (String × Tree)} (h : IsJson (.object members .strict)) :
    (object members .strict).value =
      .ofMembers (members.map fun member ↦ (member.1, member.2.value)) := by
  rw [value, toJson?, membersToJson?_eq fun key t hmem ↦ (h.members key t hmem).toJson?_eq]
  rfl

theorem IsJson.strict?_eq {t : Tree} (h : t.IsJson) : t.strict? = some t := by
  have hitems : ∀ {items : List Tree}, (∀ t ∈ items, t.strict? = some t) →
      strictItems? items = some items := by
    intro items
    induction items with
    | nil => exact fun _ ↦ rfl
    | cons t rest ih =>
      intro h
      rw [strictItems?, h t List.mem_cons_self, ih fun s hs ↦ h s (List.mem_cons_of_mem _ hs)]
  have hmembers : ∀ {members : List (String × Tree)},
      (∀ key t, (key, t) ∈ members → t.strict? = some t) →
      strictMembers? members = some members := by
    intro members
    induction members with
    | nil => exact fun _ ↦ rfl
    | cons member rest ih =>
      obtain ⟨key, t⟩ := member
      intro h
      rw [strictMembers?, h key t List.mem_cons_self,
        ih fun other s hs ↦ h other s (List.mem_cons_of_mem _ hs)]
  induction h with
  | null | bool b | int n | string s => rfl
  | float hx => rfl
  | array _ ih =>
    rw [strict?, hitems ih]
    rfl
  | object _ _ ih =>
    rw [strict?, hmembers ih]
    rfl

/-! ### The tree of a value -/

theorem itemsOfJson_eq_map (items : List Json) : itemsOfJson items = items.map ofJson := by
  induction items with
  | nil => rfl
  | cons v rest ih => rw [itemsOfJson, ih, List.map_cons]

theorem membersOfJson_eq_map (members : List (String × Json)) :
    membersOfJson members = members.map fun member ↦ (member.1, ofJson member.2) := by
  induction members with
  | nil => rfl
  | cons member rest ih => rw [membersOfJson, ih, List.map_cons]

theorem keys_membersOfJson (members : List (String × Json)) :
    Keyed.keys (membersOfJson members) = Keyed.keys members := by
  rw [membersOfJson_eq_map, Keyed.keys, List.map_map]
  rfl

theorem isJson_ofJson {v : Json} (h : v.IsValue) : (ofJson v).IsJson := by
  induction h with
  | null => exact .null
  | bool b => exact .bool b
  | int n => exact .int n
  | float hx => exact .float hx
  | string s => exact .string s
  | array _ ih =>
    rw [ofJson, itemsOfJson_eq_map]
    refine .array fun t ht ↦ ?_
    obtain ⟨v, hv, rfl⟩ := List.mem_map.mp ht
    exact ih v hv
  | object hascending _ ih =>
    rw [ofJson]
    refine .object ?_ fun key t ht ↦ ?_
    · rw [keys_membersOfJson]
      exact hascending.nodup
    · rw [membersOfJson_eq_map] at ht
      obtain ⟨⟨name, v⟩, hv, heq⟩ := List.mem_map.mp ht
      cases heq
      exact ih name v hv

theorem value_ofJson_of_toJson? {v : Json} (h : (ofJson v).toJson? = some v) :
    (ofJson v).value = v := by
  rw [value, h]
  rfl

/-- A value is that of its own tree. -/
theorem toJson?_ofJson {v : Json} (h : v.IsValue) : (ofJson v).toJson? = some v := by
  induction h with
  | null | bool b | int n | string s => rfl
  | float hx => simp [ofJson, toJson?, hx]
  | @array items _ ih =>
    have hitems : ∀ t ∈ items.map ofJson, t.toJson? = some t.value := by
      intro t ht
      obtain ⟨v, hv, rfl⟩ := List.mem_map.mp ht
      rw [value_ofJson_of_toJson? (ih v hv)]
      exact ih v hv
    have hsame : (items.map ofJson).map value = items := by
      rw [List.map_map]
      refine (List.map_congr_left fun v hv ↦ ?_).trans (List.map_id items)
      exact value_ofJson_of_toJson? (ih v hv)
    rw [ofJson, toJson?, itemsOfJson_eq_map, itemsToJson?_eq hitems, hsame]
    rfl
  | @object members hascending _ ih =>
    have hmembers : ∀ key t, (key, t) ∈ membersOfJson members → t.toJson? = some t.value := by
      intro key t ht
      rw [membersOfJson_eq_map] at ht
      obtain ⟨⟨name, v⟩, hv, heq⟩ := List.mem_map.mp ht
      cases heq
      rw [value_ofJson_of_toJson? (ih name v hv)]
      exact ih name v hv
    have hsame : ((membersOfJson members).map fun member ↦ (member.1, member.2.value)) =
        members := by
      rw [membersOfJson_eq_map, List.map_map]
      refine (List.map_congr_left fun member hmem ↦ ?_).trans (List.map_id members)
      exact Prod.ext rfl (value_ofJson_of_toJson? (ih member.1 member.2 hmem))
    rw [ofJson, toJson?, membersToJson?_eq hmembers, hsame]
    simp [Ending.isRead, Json.ofMembers, hascending.sorted_eq]

theorem value_ofJson {v : Json} (h : v.IsValue) : (ofJson v).value = v :=
  value_ofJson_of_toJson? (toJson?_ofJson h)

/-! ### Members in the order of their keys -/

/-- A tree with the members of its objects in the order of their keys. -/
def ordered (t : Tree) : Tree := ofJson t.value

theorem ordered_ofJson {v : Json} (h : v.IsValue) : (ofJson v).ordered = ofJson v := by
  rw [ordered, value_ofJson h]

theorem IsJson.isValue {t : Tree} (h : t.IsJson) : t.value.IsValue := by
  induction h with
  | null => exact .null
  | bool b => exact .bool b
  | int n => exact .int n
  | float hx =>
    rw [value, toJson?, if_pos hx]
    exact .float hx
  | string s => exact .string s
  | @array items hitems ih =>
    rw [value, toJson?, itemsToJson?_eq fun t ht ↦ (hitems t ht).toJson?_eq]
    refine .array fun v hv ↦ ?_
    obtain ⟨t, ht, rfl⟩ := List.mem_map.mp hv
    exact ih t ht
  | @object members hnodup hmembers ih =>
    rw [value_object (.object hnodup hmembers)]
    refine .object (Keyed.ascending_sorted _) fun key v hv ↦ ?_
    rw [Keyed.mem_sorted_iff (by rw [Keyed.keys_map_values]; exact hnodup)] at hv
    obtain ⟨⟨name, t⟩, ht, heq⟩ := List.mem_map.mp hv
    cases heq
    exact ih name t ht

/-- The members of an object in the order of their keys, each of them in order itself. -/
def orderedMembers (members : List (String × Tree)) : List (String × Tree) :=
  membersOfJson (Keyed.sorted (members.map fun member ↦ (member.1, member.2.value)))

section OrderedMembers

variable {entries : List (String × Tree)}

theorem ordered_object (h : IsJson (.object entries .strict)) :
    (object entries .strict).ordered = object (orderedMembers entries) .strict := by
  rw [ordered, value_object h]
  rfl

theorem find?_orderedMembers (h : (Keyed.keys entries).Nodup) (key : String) :
    Keyed.find? key (orderedMembers entries) = (Keyed.find? key entries).map ordered := by
  rw [orderedMembers, membersOfJson_eq_map, Keyed.find?_map_values,
    Keyed.find?_sorted (by rw [Keyed.keys_map_values]; exact h), Keyed.find?_map_values,
    Option.map_map]
  rfl

theorem mem_orderedMembers_iff (h : (Keyed.keys entries).Nodup) {member : String × Tree} :
    member ∈ orderedMembers entries ↔ ∃ t, (member.1, t) ∈ entries ∧ member.2 = t.ordered := by
  have hkeys : (Keyed.keys (entries.map fun entry ↦ (entry.1, entry.2.value))).Nodup := by
    rw [Keyed.keys_map_values]
    exact h
  rw [orderedMembers, membersOfJson_eq_map, List.mem_map]
  constructor
  · rintro ⟨⟨name, v⟩, hv, rfl⟩
    obtain ⟨⟨key, t⟩, ht, heq⟩ := List.mem_map.mp ((Keyed.mem_sorted_iff hkeys).mp hv)
    cases heq
    exact ⟨t, ht, rfl⟩
  · rintro ⟨t, ht, hsame⟩
    refine ⟨(member.1, t.value), (Keyed.mem_sorted_iff hkeys).mpr ?_, ?_⟩
    · exact List.mem_map.mpr ⟨(member.1, t), ht, rfl⟩
    · rw [← ordered, ← hsame]

theorem nodup_keys_orderedMembers (entries : List (String × Tree)) :
    (Keyed.keys (orderedMembers entries)).Nodup := by
  rw [orderedMembers, keys_membersOfJson]
  exact (Keyed.ascending_sorted _).nodup

theorem mem_keys_orderedMembers_iff (h : (Keyed.keys entries).Nodup) {key : String} :
    key ∈ Keyed.keys (orderedMembers entries) ↔ key ∈ Keyed.keys entries := by
  rw [← Keyed.contains_iff, ← Keyed.contains_iff, Keyed.contains, Keyed.contains,
    find?_orderedMembers h, Option.isSome_map]

end OrderedMembers

end Tree

end SchemaRouting
