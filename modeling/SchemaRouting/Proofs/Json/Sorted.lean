import Mathlib.Tactic.SplitIfs
import SchemaRouting.Request
import SchemaRouting.Proofs.Keyed
import SchemaRouting.Proofs.Success

/-!
# Values with sorted members

A JSON value is sorted if every object in it has its members in ascending order of their keys, each
key once (`Json.Sorted`). Every value that is read is sorted: one that a document tree stands for
(`Tree.sorted_of_toJson?`), one that a text says (`Json.sorted_of_parse`), and the body of every
request, be it JSON, a form or plain text (`Request.sorted_of_readBody`).
-/

set_option autoImplicit false
set_option relaxedAutoImplicit false

namespace SchemaRouting

/-- Every object in a value has its members in ascending order of their keys. -/
inductive Json.Sorted : Json → Prop
  | null : Sorted .null
  | bool (b : Bool) : Sorted (.bool b)
  | number (n : Json.Number) : Sorted (.number n)
  | string (s : String) : Sorted (.string s)
  | array {items : List Json} : (∀ v ∈ items, Sorted v) → Sorted (.array items)
  | object {members : List (String × Json)} : Keyed.Ascending members →
    (∀ key v, (key, v) ∈ members → Sorted v) → Sorted (.object members)

namespace Json

theorem Sorted.items {items : List Json} (h : (Json.array items).Sorted) :
    ∀ v ∈ items, v.Sorted := by
  cases h with
  | array hitems => exact hitems

theorem Sorted.ascending {members : List (String × Json)} (h : (Json.object members).Sorted) :
    Keyed.Ascending members := by
  cases h with
  | object hascending _ => exact hascending

theorem Sorted.of_find? {members : List (String × Json)} (h : (Json.object members).Sorted)
    {key : String} {v : Json} (hfind : Keyed.find? key members = some v) : v.Sorted := by
  cases h with
  | object _ hmembers => exact hmembers key v (Keyed.mem_of_find? hfind)

/-- Setting a member of a sorted object leaves it sorted. -/
theorem Sorted.insert {members : List (String × Json)} (h : (Json.object members).Sorted)
    (key : String) {v : Json} (hv : v.Sorted) :
    (Json.object (Keyed.insert key v members)).Sorted := by
  refine .object (Keyed.ascending_insert h.ascending key v) fun other w hmem ↦ ?_
  have hfind := Keyed.find?_of_mem (Keyed.ascending_insert h.ascending key v).nodup hmem
  rw [Keyed.find?_insert] at hfind
  by_cases hkey : other = key
  · rw [if_pos hkey] at hfind
    cases hfind
    exact hv
  · rw [if_neg hkey] at hfind
    exact h.of_find? hfind

theorem sorted_empty : (object []).Sorted := .object Keyed.ascending_nil nofun

theorem sorted_ofMembers {members : List (String × Json)}
    (h : ∀ key v, (key, v) ∈ members → v.Sorted) : (ofMembers members).Sorted := by
  have hfold : ∀ {done : List (String × Json)}, (object done).Sorted →
      (object
        (members.foldl (fun done entry => Keyed.insert entry.1 entry.2 done) done)).Sorted := by
    induction members with
    | nil => exact id
    | cons member rest ih =>
      intro done hdone
      exact ih (fun key v hmem ↦ h key v (List.mem_cons_of_mem _ hmem))
        (hdone.insert member.1 (h member.1 member.2 List.mem_cons_self))
  exact hfold sorted_empty

end Json

/-! ### Values that are read -/

namespace Tree

mutual

theorem sorted_of_toJson? : ∀ {t : Tree} {v : Json}, t.toJson? = some v → v.Sorted
  | .null, v, h => by
    cases h
    exact .null
  | .bool b, v, h => by
    cases h
    exact .bool b
  | .number n, v, h => by
    cases n with
    | int n =>
      cases h
      exact .number _
    | float x =>
      rw [toJson?] at h
      cases h
      by_cases hx : x.isFinite = true
      · rw [if_pos hx]
        exact .number _
      · rw [if_neg hx]
        exact .null
  | .string s, v, h => by
    cases h
    exact .string s
  | .date s, v, h => by
    cases h
    refine Json.sorted_ofMembers fun key v hmem ↦ ?_
    cases List.mem_singleton.mp hmem
    exact .string s
  | .array items ending, v, h => by
    rw [toJson?] at h
    by_cases hread : ending.isRead = true
    · rw [if_pos hread] at h
      obtain ⟨values, hvalues, rfl⟩ := Option.map_eq_some_iff.mp h
      exact .array (sorted_of_itemsToJson? hvalues)
    · rw [if_neg hread] at h
      cases h
  | .object members ending, v, h => by
    rw [toJson?] at h
    by_cases hread : ending.isRead = true
    · rw [if_pos hread] at h
      obtain ⟨values, hvalues, rfl⟩ := Option.map_eq_some_iff.mp h
      exact Json.sorted_ofMembers (sorted_of_membersToJson? hvalues)
    · rw [if_neg hread] at h
      cases h
  | .broken, v, h => by cases h

theorem sorted_of_itemsToJson? : ∀ {items : List Tree} {values : List Json},
    itemsToJson? items = some values → ∀ v ∈ values, v.Sorted
  | [], values, h => by
    cases h
    exact nofun
  | t :: rest, values, h => by
    rw [itemsToJson?] at h
    cases ht : t.toJson? with
    | none =>
      rw [ht] at h
      cases h
    | some first =>
      cases hrest : itemsToJson? rest with
      | none =>
        rw [ht, hrest] at h
        cases h
      | some others =>
        rw [ht, hrest] at h
        cases h
        intro v hv
        rcases List.mem_cons.mp hv with rfl | hv
        · exact sorted_of_toJson? ht
        · exact sorted_of_itemsToJson? hrest v hv

theorem sorted_of_membersToJson? : ∀ {members : List (String × Tree)}
    {values : List (String × Json)}, membersToJson? members = some values →
    ∀ key v, (key, v) ∈ values → v.Sorted
  | [], values, h => by
    cases h
    exact nofun
  | (name, t) :: rest, values, h => by
    rw [membersToJson?] at h
    cases ht : t.toJson? with
    | none =>
      rw [ht] at h
      cases h
    | some first =>
      cases hrest : membersToJson? rest with
      | none =>
        rw [ht, hrest] at h
        cases h
      | some others =>
        rw [ht, hrest] at h
        cases h
        intro key v hmem
        rcases List.mem_cons.mp hmem with heq | hmem
        · cases heq
          exact sorted_of_toJson? ht
        · exact sorted_of_membersToJson? hrest key v hmem

end

end Tree

theorem Json.sorted_of_parse {text : String} {v : Json} (h : Json.parse text = some v) :
    v.Sorted := by
  rw [Json.parse] at h
  generalize Json.readTree text = read at h
  obtain ⟨t, isWhole⟩ := read
  cases isWhole with
  | false => cases h
  | true => exact Tree.sorted_of_toJson? h

theorem Http.sorted_addPair {members : List (String × Json)} (h : (Json.object members).Sorted)
    (pair : String × String) : (Json.object (Http.addPair members pair)).Sorted := by
  obtain ⟨key, value⟩ := pair
  rw [Http.addPair]
  cases hfind : Keyed.find? key members with
  | none => exact h.insert key (.string value)
  | some first =>
    have hfirst : first.Sorted := h.of_find? hfind
    have hpair : (Json.array [first, .string value]).Sorted := by
      refine .array fun v hv ↦ ?_
      rcases List.mem_cons.mp hv with rfl | hv
      · exact hfirst
      · rw [List.mem_singleton.mp hv]
        exact .string value
    cases first with
    | array values =>
      refine h.insert key (.array fun v hv ↦ ?_)
      rcases List.mem_append.mp hv with hv | hv
      · exact hfirst.items v hv
      · rw [List.mem_singleton.mp hv]
        exact .string value
    | null => exact h.insert key hpair
    | bool b => exact h.insert key hpair
    | number n => exact h.insert key hpair
    | string s => exact h.insert key hpair
    | object members => exact h.insert key hpair

theorem Http.sorted_decodeForm (bytes : List UInt8) :
    (Json.object (Http.decodeForm bytes)).Sorted := by
  have hfold : ∀ (pairs : List (String × String)) {members : List (String × Json)},
      (Json.object members).Sorted → (Json.object (pairs.foldl Http.addPair members)).Sorted := by
    intro pairs
    induction pairs with
    | nil => exact id
    | cons pair rest ih =>
      intro members h
      exact ih (Http.sorted_addPair h pair)
  exact hfold (Http.pairs bytes) Json.sorted_empty

/-- The body of a request is sorted when it has been read. -/
theorem Request.sorted_of_readBody {mediaType : Option String} {bytes : List UInt8} {body : Json}
    (h : Request.readBody mediaType bytes = .ok body) : body.Sorted := by
  rw [Request.readBody] at h
  split_ifs at h
  · cases h
    exact Json.sorted_empty
  · cases hparse : (Text.ofUtf8? bytes).bind Json.parse with
    | none =>
      rw [hparse] at h
      cases h
    | some v =>
      rw [hparse] at h
      cases h
      obtain ⟨text, -, htext⟩ := Option.bind_eq_some_iff.mp hparse
      exact Json.sorted_of_parse htext
  · cases h
    exact Http.sorted_decodeForm bytes
  · cases h
    exact .string _

end SchemaRouting
