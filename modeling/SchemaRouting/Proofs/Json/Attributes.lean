import SchemaRouting.Principal
import SchemaRouting.Proofs.Json.Records
import SchemaRouting.Proofs.Json.Values

/-!
# The attributes of a principal

A principal has four attributes of its own, which are texts, and any others under their keys. Its
own attributes and the others never share a key: what is read under one of the four keys is set as
that attribute, and what is read under another key is kept as it is (`Tells`). Each member that is
read keeps the two in step (`Tells.readMember`), so a document that is read tells its principal
(`tells_of_read`). An object tells no more than one principal (`Tells.unique`), and is read as the
one that it tells (`read_ofJson_eq_ok_iff`).

An attribute that is not set is not written. So a principal is written as the object that it was
read from, without those of the four keys that stood for nothing, and is read from that again
(`attributes_kept_and_reread`).
-/

set_option autoImplicit false
set_option relaxedAutoImplicit false

namespace SchemaRouting.Principal

/-! ### The four attributes -/

/-- The attributes of a principal's own. -/
inductive Attribute
  | id
  | firstName
  | lastName
  | email

namespace Attribute

/-- The key under which an attribute is written. -/
def key : Attribute → String
  | id => "id"
  | firstName => "firstName"
  | lastName => "lastName"
  | email => "email"

def get : Attribute → Principal → Option String
  | id, p => p.id
  | firstName, p => p.firstName
  | lastName, p => p.lastName
  | email, p => p.email

def set : Attribute → Option String → Principal → Principal
  | id, value, p => { p with id := value }
  | firstName, value, p => { p with firstName := value }
  | lastName, value, p => { p with lastName := value }
  | email, value, p => { p with email := value }

/-- The four attributes in the order in which they are written. -/
def all : List Attribute := [id, firstName, lastName, email]

end Attribute

/-- The keys of the four attributes. -/
def ownKeys : List String := Attribute.all.map Attribute.key

variable {a b : Attribute} {p p' : Principal} {key : String} {t : Tree} {seen seen' : List String}
  {members : List (String × Json)}

namespace Attribute

theorem key_injective (h : a.key = b.key) : a = b := by
  cases a <;> cases b <;> first | rfl | exact absurd h (by decide)

theorem mem_all (a : Attribute) : a ∈ all := by
  cases a <;> simp [all]

theorem key_mem_ownKeys (a : Attribute) : a.key ∈ ownKeys :=
  List.mem_map_of_mem a.mem_all

@[simp] theorem get_set_self (a : Attribute) (value : Option String) (p : Principal) :
    a.get (a.set value p) = value := by
  cases a <;> rfl

theorem get_set_of_ne (h : b ≠ a) (value : Option String) (p : Principal) :
    b.get (a.set value p) = b.get p := by
  cases a <;> cases b <;> first | rfl | exact absurd rfl h

@[simp] theorem extra_set (a : Attribute) (value : Option String) (p : Principal) :
    (a.set value p).extra = p.extra := by
  cases a <;> rfl

end Attribute

theorem exists_key_eq_of_mem_ownKeys (h : key ∈ ownKeys) : ∃ a : Attribute, a.key = key := by
  obtain ⟨a, -, ha⟩ := List.mem_map.mp h
  exact ⟨a, ha⟩

/-- Principals of the same attributes are the same. -/
theorem eq_of_attributes (h : ∀ a : Attribute, a.get p = a.get p') (hextra : p.extra = p'.extra) :
    p = p' := by
  obtain ⟨pid, first, last, email, extra⟩ := p
  obtain ⟨pid', first', last', email', extra'⟩ := p'
  obtain rfl : pid = pid' := h .id
  obtain rfl : first = first' := h .firstName
  obtain rfl : last = last' := h .lastName
  obtain rfl : email = email' := h .email
  obtain rfl : extra = extra' := hextra
  rfl

/-! ### Reading a member -/

theorem readMember_of_mem_seen (h : key ∈ seen) (p : Principal) (t : Tree) :
    readMember (seen, p) key t = .error (.duplicateField key) := by
  unfold readMember
  simp [h, throw, throwThe, MonadExceptOf.throw, bind, Except.bind]

theorem readMember_key (h : a.key ∉ seen) (p : Principal) (t : Tree) :
    readMember (seen, p) a.key t = (t.readOptional Tree.readString).map fun value ↦
      (a.key :: seen, a.set value p) := by
  have hnew : seen.contains a.key = false := by simpa using h
  unfold readMember
  cases a with
  | id | firstName | lastName | email =>
    rw [Attribute.key] at hnew
    simp only [Attribute.key, hnew]
    cases t.readOptional Tree.readString <;> rfl

theorem readMember_other (h : key ∉ seen) (hother : key ∉ ownKeys) (p : Principal) (t : Tree) :
    readMember (seen, p) key t = t.readJson.map fun v ↦
      (seen, { p with extra := Keyed.insert key v p.extra }) := by
  have hnew : seen.contains key = false := by simpa using h
  unfold readMember
  simp only [hnew, Bool.false_eq_true, if_false]
  split
  · exact absurd (Attribute.key_mem_ownKeys .id) hother
  · exact absurd (Attribute.key_mem_ownKeys .firstName) hother
  · exact absurd (Attribute.key_mem_ownKeys .lastName) hother
  · exact absurd (Attribute.key_mem_ownKeys .email) hother
  · cases t.readJson <;> rfl

/-! ### What a principal tells -/

/-- A principal tells what members do: under the key of each of its own attributes stands the text
of that attribute, and null or nothing if it is not set; and the others are the members under all
other keys. -/
structure Tells (p : Principal) (members : List (String × Json)) : Prop where
  own : ∀ a : Attribute, (Keyed.find? a.key members).getD .null = (a.get p).elim .null .string
  ascending : Keyed.Ascending p.extra
  other : ∀ key, Keyed.find? key p.extra =
    if key ∈ ownKeys then none else Keyed.find? key members

theorem tells_empty : Tells empty [] where
  own a := by cases a <;> rfl
  ascending := Keyed.ascending_nil
  other key := by simp [empty]

theorem elim_null_string_injective {value value' : Option String}
    (h : value.elim Json.null .string = value'.elim Json.null .string) : value = value' := by
  cases value <;> cases value' <;> simp_all

/-- Members are told by one principal at most. -/
theorem Tells.unique (h : Tells p members) (h' : Tells p' members) : p = p' := by
  apply eq_of_attributes
  · intro a
    apply elim_null_string_injective
    rw [← h.own, ← h'.own]
  · exact h.ascending.ext h'.ascending fun key ↦ by rw [h.other, h'.other]

/-- An own attribute that is set under its key. -/
theorem Tells.set (h : Tells p members) (a : Attribute) (value : Option String) :
    Tells (a.set value p) (Keyed.insert a.key (value.elim .null .string) members) where
  own b := by
    by_cases hb : b = a
    · subst hb
      rw [Keyed.find?_insert_self, Attribute.get_set_self]
      rfl
    · rw [Keyed.find?_insert_of_ne (mt Attribute.key_injective hb), Attribute.get_set_of_ne hb,
        h.own]
  ascending := by
    rw [Attribute.extra_set]
    exact h.ascending
  other key := by
    rw [Attribute.extra_set, h.other]
    by_cases hkey : key ∈ ownKeys
    · rw [if_pos hkey, if_pos hkey]
    · have hne : key ≠ a.key := fun heq ↦ hkey (heq ▸ a.key_mem_ownKeys)
      rw [if_neg hkey, if_neg hkey, Keyed.find?_insert_of_ne hne]

/-- Another attribute that is kept under its key. -/
theorem Tells.keep (h : Tells p members) (hkey : key ∉ ownKeys) (v : Json) :
    Tells { p with extra := Keyed.insert key v p.extra } (Keyed.insert key v members) where
  own a := by
    have hne : a.key ≠ key := fun heq ↦ hkey (heq ▸ a.key_mem_ownKeys)
    rw [Keyed.find?_insert_of_ne hne, h.own]
    cases a <;> rfl
  ascending := Keyed.ascending_insert h.ascending key v
  other other := by
    show Keyed.find? other (Keyed.insert key v p.extra) = _
    rw [Keyed.find?_insert, Keyed.find?_insert]
    by_cases hother : other = key
    · subst hother
      rw [if_pos rfl, if_pos rfl, if_neg hkey]
    · rw [if_neg hother, if_neg hother, h.other]

/-! ### Reading -/

/-- A text or null is the value of the attribute that it is read as. -/
theorem toJson?_of_readOptional {value : Option String}
    (h : t.readOptional Tree.readString = .ok value) :
    t.toJson? = some (value.elim .null .string) := by
  rcases Tree.readOptional_eq_ok_iff.mp h with ⟨rfl, rfl⟩ | ⟨-, s, hs, rfl⟩
  · rfl
  · obtain rfl := Tree.readString_eq_ok_iff.mp hs
    rfl

/-- Reading a member keeps the principal in step with the members read so far. -/
theorem Tells.readMember (h : Tells p members)
    (hread : Principal.readMember (seen, p) key t = .ok (seen', p')) :
    ∃ v, t.toJson? = some v ∧ Tells p' (Keyed.insert key v members) := by
  by_cases hseen : key ∈ seen
  · rw [readMember_of_mem_seen hseen] at hread
    cases hread
  · by_cases hkey : key ∈ ownKeys
    · obtain ⟨a, rfl⟩ := exists_key_eq_of_mem_ownKeys hkey
      rw [readMember_key hseen] at hread
      obtain ⟨value, hvalue, heq⟩ := map_eq_ok_iff.mp hread
      cases heq
      exact ⟨_, toJson?_of_readOptional hvalue, h.set a value⟩
    · rw [readMember_other hseen hkey] at hread
      obtain ⟨v, hv, heq⟩ := map_eq_ok_iff.mp hread
      cases heq
      exact ⟨v, Tree.readJson_eq_ok_iff.mp hv, h.keep hkey v⟩

/-- And so do all members, one after the other. -/
theorem Tells.foldlM {entries : List (String × Tree)} (h : Tells p members)
    (hread : entries.foldlM (fun draft (entry : String × Tree) ↦
      Principal.readMember draft entry.1 entry.2) (seen, p) = .ok (seen', p')) :
    ∃ values, Tree.membersToJson? entries = some values ∧
      Tells p' (values.foldl (fun done entry ↦ Keyed.insert entry.1 entry.2 done) members) := by
  induction entries generalizing seen p members with
  | nil =>
    cases hread
    exact ⟨[], rfl, h⟩
  | cons entry rest ih =>
    obtain ⟨key, t⟩ := entry
    rw [List.foldlM_cons] at hread
    obtain ⟨⟨seen₁, p₁⟩, hfirst, hrest⟩ := bind_eq_ok_iff.mp hread
    obtain ⟨v, hv, htells⟩ := h.readMember hfirst
    obtain ⟨values, hvalues, htold⟩ := ih htells hrest
    refine ⟨(key, v) :: values, ?_, htold⟩
    rw [Tree.membersToJson?, hv, hvalues]

/-- A document that is read as a principal stands for an object, which the principal tells. -/
theorem tells_of_read (h : Principal.read t = .ok p) :
    ∃ members, t.toJson? = some (.object members) ∧ Tells p members := by
  unfold Principal.read at h
  split at h
  · rename_i entries ending
    obtain ⟨⟨seen, p'⟩, hfold, hend⟩ := bind_eq_ok_iff.mp h
    obtain ⟨values, hvalues, htells⟩ := tells_empty.foldlM hfold
    dsimp only at hend
    split at hend
    · rename_i hread
      cases hend
      refine ⟨Keyed.sorted values, ?_, htells⟩
      rw [Tree.toJson?, if_pos hread, hvalues]
      rfl
    · cases hend
  · cases h
  · cases h

/-- A member can be read: a text or null under the key of an own attribute, and any value under
another key. -/
def Readable (key : String) (t : Tree) : Prop :=
  if key ∈ ownKeys then ∃ value, t.readOptional Tree.readString = .ok value
  else ∃ v, t.toJson? = some v

theorem exists_readMember (hnew : key ∉ seen) (hreadable : Readable key t) (p : Principal) :
    ∃ seen' p', readMember (seen, p) key t = .ok (seen', p') ∧
      ∀ other ∈ seen', other = key ∨ other ∈ seen := by
  unfold Readable at hreadable
  by_cases hkey : key ∈ ownKeys
  · rw [if_pos hkey] at hreadable
    obtain ⟨value, hvalue⟩ := hreadable
    obtain ⟨a, rfl⟩ := exists_key_eq_of_mem_ownKeys hkey
    refine ⟨a.key :: seen, a.set value p, ?_, fun other ↦ List.mem_cons.mp⟩
    rw [readMember_key hnew]
    exact map_eq_ok_iff.mpr ⟨value, hvalue, rfl⟩
  · rw [if_neg hkey] at hreadable
    obtain ⟨v, hv⟩ := hreadable
    refine ⟨seen, { p with extra := Keyed.insert key v p.extra }, ?_, fun other hmem ↦ .inr hmem⟩
    rw [readMember_other hnew hkey]
    exact map_eq_ok_iff.mpr ⟨v, Tree.readJson_eq_ok_iff.mpr hv, rfl⟩

/-- Members of different keys that can be read are read one after the other. -/
theorem exists_foldlM_readMember {entries : List (String × Tree)}
    (hnodup : (Keyed.keys entries).Nodup) (hnew : ∀ key ∈ Keyed.keys entries, key ∉ seen)
    (hreadable : ∀ key t, (key, t) ∈ entries → Readable key t) (p : Principal) :
    ∃ draft, entries.foldlM (fun draft (entry : String × Tree) ↦
      readMember draft entry.1 entry.2) (seen, p) = .ok draft := by
  induction entries generalizing seen p with
  | nil => exact ⟨(seen, p), rfl⟩
  | cons entry rest ih =>
    obtain ⟨key, t⟩ := entry
    obtain ⟨hkey, hrest⟩ := List.nodup_cons.mp hnodup
    obtain ⟨seen', p', hfirst, hseen'⟩ := exists_readMember (hnew key List.mem_cons_self)
      (hreadable key t List.mem_cons_self) p
    have hlater : ∀ other ∈ Keyed.keys rest, other ∉ seen' := by
      intro other hother hmem
      rcases hseen' other hmem with rfl | hmem
      · exact hkey hother
      · exact hnew other (List.mem_cons_of_mem _ hother) hmem
    obtain ⟨draft, hdraft⟩ := ih hrest hlater
      (fun other u hmem ↦ hreadable other u (List.mem_cons_of_mem _ hmem)) p'
    refine ⟨draft, ?_⟩
    rw [List.foldlM_cons]
    exact bind_eq_ok_iff.mpr ⟨_, hfirst, hdraft⟩

theorem Tells.readable (h : Tells p members) (hvalue : (Json.object members).IsValue) {v : Json}
    (hmem : (key, v) ∈ members) : Readable key (.ofJson v) := by
  obtain ⟨hascending, hmembers⟩ := Json.isValue_object_iff.mp hvalue
  unfold Readable
  by_cases hkey : key ∈ ownKeys
  · rw [if_pos hkey]
    obtain ⟨a, rfl⟩ := exists_key_eq_of_mem_ownKeys hkey
    have hown : v = (a.get p).elim .null .string := by
      rw [← h.own, Keyed.find?_of_mem hascending.nodup hmem]
      rfl
    refine ⟨a.get p, ?_⟩
    rw [hown]
    cases a.get p <;> rfl
  · rw [if_neg hkey]
    exact ⟨v, Tree.toJson?_ofJson (hmembers key v hmem)⟩

/-- An object is read as the principal that tells its members, and not without one. -/
theorem read_ofJson_eq_ok_iff (hvalue : (Json.object members).IsValue) :
    Principal.read (.ofJson (.object members)) = .ok p ↔ Tells p members := by
  have htells : ∀ {p' : Principal}, Principal.read (.ofJson (.object members)) = .ok p' →
      Tells p' members := by
    intro p' hread
    obtain ⟨members', hjson, htells⟩ := tells_of_read hread
    rw [Tree.toJson?_ofJson hvalue] at hjson
    cases hjson
    exact htells
  refine ⟨htells, fun h ↦ ?_⟩
  have hreadable : ∀ key t, (key, t) ∈ Tree.membersOfJson members → Readable key t := by
    intro key t hmem
    rw [Tree.membersOfJson_eq_map] at hmem
    obtain ⟨⟨key, v⟩, hv, heq⟩ := List.mem_map.mp hmem
    cases heq
    exact h.readable hvalue hv
  have hnodup : (Keyed.keys (Tree.membersOfJson members)).Nodup := by
    rw [Tree.keys_membersOfJson]
    exact (Json.isValue_object_iff.mp hvalue).1.nodup
  obtain ⟨⟨seen, p'⟩, hfold⟩ :=
    exists_foldlM_readMember hnodup (fun _ _ ↦ List.not_mem_nil) hreadable empty
  have hread : Principal.read (.ofJson (.object members)) = .ok p' :=
    bind_eq_ok_iff.mpr ⟨_, hfold, rfl⟩
  rw [hread, (htells hread).unique h]

/-! ### Writing -/

/-- The own attributes that are set, as members. -/
def ownMembers (p : Principal) : List (String × Json) :=
  Attribute.all.flatMap fun a ↦ ((a.get p).map fun s ↦ (a.key, .string s)).toList

theorem toJson_eq (p : Principal) :
    p.toJson = .object (Keyed.sorted (p.ownMembers ++ p.extra)) := by
  obtain ⟨pid, first, last, email, extra⟩ := p
  cases pid <;> cases first <;> cases last <;> cases email <;> rfl

theorem keys_ownMembers_sublist (p : Principal) : (Keyed.keys p.ownMembers).Sublist ownKeys := by
  unfold ownMembers ownKeys
  induction Attribute.all with
  | nil => exact .slnil
  | cons a rest ih =>
    rw [List.flatMap_cons, Keyed.keys, List.map_append, List.map_cons]
    cases a.get p with
    | none => exact ih.cons a.key
    | some s => exact ih.cons_cons a.key

theorem nodup_keys_ownMembers (p : Principal) : (Keyed.keys p.ownMembers).Nodup :=
  (keys_ownMembers_sublist p).nodup (by decide)

theorem find?_ownMembers (p : Principal) (a : Attribute) :
    Keyed.find? a.key p.ownMembers = (a.get p).map .string := by
  refine Option.ext fun v ↦ ?_
  constructor
  · intro hfind
    obtain ⟨b, -, hb⟩ := List.mem_flatMap.mp (Keyed.mem_of_find? hfind)
    rw [Option.mem_toList] at hb
    obtain ⟨s, hs, heq⟩ := Option.map_eq_some_iff.mp hb
    obtain ⟨hkey, rfl⟩ := Prod.mk.inj heq
    obtain rfl := Attribute.key_injective hkey
    rw [hs, Option.map_some]
  · intro hget
    obtain ⟨s, hs, rfl⟩ := Option.map_eq_some_iff.mp hget
    apply Keyed.find?_of_mem (nodup_keys_ownMembers p)
    exact List.mem_flatMap.mpr ⟨a, a.mem_all, by simp [hs]⟩

theorem find?_ownMembers_of_notMem (h : key ∉ ownKeys) (p : Principal) :
    Keyed.find? key p.ownMembers = none :=
  Keyed.find?_eq_none_iff.mpr fun hmem ↦ h ((keys_ownMembers_sublist p).subset hmem)

/-- Members without those of the four keys that stand for nothing. -/
def withoutUnset (members : List (String × Json)) : List (String × Json) :=
  members.filter fun member ↦ !(ownKeys.contains member.1 && member.2.isNull)

theorem find?_withoutUnset (h : (Keyed.keys members).Nodup) (key : String) :
    Keyed.find? key (withoutUnset members) =
      (Keyed.find? key members).filter fun v ↦ !(ownKeys.contains key && v.isNull) :=
  Keyed.find?_filter_of_nodup h _ key

theorem find?_withoutUnset_of_notMem (h : (Keyed.keys members).Nodup) (hkey : key ∉ ownKeys) :
    Keyed.find? key (withoutUnset members) = Keyed.find? key members := by
  rw [find?_withoutUnset h]
  cases Keyed.find? key members <;> simp [hkey]

theorem find?_withoutUnset_key (h : (Keyed.keys members).Nodup) (htells : Tells p members)
    (a : Attribute) : Keyed.find? a.key (withoutUnset members) = (a.get p).map .string := by
  have hown := htells.own a
  rw [find?_withoutUnset h]
  cases hfind : Keyed.find? a.key members with
  | none =>
    rw [hfind] at hown
    cases hget : a.get p with
    | none => rfl
    | some s => simp [hget] at hown
  | some v =>
    rw [hfind, Option.getD_some] at hown
    subst hown
    cases a.get p <;> simp [a.key_mem_ownKeys, Json.isNull]

/-- A principal tells the same of members without those that stand for nothing. -/
theorem Tells.withoutUnset (h : Tells p members) (hnodup : (Keyed.keys members).Nodup) :
    Tells p (withoutUnset members) where
  own a := by
    rw [find?_withoutUnset_key hnodup h]
    cases a.get p <;> rfl
  ascending := h.ascending
  other key := by
    rw [h.other]
    by_cases hkey : key ∈ ownKeys
    · rw [if_pos hkey, if_pos hkey]
    · rw [if_neg hkey, if_neg hkey, find?_withoutUnset_of_notMem hnodup hkey]

/-- A principal is written as the object that it tells, without the members that stand for nothing.
-/
theorem Tells.toJson_eq (h : Tells p members) (hmembers : Keyed.Ascending members) :
    p.toJson = .object (Principal.withoutUnset members) := by
  have hextra : ∀ a : Attribute, Keyed.find? a.key p.extra = none := by
    intro a
    rw [h.other, if_pos a.key_mem_ownKeys]
  have hnodup : (Keyed.keys (p.ownMembers ++ p.extra)).Nodup := by
    rw [Keyed.keys, List.map_append]
    refine List.nodup_append.mpr ⟨nodup_keys_ownMembers p, h.ascending.nodup, ?_⟩
    rintro key hkey _ hother rfl
    obtain ⟨a, rfl⟩ := exists_key_eq_of_mem_ownKeys ((keys_ownMembers_sublist p).subset hkey)
    exact Keyed.find?_eq_none_iff.mp (hextra a) hother
  rw [Principal.toJson_eq]
  refine congrArg Json.object ?_
  refine (Keyed.ascending_sorted _).ext (hmembers.filter _) fun key ↦ ?_
  show Keyed.find? key (Keyed.sorted (p.ownMembers ++ p.extra)) =
    Keyed.find? key (Principal.withoutUnset members)
  rw [Keyed.find?_sorted hnodup, Keyed.find?_append]
  by_cases hkey : key ∈ ownKeys
  · obtain ⟨a, rfl⟩ := exists_key_eq_of_mem_ownKeys hkey
    rw [find?_ownMembers, hextra, Option.or_none, find?_withoutUnset_key hmembers.nodup h]
  · rw [find?_ownMembers_of_notMem hkey, Option.none_or, h.other, if_neg hkey,
      find?_withoutUnset_of_notMem hmembers.nodup hkey]

theorem isValue_withoutUnset (h : (Json.object members).IsValue) :
    (Json.object (withoutUnset members)).IsValue := by
  obtain ⟨hascending, hmembers⟩ := Json.isValue_object_iff.mp h
  refine Json.isValue_object_iff.mpr ⟨hascending.filter _, fun key v hmem ↦ ?_⟩
  exact hmembers key v (List.mem_of_mem_filter hmem)

/-- Assumes: an object that is read as a principal. The principal is written as that object without
the null members under the four keys of its own attributes, so every other key stands there once,
for what it stood for, and what is written is read as the same principal. So is any document of the
object that is read as a principal at all. -/
theorem attributes_kept_and_reread (hvalue : (Json.object members).IsValue)
    (hread : Principal.read (.ofJson (.object members)) = .ok p) :
    p.toJson = .object (withoutUnset members) ∧
    (Keyed.keys (withoutUnset members)).Nodup ∧
    (∀ key, key ∉ ownKeys → Keyed.find? key (withoutUnset members) = Keyed.find? key members) ∧
    Principal.read (.ofJson p.toJson) = .ok p ∧
    ∀ t p', t.toJson? = some (.object members) → Principal.read t = .ok p' → p' = p := by
  have hascending := (Json.isValue_object_iff.mp hvalue).1
  have htells := (read_ofJson_eq_ok_iff hvalue).mp hread
  have hwritten := htells.toJson_eq hascending
  refine ⟨hwritten, (hascending.filter _).nodup, fun key hkey ↦ ?_, ?_, fun t p' hjson hread' ↦ ?_⟩
  · exact find?_withoutUnset_of_notMem hascending.nodup hkey
  · rw [hwritten, read_ofJson_eq_ok_iff (isValue_withoutUnset hvalue)]
    exact htells.withoutUnset hascending.nodup
  · obtain ⟨members', hjson', htells'⟩ := tells_of_read hread'
    rw [hjson] at hjson'
    cases hjson'
    exact htells'.unique htells

/-- The keeper of the lamps, of whom one name stands under a key that is none of the four. -/
def keeper : List (String × Json) :=
  [("email", .null), ("firstName", .null), ("first_name", .string "Ada"), ("id", .string "u-1"),
    ("lamps", .array [.int 7, .null]), ("role", .null)]

/-- The name, the lamps and the role that is null are kept, and the address and the first name,
which are null too, are not. -/
theorem keeper_kept_and_reread : (Json.object keeper).IsValue ∧
    ∃ p, Principal.read (.ofJson (.object keeper)) = .ok p ∧ p.id = some "u-1" ∧
      p.firstName = none ∧
      p.toJson = .object [("first_name", .string "Ada"), ("id", .string "u-1"),
        ("lamps", .array [.int 7, .null]), ("role", .null)] ∧
      Principal.read (.ofJson p.toJson) = .ok p := by
  have hlamps : (Json.array [.int 7, .null]).IsValue := by
    refine .array fun v hv ↦ ?_
    simp only [List.mem_cons, List.not_mem_nil, or_false] at hv
    rcases hv with rfl | rfl
    · exact .int 7
    · exact .null
  have hvalue : (Json.object keeper).IsValue := by
    refine .object (by unfold Keyed.Ascending; decide) fun key v hmem ↦ ?_
    simp only [keeper, List.mem_cons, Prod.mk.injEq, List.not_mem_nil, or_false] at hmem
    rcases hmem with ⟨-, rfl⟩ | ⟨-, rfl⟩ | ⟨-, rfl⟩ | ⟨-, rfl⟩ | ⟨-, rfl⟩ | ⟨-, rfl⟩
    · exact .null
    · exact .null
    · exact .string "Ada"
    · exact .string "u-1"
    · exact hlamps
    · exact .null
  have hread : Principal.read (.ofJson (.object keeper)) = .ok ⟨some "u-1", none, none, none,
    [("first_name", .string "Ada"), ("lamps", .array [.int 7, .null]), ("role", .null)]⟩ := rfl
  obtain ⟨hwritten, -, -, hreread, -⟩ := attributes_kept_and_reread hvalue hread
  exact ⟨hvalue, _, hread, rfl, rfl, hwritten, hreread⟩

end SchemaRouting.Principal
