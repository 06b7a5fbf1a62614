import Mathlib.Data.List.Induction
import SchemaRouting.Proofs.Route.AdmittedBodies

/-!
# Keys that occur more than once

The pairs of a query or of a form become an object, in which a key that occurs once has its value
and one that occurs more than once the list of its values. What stands under a key is told by the
values of that key alone (`together`): one more pair adds its value to those of its key and leaves
what stands under the others (`find?_addPair`), so after all pairs, however their keys alternate,
every key has the values of its own pairs in their order (`find?_collect`). From the object the
values of each key are read back (`valuesOf_pairsOf_collect`), so no pair is lost or comes twice.
-/

set_option autoImplicit false
set_option relaxedAutoImplicit false

namespace SchemaRouting.Http

variable {pairs others : List (String × String)} {key value : String}

/-! ### The values of a key -/

/-- The values of a key among pairs, in their order. -/
def valuesOf (key : String) (pairs : List (String × String)) : List String :=
  pairs.filterMap fun pair ↦ if pair.1 = key then some pair.2 else none

theorem valuesOf_append (key : String) (pairs others : List (String × String)) :
    valuesOf key (pairs ++ others) = valuesOf key pairs ++ valuesOf key others :=
  List.filterMap_append

theorem valuesOf_cons_self (key value : String) (pairs : List (String × String)) :
    valuesOf key ((key, value) :: pairs) = value :: valuesOf key pairs := by
  simp [valuesOf]

theorem valuesOf_cons_of_ne {other : String} (h : other ≠ key) (value : String)
    (pairs : List (String × String)) :
    valuesOf key ((other, value) :: pairs) = valuesOf key pairs := by
  simp [valuesOf, h]

theorem length_valuesOf (key : String) (pairs : List (String × String)) :
    (valuesOf key pairs).length = (pairs.map Prod.fst).count key := by
  induction pairs with
  | nil => rfl
  | cons pair rest ih =>
    obtain ⟨other, value⟩ := pair
    by_cases h : other = key
    · subst h
      simp [valuesOf_cons_self, ih]
    · simp [valuesOf_cons_of_ne h, ih, h]

theorem count_valuesOf (key value : String) (pairs : List (String × String)) :
    (valuesOf key pairs).count value = pairs.count (key, value) := by
  induction pairs with
  | nil => rfl
  | cons pair rest ih =>
    obtain ⟨other, value'⟩ := pair
    by_cases h : other = key
    · subst h
      simp [valuesOf_cons_self, List.count_cons, ih]
    · simp [valuesOf_cons_of_ne h, ih, h]

/-- Pairs of which every key has the same values are the same but for the order of different keys.
-/
theorem perm_of_valuesOf_eq (h : ∀ key, valuesOf key pairs = valuesOf key others) :
    pairs.Perm others := by
  refine List.perm_iff_count.mpr fun (key, value) ↦ ?_
  rw [← count_valuesOf, ← count_valuesOf, h]

/-! ### What stands under a key -/

/-- What stands for the values of a key: one is a text, more than one are the list of them. -/
def together : List String → Option Json
  | [] => none
  | [value] => some (.string value)
  | values => some (.array (values.map .string))

theorem together_of_two_le {values : List String} (h : 2 ≤ values.length) :
    together values = some (.array (values.map .string)) := by
  match values with
  | [] | [_] => simp at h
  | _ :: _ :: _ => rfl

/-- A pair adds its value to those of its key and leaves what stands under other keys. -/
theorem find?_addPair {members : List (String × Json)}
    (h : ∀ key, Keyed.find? key members = together (valuesOf key pairs)) (pair : String × String)
    (key : String) : Keyed.find? key (addPair members pair) =
      together (valuesOf key (pairs ++ [pair])) := by
  obtain ⟨added, value⟩ := pair
  have hadded : Keyed.find? added members = together (valuesOf added pairs) := h added
  rw [addPair, valuesOf_append]
  by_cases hkey : added = key
  · subst hkey
    rw [valuesOf_cons_self]
    rcases hvalues : valuesOf added pairs with _ | ⟨first, _ | ⟨second, more⟩⟩
    · rw [hvalues] at hadded
      rw [hadded]
      exact Keyed.find?_insert_self _ _ _
    · rw [hvalues] at hadded
      rw [hadded]
      exact Keyed.find?_insert_self _ _ _
    · rw [hvalues] at hadded
      rw [hadded]
      simp [together, Keyed.find?_insert_self, valuesOf]
  · rw [valuesOf_cons_of_ne hkey]
    have hkept (v : Json) : Keyed.find? key (Keyed.insert added v members) =
        together (valuesOf key pairs) := by
      rw [Keyed.find?_insert_of_ne (Ne.symm hkey), h]
    have hnil : valuesOf key [] = [] := rfl
    rw [hnil, List.append_nil]
    split <;> exact hkept _

theorem collect_concat (pairs : List (String × String)) (pair : String × String) :
    collect (pairs ++ [pair]) = addPair (collect pairs) pair := by
  rw [collect, List.foldl_append]
  rfl

/-- After all pairs, each key has what stands for its values. -/
theorem find?_collect (pairs : List (String × String)) (key : String) :
    Keyed.find? key (collect pairs) = together (valuesOf key pairs) := by
  induction pairs using List.reverseRecOn generalizing key with
  | nil => rfl
  | append_singleton before pair ih =>
    rw [collect_concat]
    exact find?_addPair ih pair key

theorem ascending_collect (pairs : List (String × String)) : Keyed.Ascending (collect pairs) := by
  induction pairs using List.reverseRecOn with
  | nil => exact Keyed.ascending_nil
  | append_singleton before pair ih =>
    rw [collect_concat, addPair]
    split <;> exact Keyed.ascending_insert ih _ _

/-! ### Reading the pairs back -/

/-- The texts that stand for a value of a member. -/
def textsOf : Json → List String
  | .string value => [value]
  | .array items => items.filterMap Json.asString?
  | _ => []

/-- The pairs that members stand for, key by key. -/
def pairsOf (members : List (String × Json)) : List (String × String) :=
  members.flatMap fun (key, v) ↦ (textsOf v).map (key, ·)

theorem textsOf_of_together {values : List String} {v : Json} (h : together values = some v) :
    textsOf v = values := by
  match values with
  | [] => cases h
  | [value] =>
    cases h
    rfl
  | first :: second :: more =>
    cases h
    simp [textsOf, List.filterMap_map, Function.comp_def, Json.asString?]

theorem valuesOf_map_pair (key other : String) (texts : List String) :
    valuesOf key (texts.map (other, ·)) = if other = key then texts else [] := by
  by_cases h : other = key <;> simp [valuesOf, h, List.filterMap_map]

theorem valuesOf_pairsOf {members : List (String × Json)} (h : (Keyed.keys members).Nodup)
    (key : String) : valuesOf key (pairsOf members) =
      ((Keyed.find? key members).map textsOf).getD [] := by
  induction members with
  | nil => rfl
  | cons member rest ih =>
    obtain ⟨other, v⟩ := member
    obtain ⟨hother, hrest⟩ := List.nodup_cons.mp h
    have hsplit : pairsOf ((other, v) :: rest) = (textsOf v).map (other, ·) ++ pairsOf rest := rfl
    rw [hsplit, valuesOf_append, valuesOf_map_pair, ih hrest, Keyed.find?]
    by_cases hkey : other = key
    · subst hkey
      rw [if_pos rfl, if_pos rfl, Keyed.find?_eq_none_iff.mpr hother]
      simp
    · rw [if_neg hkey, if_neg hkey, List.nil_append]

theorem valuesOf_pairsOf_collect (key : String) (pairs : List (String × String)) :
    valuesOf key (pairsOf (collect pairs)) = valuesOf key pairs := by
  rw [valuesOf_pairsOf (ascending_collect pairs).nodup, find?_collect]
  cases htogether : together (valuesOf key pairs) with
  | none =>
    match hvalues : valuesOf key pairs with
    | [] => rfl
    | [_] | _ :: _ :: _ =>
      rw [hvalues] at htogether
      cases htogether
  | some v => exact textsOf_of_together htogether

/-! ### Objects of pairs -/

/-- The members of an object hold the values of pairs: each key that occurs in a pair, and no other,
is there once; one that occurs once has the text of its value, and one that occurs more than once
the list of its values in their order. The pairs that the members stand for are the given ones, but
for the order of those of different keys. -/
structure Gathers (pairs : List (String × String)) (members : List (String × Json)) : Prop where
  ascending : Keyed.Ascending members
  keys : ∀ key, key ∈ Keyed.keys members ↔ key ∈ pairs.map Prod.fst
  once : ∀ key, (pairs.map Prod.fst).count key = 1 → ∃ value, valuesOf key pairs = [value] ∧
    Keyed.find? key members = some (.string value)
  repeated : ∀ key, 2 ≤ (pairs.map Prod.fst).count key →
    Keyed.find? key members = some (.array ((valuesOf key pairs).map .string))
  valuesOf_eq : ∀ key, valuesOf key (pairsOf members) = valuesOf key pairs
  perm : (pairsOf members).Perm pairs

theorem gathers_collect (pairs : List (String × String)) : Gathers pairs (collect pairs) where
  ascending := ascending_collect pairs
  keys key := by
    rw [Keyed.mem_keys_iff, find?_collect, ← List.count_pos_iff, ← length_valuesOf]
    match valuesOf key pairs with
    | [] => simp [together]
    | [_] | _ :: _ :: _ => simp [together]
  once key hone := by
    rw [← length_valuesOf] at hone
    obtain ⟨value, hvalue⟩ := List.length_eq_one_iff.mp hone
    refine ⟨value, hvalue, ?_⟩
    rw [find?_collect, hvalue]
    rfl
  repeated key htwo := by
    rw [← length_valuesOf] at htwo
    rw [find?_collect, together_of_two_le htwo]
  valuesOf_eq key := valuesOf_pairsOf_collect key pairs
  perm := perm_of_valuesOf_eq fun key ↦ valuesOf_pairsOf_collect key pairs

/-- Pairs make the same object exactly if every key has the same values in them. -/
theorem collect_eq_collect_iff :
    collect others = collect pairs ↔ ∀ key, valuesOf key others = valuesOf key pairs := by
  constructor
  · intro h key
    rw [← valuesOf_pairsOf_collect key others, h, valuesOf_pairsOf_collect]
  · intro h
    refine (ascending_collect others).ext (ascending_collect pairs) fun key ↦ ?_
    rw [find?_collect, find?_collect, h]

variable {σ : Type}

/-- The members made of any pairs hold the values of each key, and however pairs alternate, they
make the same object exactly if every key has the same values in the same order. So it is with the
query of every request that is read, and with its body if that is a form and not empty. -/
theorem repeated_keys_gather_values (pairs : List (String × String)) :
    Gathers pairs (collect pairs) ∧
    (∀ others, collect others = collect pairs ↔ ∀ key, valuesOf key others = valuesOf key pairs) ∧
    ∀ (incoming : Incoming) (request : Request (Factory σ)), Request.ofHttp incoming = .ok request →
      (∀ query, incoming.target.query = some query →
        Gathers (Http.pairs (Text.utf8 query)) request.query) ∧
      ∀ contentType, incoming.headers.text? "content-type" = some contentType →
        Names contentType formType → incoming.body ≠ [] →
        ∃ members, request.body = .object members ∧ Gathers (Http.pairs incoming.body) members := by
  refine ⟨gathers_collect pairs, fun others ↦ collect_eq_collect_iff,
    fun incoming request hread ↦ ?_⟩
  rw [Request.ofHttp_eq, map_eq_ok_iff] at hread
  obtain ⟨body, hbody, rfl⟩ := hread
  constructor
  · intro query hquery
    have hmembers :
        (Request.arrived (σ := σ) incoming body).query = decodeForm (Text.utf8 query) := by
      simp [Request.arrived, hquery]
    rw [hmembers]
    exact gathers_collect _
  · intro contentType htype hform hne
    rw [htype, Option.map_some, mediaType_eq_formType_iff.mpr hform,
      Request.readBody_of_form hne] at hbody
    cases hbody
    exact ⟨_, rfl, gathers_collect _⟩

/-- A form that names three lamps and, between them, a room. -/
def postedLampForm : Incoming where
  method := .post
  target := ⟨"/lamps", none⟩
  headers := Headers.empty.append "Content-Type" formType
  body := Text.utf8 "lamp=oak&room=hall&lamp=tall&lamp=oak"

/-- It is read with the three lamps in their order and the one room. -/
theorem posted_lamps_gathered : Names formType formType ∧ postedLampForm.body ≠ [] ∧
    ∃ request : Request (Factory Unit), Request.ofHttp postedLampForm = .ok request ∧
      ∃ members, request.body = .object members ∧
        Keyed.find? "lamp" members = some (.array [.string "oak", .string "tall", .string "oak"]) ∧
        Keyed.find? "room" members = some (.string "hall") := by
  have hform : Names formType formType := mediaType_eq_formType_iff.mp rfl
  have hpairs : Http.pairs postedLampForm.body =
      [("lamp", "oak"), ("room", "hall"), ("lamp", "tall"), ("lamp", "oak")] := by
    rw [postedLampForm, Text.utf8_eq_charBytes]
    decide
  have hbytes : postedLampForm.body ≠ [] := by
    intro hempty
    rw [hempty] at hpairs
    cases hpairs
  obtain ⟨request, hread⟩ : ∃ request : Request (Factory Unit),
      Request.ofHttp postedLampForm = .ok request :=
    ⟨_, (Request.ofHttp_eq_ok_iff rfl (.inr hform)).mpr ⟨_, .form hform hbytes, rfl⟩⟩
  obtain ⟨-, -, hrequests⟩ := repeated_keys_gather_values (σ := Unit) []
  obtain ⟨members, hbody, hgathers⟩ :=
    (hrequests postedLampForm request hread).2 formType rfl hform hbytes
  rw [hpairs] at hgathers
  refine ⟨hform, hbytes, request, hread, members, hbody, ?_, ?_⟩
  · exact hgathers.repeated "lamp" (by decide)
  · obtain ⟨value, hvalue, hfound⟩ := hgathers.once "room" (by decide)
    cases hvalue
    exact hfound

end SchemaRouting.Http
