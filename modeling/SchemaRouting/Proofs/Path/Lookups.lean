import Mathlib.Data.List.Induction
import SchemaRouting.Request
import SchemaRouting.Proofs.Keyed

/-!
# Looking parameters up

A parameter is looked up under its key, by the name of its placeholder, or in the object that is
made of all parameters. The first two search from the end and the third is filled from the front,
and each lets a later pair hide an earlier one under its key: one more push changes what is found
under its own key and nothing else (`get?_push`, `find?_members_push`). A name is looked up under
the marker followed by it, which no other key is taken for (`name?_eq_some_iff`). So after any
pushes all three tell the value of the last push (`lookups_tell_last_push`).
-/

set_option autoImplicit false
set_option relaxedAutoImplicit false

namespace SchemaRouting.Path.Params

variable {pushes : List (String × String)} {key other name value : String}

/-- The parameters that are left by pushes, one after the other. -/
def ofPushes (pushes : List (String × String)) : Params :=
  pushes.foldl (fun params pair ↦ params.push pair.1 pair.2) empty

/-- A value was pushed under a key, and nothing under that key after it. -/
def LastPushed (key value : String) (pushes : List (String × String)) : Prop :=
  ∃ before after, pushes = before ++ (key, value) :: after ∧ key ∉ Keyed.keys after

theorem ofPushes_concat (pushes : List (String × String)) (key value : String) :
    ofPushes (pushes ++ [(key, value)]) = (ofPushes pushes).push key value := by
  simp [ofPushes, List.foldl_append]

/-- The last push is the last one under its own key, and has no part in what was pushed under
others. -/
theorem lastPushed_concat_iff {last : String} :
    LastPushed key value (pushes ++ [(other, last)]) ↔
      if key = other then value = last else LastPushed key value pushes := by
  constructor
  · rintro ⟨before, after, hsplit, hafter⟩
    rcases after.eq_nil_or_concat with rfl | ⟨after, pair, rfl⟩
    · obtain ⟨-, heq⟩ := List.append_inj' hsplit rfl
      cases heq
      rw [if_pos rfl]
    · rw [List.concat_eq_append] at hsplit hafter
      have hends : before ++ (key, value) :: (after ++ [pair]) =
          (before ++ (key, value) :: after) ++ [pair] := by simp
      rw [hends] at hsplit
      obtain ⟨hpushes, hpair⟩ := List.append_inj' hsplit rfl
      cases hpair
      have hne : key ≠ other := by
        rintro rfl
        apply hafter
        simp [Keyed.keys]
      rw [if_neg hne]
      refine ⟨before, after, hpushes, fun hmem ↦ hafter ?_⟩
      simp only [Keyed.keys, List.map_append, List.mem_append] at hmem ⊢
      exact .inl hmem
  · intro h
    by_cases hkey : key = other
    · rw [if_pos hkey] at h
      subst hkey h
      exact ⟨pushes, [], rfl, List.not_mem_nil⟩
    · rw [if_neg hkey] at h
      obtain ⟨before, after, rfl, hafter⟩ := h
      refine ⟨before, after ++ [(other, last)], by simp, ?_⟩
      simp only [Keyed.keys, List.map_append, List.mem_append, not_or] at hafter ⊢
      exact ⟨hafter, by simpa using hkey⟩

/-! ### Under a key -/

theorem get?_push (params : Params) (key value other : String) :
    (params.push key value).get? other = if other = key then some value else params.get? other := by
  by_cases h : other = key
  · subst h
    rw [get?_push_self, if_pos rfl]
  · rw [get?_push_of_ne h, if_neg h]

theorem get?_ofPushes_eq_some_iff :
    (ofPushes pushes).get? key = some value ↔ LastPushed key value pushes := by
  induction pushes using List.reverseRecOn with
  | nil =>
    refine ⟨nofun, ?_⟩
    rintro ⟨before, after, hsplit, -⟩
    simp at hsplit
  | append_singleton before pair ih =>
    obtain ⟨other, last⟩ := pair
    rw [ofPushes_concat, get?_push, lastPushed_concat_iff]
    by_cases hkey : key = other
    · rw [if_pos hkey, if_pos hkey, Option.some.injEq, eq_comm]
    · rw [if_neg hkey, if_neg hkey, ih]

theorem get?_ofPushes_eq_none_iff :
    (ofPushes pushes).get? key = none ↔ key ∉ Keyed.keys pushes := by
  induction pushes using List.reverseRecOn with
  | nil => exact ⟨fun _ ↦ List.not_mem_nil, fun _ ↦ rfl⟩
  | append_singleton before pair ih =>
    obtain ⟨other, last⟩ := pair
    rw [ofPushes_concat, get?_push]
    by_cases hkey : key = other
    · simp [hkey, Keyed.keys]
    · rw [if_neg hkey, ih]
      simp [hkey, Keyed.keys]

/-! ### By a name -/

/-- A key without its marker is a name exactly if it is the marker followed by the name. -/
theorem name?_eq_some_iff : name? key = some name ↔ key = ":" ++ name := by
  rw [← String.toList_inj, String.toList_append]
  unfold name?
  cases key.toList with
  | nil => simp
  | cons c rest =>
    by_cases hc : c = placeholderMarker
    · subst hc
      simp only [if_true, Option.some.injEq, ← String.toList_inj, String.toList_ofList]
      show rest = name.toList ↔ placeholderMarker :: rest = placeholderMarker :: name.toList
      rw [List.cons.injEq, and_iff_right rfl]
    · simp only [if_neg hc]
      refine ⟨nofun, fun heq ↦ absurd ?_ hc⟩
      exact (List.cons.inj heq).1

theorem named?_eq_get? (params : Params) (name : String) :
    params.named? name = params.get? (":" ++ name) := by
  simp only [named?, get?, name?_eq_some_iff]

/-! ### In the object -/

/-- The members of the object of parameters. -/
def members (params : Params) : List (String × Json) :=
  Keyed.sorted (params.pairs.map fun pair ↦ (pair.1, .string pair.2))

theorem find?_members_push (params : Params) (key value other : String) :
    Keyed.find? other (params.push key value).members =
      if other = key then some (.string value) else Keyed.find? other params.members := by
  have hinsert : (params.push key value).members =
      Keyed.insert key (.string value) params.members := by
    simp [members, push, Keyed.sorted, List.foldl_append]
  rw [hinsert, Keyed.find?_insert]

/-- Filling the object from the front and searching from the end let the same pairs be hidden. -/
theorem find?_members_ofPushes (pushes : List (String × String)) (key : String) :
    Keyed.find? key (ofPushes pushes).members = ((ofPushes pushes).get? key).map .string := by
  induction pushes using List.reverseRecOn with
  | nil => rfl
  | append_singleton before pair ih =>
    obtain ⟨other, last⟩ := pair
    rw [ofPushes_concat, get?_push, find?_members_push, ih]
    by_cases hkey : key = other
    · rw [if_pos hkey, if_pos hkey, Option.map_some]
    · rw [if_neg hkey, if_neg hkey]

/-- After any pushes, what is found under a key is the value of the last push under it, and nothing
exactly if there was none. The object of the parameters has, each key once, the same texts under the
same keys and no other members, and a name has what is found under the marker followed by it. -/
theorem lookups_tell_last_push {φ : Type} (r : Request φ) (pushes : List (String × String)) :
    (∀ key value, (ofPushes pushes).get? key = some value ↔ LastPushed key value pushes) ∧
    (∀ key, (ofPushes pushes).get? key = none ↔ key ∉ Keyed.keys pushes) ∧
    (∃ members, { r with params := ofPushes pushes }.paramsJson = .object members ∧
      Keyed.Ascending members ∧
      ∀ key, Keyed.find? key members = ((ofPushes pushes).get? key).map .string) ∧
    ∀ name, (ofPushes pushes).named? name = (ofPushes pushes).get? (":" ++ name) := by
  refine ⟨fun key value ↦ get?_ofPushes_eq_some_iff, fun key ↦ get?_ofPushes_eq_none_iff, ?_,
    named?_eq_get? _⟩
  exact ⟨(ofPushes pushes).members, rfl, Keyed.ascending_sorted _, find?_members_ofPushes pushes⟩

-- A bare marker is the key of the empty name, and of two markers the second belongs to the name.
example :
    let params := ofPushes [(":", "oak"), ("::id", "tall"), ("id", "hall"), (":", "elm")]
    params.named? "" = some "elm" ∧ params.named? ":id" = some "tall" ∧
      params.named? "id" = none := by
  decide

end SchemaRouting.Path.Params
