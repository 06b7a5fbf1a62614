import Mathlib.Data.List.Forall2
import SchemaRouting.Keyed

/-!
# Entries in the order of their keys

Setting a key in ascending entries leaves them ascending (`ascending_insert`), so what is built by
setting one key after the other is sorted in whatever order that is done (`ascending_sorted`), and
what is found in it was set last, or was there before (`find?_foldl_insert`). Ascending entries are
determined by what is found in them (`Ascending.ext`). Entries that are kept in order of first
appearance have each key once too (`nodup_keys_ofList`), and each as it was put
(`mem_of_mem_ofList`). Entries that stand alongside each other (`Alongside`), key by key, do so
after the same is done to both.
-/

set_option autoImplicit false
set_option relaxedAutoImplicit false

namespace SchemaRouting.Keyed

variable {α β : Type} {key other : String} {a b : α} {entries : List (String × α)}

/-! ### What is found -/

theorem find?_insert (key other : String) (a : α) (entries : List (String × α)) :
    find? other (insert key a entries) = if other = key then some a else find? other entries := by
  by_cases h : other = key
  · subst h
    rw [find?_insert_self, if_pos rfl]
  · rw [find?_insert_of_ne h, if_neg h]

theorem find?_put (key other : String) (a : α) (entries : List (String × α)) :
    find? other (put key a entries) = if other = key then some a else find? other entries := by
  by_cases h : other = key
  · subst h
    rw [find?_put_self, if_pos rfl]
  · rw [find?_put_of_ne h, if_neg h]

theorem mem_of_find? (h : find? key entries = some a) : (key, a) ∈ entries := by
  induction entries with
  | nil => cases h
  | cons entry rest ih =>
    obtain ⟨k, b⟩ := entry
    rw [find?] at h
    by_cases hk : k = key
    · rw [if_pos hk] at h
      cases h
      rw [hk]
      exact List.mem_cons_self
    · rw [if_neg hk] at h
      exact List.mem_cons_of_mem _ (ih h)

theorem mem_keys_of_mem (h : (key, a) ∈ entries) : key ∈ keys entries :=
  List.mem_map.mpr ⟨(key, a), h, rfl⟩

theorem contains_iff : contains key entries = true ↔ key ∈ keys entries := by
  constructor
  · intro h
    obtain ⟨a, ha⟩ := Option.isSome_iff_exists.mp h
    exact mem_keys_of_mem (mem_of_find? ha)
  · intro h
    obtain ⟨⟨k, a⟩, hmem, rfl⟩ := List.mem_map.mp h
    exact contains_of_mem hmem

theorem find?_eq_none_iff : find? key entries = none ↔ key ∉ keys entries := by
  rw [← contains_iff, contains, Option.not_isSome_iff_eq_none]

theorem mem_keys_iff : key ∈ keys entries ↔ ∃ a, find? key entries = some a := by
  rw [← contains_iff, contains, Option.isSome_iff_exists]

theorem find?_of_mem (h : (keys entries).Nodup) (hmem : (key, a) ∈ entries) :
    find? key entries = some a := by
  induction entries with
  | nil => cases hmem
  | cons entry rest ih =>
    obtain ⟨k, b⟩ := entry
    obtain ⟨hk, hrest⟩ := List.nodup_cons.mp h
    rcases List.mem_cons.mp hmem with heq | hmem
    · cases heq
      exact if_pos rfl
    · have hne : k ≠ key := by
        rintro rfl
        exact hk (mem_keys_of_mem hmem)
      rw [find?, if_neg hne]
      exact ih hrest hmem

/-- Under one of different keys stands one value. -/
theorem eq_of_mem_of_mem (h : (keys entries).Nodup) (hmem : (key, a) ∈ entries)
    (hmem' : (key, b) ∈ entries) : a = b :=
  Option.some.inj ((find?_of_mem h hmem).symm.trans (find?_of_mem h hmem'))

theorem mem_keys_insert :
    other ∈ keys (insert key a entries) ↔ other = key ∨ other ∈ keys entries := by
  rw [← contains_iff, ← contains_iff, contains, contains, find?_insert]
  by_cases h : other = key <;> simp [h]

theorem find?_filter (keep : String → Bool) (key : String) (entries : List (String × α)) :
    find? key (entries.filter fun entry ↦ keep entry.1) =
      if keep key = true then find? key entries else none := by
  induction entries with
  | nil => simp
  | cons entry rest ih =>
    obtain ⟨k, a⟩ := entry
    rw [List.filter_cons]
    by_cases hk : keep k = true
    · rw [if_pos hk, find?, find?, ih]
      by_cases heq : k = key
      · subst heq
        rw [if_pos rfl, if_pos rfl, if_pos hk]
      · rw [if_neg heq, if_neg heq]
    · rw [if_neg hk, ih, find?]
      by_cases heq : k = key
      · subst heq
        rw [if_neg hk, if_neg hk]
      · rw [if_neg heq]

/-- Where the keys are different, an entry that is found is kept or not by what it holds. -/
theorem find?_filter_of_nodup (h : (keys entries).Nodup) (keep : String × α → Bool) (key : String) :
    find? key (entries.filter keep) = (find? key entries).filter fun a ↦ keep (key, a) := by
  have hfilter : (keys (entries.filter keep)).Nodup :=
    h.sublist (List.filter_sublist.map Prod.fst)
  refine Option.ext fun a ↦ ?_
  rw [Option.filter_eq_some_iff]
  constructor
  · intro hfind
    obtain ⟨hmem, hkeep⟩ := List.mem_filter.mp (mem_of_find? hfind)
    exact ⟨find?_of_mem h hmem, hkeep⟩
  · rintro ⟨hfind, hkeep⟩
    exact find?_of_mem hfilter (List.mem_filter.mpr ⟨mem_of_find? hfind, hkeep⟩)

theorem find?_foldl_insert {added : List (String × α)} (h : (keys added).Nodup) (key : String)
    (entries : List (String × α)) :
    find? key (added.foldl (fun done entry ↦ insert entry.1 entry.2 done) entries) =
      (find? key added).or (find? key entries) := by
  induction added generalizing entries with
  | nil => rfl
  | cons entry rest ih =>
    obtain ⟨k, a⟩ := entry
    obtain ⟨hk, hrest⟩ := List.nodup_cons.mp h
    rw [List.foldl_cons, ih hrest, find?_insert, find?]
    by_cases heq : k = key
    · subst heq
      rw [if_pos rfl, if_pos rfl, find?_eq_none_iff.mpr hk]
      rfl
    · rw [if_neg heq, if_neg (Ne.symm heq)]

theorem find?_foldl_insert_of_notMem {added : List (String × α)} (h : key ∉ keys added)
    (entries : List (String × α)) :
    find? key (added.foldl (fun done entry ↦ insert entry.1 entry.2 done) entries) =
      find? key entries := by
  induction added generalizing entries with
  | nil => rfl
  | cons entry rest ih =>
    obtain ⟨hne, hrest⟩ := not_or.mp (mt List.mem_cons.mpr h)
    rw [List.foldl_cons, ih hrest, find?_insert_of_ne hne]

theorem mem_of_mem_insert {entry : String × α} (h : entry ∈ insert key a entries) :
    entry = (key, a) ∨ entry ∈ entries := by
  induction entries with
  | nil => exact .inl (List.mem_singleton.mp h)
  | cons first rest ih =>
    obtain ⟨k, b⟩ := first
    rw [insert] at h
    by_cases heq : k = key
    · rw [if_pos heq] at h
      exact (List.mem_cons.mp h).imp_right (List.mem_cons_of_mem _)
    · rw [if_neg heq] at h
      by_cases hlt : key < k
      · rw [if_pos hlt] at h
        exact List.mem_cons.mp h
      · rw [if_neg hlt] at h
        rcases List.mem_cons.mp h with rfl | h
        · exact .inr List.mem_cons_self
        · exact (ih h).imp_right (List.mem_cons_of_mem _)

theorem find?_append (key : String) (entries more : List (String × α)) :
    find? key (entries ++ more) = (find? key entries).or (find? key more) := by
  induction entries with
  | nil => rfl
  | cons entry rest ih =>
    obtain ⟨k, a⟩ := entry
    rw [List.cons_append, find?, find?, ih]
    by_cases heq : k = key
    · rw [if_pos heq, if_pos heq, Option.some_or]
    · rw [if_neg heq, if_neg heq]

/-- Where the keys are different, the order of the entries has no part in what is found. -/
theorem find?_of_perm {entries' : List (String × α)} (hkeys : (keys entries).Nodup)
    (hsame : entries.Perm entries') (key : String) : find? key entries = find? key entries' := by
  have hkeys' : (keys entries').Nodup := (hsame.map Prod.fst).nodup_iff.mp hkeys
  have hiff (a : α) : find? key entries = some a ↔ find? key entries' = some a := by
    constructor
    · exact fun h ↦ find?_of_mem hkeys' (hsame.mem_iff.mp (mem_of_find? h))
    · exact fun h ↦ find?_of_mem hkeys (hsame.mem_iff.mpr (mem_of_find? h))
  exact Option.ext hiff

/-! Values that are replaced under their keys. -/

theorem keys_map_values (f : α → β) (entries : List (String × α)) :
    keys (entries.map fun entry ↦ (entry.1, f entry.2)) = keys entries := by
  rw [keys, List.map_map]
  rfl

theorem find?_map_values (f : α → β) (key : String) (entries : List (String × α)) :
    find? key (entries.map fun entry ↦ (entry.1, f entry.2)) = (find? key entries).map f := by
  induction entries with
  | nil => rfl
  | cons entry rest ih =>
    obtain ⟨k, a⟩ := entry
    rw [List.map_cons, find?, find?, ih]
    by_cases heq : k = key
    · rw [if_pos heq, if_pos heq, Option.map_some]
    · rw [if_neg heq, if_neg heq]

theorem insert_ne_nil (key : String) (a : α) (entries : List (String × α)) :
    insert key a entries ≠ [] := by
  intro h
  have hfound := find?_insert_self key a entries
  rw [h] at hfound
  cases hfound

/-! ### Ascending keys -/

theorem Ascending.nodup (h : Ascending entries) : (keys entries).Nodup := by
  refine List.Pairwise.imp (fun hlt ↦ ?_) h
  rintro rfl
  exact String.lt_irrefl _ hlt

theorem ascending_nil : Ascending ([] : List (String × α)) := List.Pairwise.nil

theorem ascending_cons_iff : Ascending ((key, a) :: entries) ↔
    (∀ other ∈ keys entries, key < other) ∧ Ascending entries :=
  List.pairwise_cons

theorem ascending_insert (h : Ascending entries) (key : String) (a : α) :
    Ascending (insert key a entries) := by
  induction entries with
  | nil => exact ascending_cons_iff.mpr ⟨by simp [keys], ascending_nil⟩
  | cons entry rest ih =>
    obtain ⟨k, b⟩ := entry
    obtain ⟨hk, hrest⟩ := ascending_cons_iff.mp h
    rw [insert]
    by_cases heq : k = key
    · subst heq
      rw [if_pos rfl]
      exact ascending_cons_iff.mpr ⟨hk, hrest⟩
    · rw [if_neg heq]
      by_cases hlt : key < k
      · rw [if_pos hlt]
        refine ascending_cons_iff.mpr ⟨fun other hother ↦ ?_, h⟩
        rcases List.mem_cons.mp hother with rfl | hother
        · exact hlt
        · exact String.lt_trans hlt (hk other hother)
      · rw [if_neg hlt]
        have hgt : k < key := by
          by_cases hgt : k < key
          · exact hgt
          · exact absurd (String.le_antisymm (String.not_lt.mp hlt) (String.not_lt.mp hgt)) heq
        refine ascending_cons_iff.mpr ⟨fun other hother ↦ ?_, ih hrest⟩
        rcases mem_keys_insert.mp hother with rfl | hother
        · exact hgt
        · exact hk other hother

theorem Ascending.filter (h : Ascending entries) (keep : String × α → Bool) :
    Ascending (entries.filter keep) :=
  List.Pairwise.sublist (List.filter_sublist.map Prod.fst) h

/-- The first of ascending keys is the least. -/
theorem Ascending.head_le (h : Ascending ((key, a) :: entries))
    (hother : other ∈ keys ((key, a) :: entries)) : key ≤ other := by
  rcases List.mem_cons.mp hother with rfl | hother
  · exact String.le_refl _
  · have hlt : key < other := (ascending_cons_iff.mp h).1 other hother
    exact String.not_lt.mp (String.lt_asymm hlt)

/-- Ascending entries in which the same is found are the same. -/
theorem Ascending.ext {first second : List (String × α)} (h : Ascending first)
    (h' : Ascending second) (hfind : ∀ key, find? key first = find? key second) :
    first = second := by
  induction first generalizing second with
  | nil =>
    cases second with
    | nil => rfl
    | cons entry rest =>
      have hnone := hfind entry.1
      rw [find?, find?, if_pos rfl] at hnone
      cases hnone
  | cons entry rest ih =>
    obtain ⟨k, a⟩ := entry
    cases second with
    | nil =>
      have hnone := hfind k
      rw [find?, find?, if_pos rfl] at hnone
      cases hnone
    | cons entry' rest' =>
      obtain ⟨k', a'⟩ := entry'
      obtain ⟨hk, hrest⟩ := ascending_cons_iff.mp h
      obtain ⟨hk', hrest'⟩ := ascending_cons_iff.mp h'
      -- The least key of one side is a key of the other, so neither comes before the other.
      have hkey : k = k' := by
        have hmem : k ∈ keys ((k', a') :: rest') := by
          rw [mem_keys_iff, ← hfind k]
          exact ⟨a, if_pos rfl⟩
        have hmem' : k' ∈ keys ((k, a) :: rest) := by
          rw [mem_keys_iff, hfind k']
          exact ⟨a', if_pos rfl⟩
        rcases List.mem_cons.mp hmem with heq | hmem
        · exact heq
        · rcases List.mem_cons.mp hmem' with heq | hmem'
          · exact heq.symm
          · exact absurd (hk' k hmem) (String.lt_asymm (hk k' hmem'))
      subst hkey
      have hvalue : a = a' := by
        have hsame := hfind k
        rw [find?, find?, if_pos rfl, if_pos rfl] at hsame
        exact Option.some.inj hsame
      subst hvalue
      refine congrArg _ (ih hrest hrest' fun key ↦ ?_)
      by_cases heq : k = key
      · subst heq
        rw [find?_eq_none_iff.mpr fun hmem ↦ String.lt_irrefl _ (hk k hmem),
          find?_eq_none_iff.mpr fun hmem ↦ String.lt_irrefl _ (hk' k hmem)]
      · have hsame := hfind key
        rw [find?, find?, if_neg heq, if_neg heq] at hsame
        exact hsame

/-- Setting a key to what is found under it changes nothing. -/
theorem Ascending.insert_of_find? (h : Ascending entries) (hfound : find? key entries = some a) :
    insert key a entries = entries := by
  refine (ascending_insert h key a).ext h fun other ↦ ?_
  rw [find?_insert]
  by_cases hother : other = key
  · rw [if_pos hother, hother, hfound]
  · rw [if_neg hother]

theorem ascending_foldl_insert (added : List (String × α)) (h : Ascending entries) :
    Ascending (added.foldl (fun done entry => insert entry.1 entry.2 done) entries) := by
  induction added generalizing entries with
  | nil => exact h
  | cons entry rest ih => exact ih (ascending_insert h entry.1 entry.2)

theorem ascending_sorted (entries : List (String × α)) : Ascending (sorted entries) :=
  ascending_foldl_insert entries ascending_nil

theorem find?_sorted (h : (keys entries).Nodup) (key : String) :
    find? key (sorted entries) = find? key entries := by
  rw [sorted, find?_foldl_insert h, find?_nil, Option.or_none]

theorem Ascending.sorted_eq (h : Ascending entries) : sorted entries = entries :=
  (ascending_sorted entries).ext h (find?_sorted h.nodup)

theorem mem_sorted_iff (h : (keys entries).Nodup) {entry : String × α} :
    entry ∈ sorted entries ↔ entry ∈ entries := by
  obtain ⟨key, a⟩ := entry
  have hsorted := (ascending_sorted entries).nodup
  constructor
  · intro hmem
    have hfind := find?_of_mem hsorted hmem
    rw [find?_sorted h] at hfind
    exact mem_of_find? hfind
  · intro hmem
    refine mem_of_find? ?_
    rw [find?_sorted h]
    exact find?_of_mem h hmem

/-! ### Keys that are kept in order of first appearance -/

theorem mem_keys_put : other ∈ keys (put key a entries) ↔ other = key ∨ other ∈ keys entries := by
  rw [← contains_iff, ← contains_iff, contains, contains, find?_put]
  by_cases h : other = key <;> simp [h]

theorem nodup_keys_put (h : (keys entries).Nodup) (key : String) (a : α) :
    (keys (put key a entries)).Nodup := by
  induction entries with
  | nil => simp [put, keys]
  | cons entry rest ih =>
    obtain ⟨k, b⟩ := entry
    obtain ⟨hk, hrest⟩ := List.nodup_cons.mp h
    rw [put]
    by_cases heq : k = key
    · subst heq
      rw [if_pos rfl]
      exact List.nodup_cons.mpr ⟨hk, hrest⟩
    · rw [if_neg heq]
      refine List.nodup_cons.mpr ⟨fun hmem ↦ ?_, ih hrest⟩
      rcases mem_keys_put.mp hmem with heq' | hmem
      · exact heq heq'
      · exact hk hmem

theorem nodup_keys_foldl_put (added : List (String × α)) (h : (keys entries).Nodup) :
    (keys (added.foldl (fun done entry => put entry.1 entry.2 done) entries)).Nodup := by
  induction added generalizing entries with
  | nil => exact h
  | cons entry rest ih => exact ih (nodup_keys_put h entry.1 entry.2)

theorem mem_of_mem_put {entry : String × α} (h : entry ∈ put key a entries) :
    entry = (key, a) ∨ entry ∈ entries := by
  induction entries with
  | nil => exact .inl (List.mem_singleton.mp h)
  | cons first rest ih =>
    obtain ⟨k, b⟩ := first
    rw [put] at h
    by_cases heq : k = key
    · rw [if_pos heq] at h
      exact (List.mem_cons.mp h).imp_right (List.mem_cons_of_mem _)
    · rw [if_neg heq] at h
      rcases List.mem_cons.mp h with rfl | h
      · exact .inr List.mem_cons_self
      · exact (ih h).imp_right (List.mem_cons_of_mem _)

theorem mem_of_mem_foldl_put {entry : String × α} {added : List (String × α)}
    (h : entry ∈ added.foldl (fun done entry => put entry.1 entry.2 done) entries) :
    entry ∈ added ∨ entry ∈ entries := by
  induction added generalizing entries with
  | nil => exact .inr h
  | cons first rest ih =>
    rcases ih h with hrest | hput
    · exact .inl (List.mem_cons_of_mem _ hrest)
    · rcases mem_of_mem_put hput with rfl | hmem
      · exact .inl List.mem_cons_self
      · exact .inr hmem

theorem mem_of_mem_ofList {entry : String × α} (h : entry ∈ ofList entries) : entry ∈ entries :=
  (mem_of_mem_foldl_put h).resolve_right nofun

theorem nodup_keys_ofList (entries : List (String × α)) : (keys (ofList entries)).Nodup :=
  nodup_keys_foldl_put entries List.nodup_nil

theorem put_of_notMem (h : key ∉ keys entries) (a : α) :
    put key a entries = entries ++ [(key, a)] := by
  induction entries with
  | nil => rfl
  | cons entry rest ih =>
    obtain ⟨hne, hrest⟩ := not_or.mp (mt List.mem_cons.mpr h)
    rw [put, if_neg (Ne.symm hne), ih hrest, List.cons_append]

/-- Entries whose keys are all different stay as they are. -/
theorem ofList_of_nodup (h : (keys entries).Nodup) : ofList entries = entries := by
  have hfold : ∀ (done added : List (String × α)), (keys (done ++ added)).Nodup →
      added.foldl (fun done entry => put entry.1 entry.2 done) done = done ++ added := by
    intro done added
    induction added generalizing done with
    | nil => exact fun _ ↦ (List.append_nil done).symm
    | cons entry rest ih =>
      intro hkeys
      have hnew : entry.1 ∉ keys done := by
        intro hmem
        rw [keys, List.map_append, List.map_cons, List.nodup_append] at hkeys
        exact hkeys.2.2 _ hmem _ List.mem_cons_self rfl
      have hstep : done ++ [entry] ++ rest = done ++ entry :: rest := by simp
      rw [List.foldl_cons, put_of_notMem hnew, ih _ (by rw [hstep]; exact hkeys), hstep]
  exact hfold [] entries h

/-! ### Entries side by side -/

/-- Entries under the same keys in the same order, with related values. -/
abbrev Alongside (R : α → β → Prop) : List (String × α) → List (String × β) → Prop :=
  List.Forall₂ fun entry entry' ↦ entry'.1 = entry.1 ∧ R entry.2 entry'.2

section Alongside

variable {R : α → β → Prop} {entries' : List (String × β)} {b : β}

theorem Alongside.find? (h : Alongside R entries entries') (key : String) :
    Option.Rel R (find? key entries) (find? key entries') := by
  induction h with
  | nil => exact .none
  | @cons entry entry' rest rest' hentry _ ih =>
    obtain ⟨k, a⟩ := entry
    obtain ⟨k', b⟩ := entry'
    obtain ⟨rfl, hab⟩ := hentry
    rw [Keyed.find?, Keyed.find?]
    by_cases hkey : k' = key
    · rw [if_pos hkey, if_pos hkey]
      exact .some hab
    · rw [if_neg hkey, if_neg hkey]
      exact ih

theorem Alongside.put (h : Alongside R entries entries') (key : String) (hab : R a b) :
    Alongside R (put key a entries) (put key b entries') := by
  induction h with
  | nil => exact .cons ⟨rfl, hab⟩ .nil
  | @cons entry entry' rest rest' hentry hrest ih =>
    obtain ⟨k, c⟩ := entry
    obtain ⟨k', d⟩ := entry'
    obtain ⟨rfl, hcd⟩ := hentry
    rw [Keyed.put, Keyed.put]
    by_cases hkey : k' = key
    · rw [if_pos hkey, if_pos hkey]
      exact .cons ⟨rfl, hab⟩ hrest
    · rw [if_neg hkey, if_neg hkey]
      exact .cons ⟨rfl, hcd⟩ ih

theorem Alongside.ofList (h : Alongside R entries entries') :
    Alongside R (ofList entries) (ofList entries') := by
  have hfold : ∀ done done', Alongside R done done' →
      Alongside R (entries.foldl (fun done entry ↦ Keyed.put entry.1 entry.2 done) done)
        (entries'.foldl (fun done entry ↦ Keyed.put entry.1 entry.2 done) done') := by
    induction h with
    | nil => exact fun _ _ hdone ↦ hdone
    | @cons entry entry' rest rest' hentry _ ih =>
      intro done done' hdone
      rw [List.foldl_cons, List.foldl_cons, hentry.1]
      exact ih _ _ (hdone.put _ hentry.2)
  exact hfold [] [] .nil

end Alongside

end SchemaRouting.Keyed
