/-!
Entries under text keys. A list of entries is read through `find?`. It is kept either in
order of first appearance, where `put` replaces the value of a known key in its place, or in
the order of the keys, where `insert` finds the place. Both writes set the key and leave
every other key as it was.
-/

set_option autoImplicit false

namespace SchemaRouting.Keyed

variable {α : Type}

def find? (key : String) : List (String × α) → Option α
  | [] => none
  | (k, a) :: rest => if k = key then some a else find? key rest

def contains (key : String) (entries : List (String × α)) : Bool :=
  (find? key entries).isSome

def keys (entries : List (String × α)) : List String := entries.map Prod.fst

/-- Sets a key in its place, or at the end if it is new. -/
def put (key : String) (a : α) : List (String × α) → List (String × α)
  | [] => [(key, a)]
  | (k, b) :: rest => if k = key then (key, a) :: rest else (k, b) :: put key a rest

/-- Sets a key in entries that are sorted by key. -/
def insert (key : String) (a : α) : List (String × α) → List (String × α)
  | [] => [(key, a)]
  | (k, b) :: rest =>
    if k = key then (key, a) :: rest
    else if key < k then (key, a) :: (k, b) :: rest
    else (k, b) :: insert key a rest

def erase (key : String) (entries : List (String × α)) : List (String × α) :=
  entries.filter fun entry => entry.1 ≠ key

/-- Entries in order of first appearance, the last value of each key. -/
def ofList (entries : List (String × α)) : List (String × α) :=
  entries.foldl (fun done entry => put entry.1 entry.2 done) []

/-- Entries sorted by key, the last value of each key. -/
def sorted (entries : List (String × α)) : List (String × α) :=
  entries.foldl (fun done entry => insert entry.1 entry.2 done) []

/-- Keys strictly ascend. -/
def Ascending (entries : List (String × α)) : Prop :=
  (keys entries).Pairwise (· < ·)

@[simp] theorem find?_nil (key : String) : find? key ([] : List (String × α)) = none := rfl

theorem contains_of_mem {key : String} {a : α} {entries : List (String × α)}
    (h : (key, a) ∈ entries) : contains key entries = true := by
  induction entries with
  | nil => cases h
  | cons entry rest ih =>
    obtain ⟨k, b⟩ := entry
    by_cases hk : k = key
    · simp [contains, find?, hk]
    · have hrest : (key, a) ∈ rest := by
        rcases List.mem_cons.mp h with heq | hrest
        · cases heq
          exact absurd rfl hk
        · exact hrest
      simpa [contains, find?, hk] using ih hrest

theorem find?_put_self (key : String) (a : α) (entries : List (String × α)) :
    find? key (put key a entries) = some a := by
  induction entries with
  | nil => simp [put, find?]
  | cons entry rest ih =>
    obtain ⟨k, b⟩ := entry
    by_cases h : k = key <;> simp [put, find?, h, ih]

theorem find?_put_of_ne {key other : String} (h : other ≠ key) (a : α)
    (entries : List (String × α)) : find? other (put key a entries) = find? other entries := by
  induction entries with
  | nil => simp [put, find?, Ne.symm h]
  | cons entry rest ih =>
    obtain ⟨k, b⟩ := entry
    by_cases hk : k = key
    · subst hk
      simp [put, find?, Ne.symm h]
    · simp [put, find?, hk, ih]

theorem find?_insert_self (key : String) (a : α) (entries : List (String × α)) :
    find? key (insert key a entries) = some a := by
  induction entries with
  | nil => simp [insert, find?]
  | cons entry rest ih =>
    obtain ⟨k, b⟩ := entry
    by_cases h : k = key
    · simp [insert, find?, h]
    · by_cases hlt : key < k <;> simp [insert, find?, h, hlt, ih]

theorem find?_insert_of_ne {key other : String} (h : other ≠ key) (a : α)
    (entries : List (String × α)) :
    find? other (insert key a entries) = find? other entries := by
  induction entries with
  | nil => simp [insert, find?, Ne.symm h]
  | cons entry rest ih =>
    obtain ⟨k, b⟩ := entry
    by_cases hk : k = key
    · subst hk
      simp [insert, find?, Ne.symm h]
    · by_cases hlt : key < k <;> simp [insert, find?, hk, hlt, ih, Ne.symm h]

end SchemaRouting.Keyed
