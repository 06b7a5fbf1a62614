import SchemaRouting.Schema.Format
import SchemaRouting.Proofs.Keyed
import SchemaRouting.Proofs.Success

/-!
# Documents that are read

A record is read from entries: the members of an object, or the items of an array under the names of
its fields in their order (`Tree.entries`). Its draft takes them one after the other, so what every
one of them preserves holds of the record (`Tree.readRecord_invariant`). Where each entry sets the
field of its key, and none may come twice (`Tree.Reads`), a field of the record is what its entry
says if there is one, and else what it was to begin with (`Tree.Reads.hasValue`).
-/

set_option autoImplicit false
set_option relaxedAutoImplicit false

namespace SchemaRouting

namespace Tree

variable {α β δ : Type}

/-- The entries of a record with the given fields. -/
def entries (fields : List String) : Tree → List (String × Tree)
  | object members _ => members
  | array items _ => fields.zip items
  | date s => [(dateKey, string s)]
  | null | bool _ | number _ | string _ | broken => []

/-- The entry of a record under a key. -/
def field? (fields : List String) (key : String) (t : Tree) : Option Tree :=
  Keyed.find? key (t.entries fields)

/-- What a value that may be left out is read as: what is written of it, or else its standard. -/
def HasValue (read : Read α) (standard value : α) : Option Tree → Prop
  | some t => read t = .ok value
  | none => value = standard

theorem HasValue.unique {read : Read α} {standard value value' : α} {t : Option Tree}
    (h : HasValue read standard value t) (h' : HasValue read standard value' t) :
    value' = value := by
  cases t with
  | none => exact Eq.trans h' (Eq.symm h)
  | some t => exact Except.ok.inj (Eq.trans (Eq.symm h') h)

/-! ### Single values -/

section Single

variable {t : Tree}

theorem readBool_eq_ok_iff {b : Bool} : t.readBool = .ok b ↔ t = .bool b := by
  cases t <;> simp [readBool]

theorem readString_eq_ok_iff {s : String} : t.readString = .ok s ↔ t = .string s := by
  cases t <;> simp [readString]

theorem readNumber_eq_ok_iff {n : Json.Number} : t.readNumber = .ok n ↔
    t = .number n ∧ ∀ x, n = .float x → x.isFinite = true := by
  cases t with
  | number m =>
    cases m with
    | int m =>
      rw [readNumber, Except.ok.injEq, number.injEq]
      · refine ⟨?_, And.left⟩
        rintro rfl
        exact ⟨rfl, nofun⟩
      · exact nofun
    | float x =>
      rw [readNumber]
      by_cases hx : x.isFinite = true
      · rw [if_pos hx, Except.ok.injEq, number.injEq]
        refine ⟨?_, And.left⟩
        rintro rfl
        exact ⟨rfl, fun y hy ↦ by cases hy; exact hx⟩
      · rw [if_neg hx]
        refine ⟨nofun, ?_⟩
        rintro ⟨heq, hfinite⟩
        cases heq
        exact absurd (hfinite x rfl) hx
  | array items ending => cases ending <;> simp [readNumber]
  | object members ending => cases ending <;> simp [readNumber]
  | null | bool _ | string _ | date _ | broken => simp [readNumber]

theorem readCount_eq_ok_iff {n : Nat} :
    t.readCount = .ok n ↔ n ≤ countLimit ∧ t = .number (.int n) := by
  cases t with
  | number m =>
    cases m with
    | int m =>
      rw [readCount, readNat]
      by_cases hm : 0 ≤ m ∧ m ≤ countLimit
      · rw [if_pos (by simpa using hm), Except.ok.injEq]
        constructor
        · rintro rfl
          exact ⟨by omega, by rw [Int.toNat_of_nonneg hm.1]⟩
        · rintro ⟨-, heq⟩
          cases heq
          exact Int.toNat_natCast n
      · rw [if_neg (by simpa using hm)]
        refine ⟨nofun, ?_⟩
        rintro ⟨hn, heq⟩
        cases heq
        exact absurd ⟨Int.natCast_nonneg n, Int.ofNat_le.mpr hn⟩ hm
    | float x => simp [readCount, readNat]
  | null | bool _ | string _ | date _ | array _ _ | object _ _ | broken => simp [readCount, readNat]

theorem readJson_eq_ok_iff {v : Json} : t.readJson = .ok v ↔ t.toJson? = some v := by
  rw [readJson]
  cases t.toJson? <;> simp

theorem readStrings_eq_ok_iff {texts : List String} : t.readStrings = .ok texts ↔
    ∃ ending : Ending, ending.isRead = true ∧ t = .array (texts.map .string) ending := by
  have hmapM : ∀ {items : List Tree} {texts : List String},
      items.mapM readString = .ok texts ↔ items = texts.map .string := by
    intro items texts
    rw [mapM_eq_ok_iff, ← List.forall₂_eq_eq_eq, List.forall₂_map_right_iff]
    simp only [readString_eq_ok_iff]
  cases t with
  | array items ending =>
    rw [readStrings, readList, bind_eq_ok_iff]
    constructor
    · rintro ⟨values, hvalues, h⟩
      split at h
      · rename_i hread
        cases h
        exact ⟨ending, hread, by rw [hmapM.mp hvalues]⟩
      · cases h
    · rintro ⟨_, hread, heq⟩
      cases heq
      exact ⟨texts, hmapM.mpr rfl, if_pos hread⟩
  | null | bool _ | number _ | string _ | date _ | object _ _ | broken =>
    simp [readStrings, readList]

theorem readOptional_of_ne_null (h : t ≠ .null) (read : Read α) :
    t.readOptional read = (read t).map some := by
  cases t with
  | null => exact absurd rfl h
  | bool _ | number _ | string _ | date _ | array _ _ | object _ _ | broken => rfl

theorem exists_readOptional_iff {read : Read α} :
    (∃ a, t.readOptional read = .ok a) ↔ (∃ a, read t = .ok a) ∨ t = .null := by
  by_cases h : t = .null
  · simp [h, readOptional]
  · simp [readOptional_of_ne_null h, map_eq_ok_iff, h]

theorem readOptional_eq_ok_iff {read : Read α} {a : Option α} : t.readOptional read = .ok a ↔
    t = .null ∧ a = none ∨ t ≠ .null ∧ ∃ b, read t = .ok b ∧ some b = a := by
  by_cases h : t = .null
  · simp [h, readOptional, eq_comm]
  · rw [readOptional_of_ne_null h, map_eq_ok_iff]
    simp [h]

end Single

/-! ### Entries under free keys -/

/-- Members of different keys are read one by one, each under its key. -/
theorem readKeyed_object_eq_ok_iff {read : Read α} {members : List (String × Tree)}
    (h : (Keyed.keys members).Nodup) {entries : List (String × α)} :
    (object members .strict).readKeyed read = .ok entries ↔
      List.Forall₂ (fun member entry ↦ entry.1 = member.1 ∧ read member.2 = .ok entry.2)
        members entries := by
  have hmapM : ∀ {entries : List (String × α)},
      (members.mapM fun member ↦ do return (member.1, ← read member.2)) = .ok entries ↔
        List.Forall₂ (fun member entry ↦ entry.1 = member.1 ∧ read member.2 = .ok entry.2)
          members entries := by
    intro entries
    have hentry : ∀ (member : String × Tree) (entry : String × α),
        (do return (member.1, ← read member.2)) = Except.ok entry ↔
          entry.1 = member.1 ∧ read member.2 = .ok entry.2 := by
      intro member entry
      rw [bind_eq_ok_iff]
      constructor
      · rintro ⟨a, ha, h⟩
        cases h
        exact ⟨rfl, ha⟩
      · rintro ⟨hkey, hread⟩
        exact ⟨entry.2, hread, by rw [← hkey]; rfl⟩
    rw [mapM_eq_ok_iff]
    simp only [hentry]
  have hkeys : ∀ {entries : List (String × α)},
      List.Forall₂ (fun member entry ↦ entry.1 = member.1 ∧ read member.2 = .ok entry.2)
        members entries → Keyed.ofList entries = entries := by
    intro entries hall
    have hsame : Keyed.keys members = Keyed.keys entries := by
      rw [Keyed.keys, Keyed.keys, ← List.forall₂_eq_eq_eq, List.forall₂_map_left_iff,
        List.forall₂_map_right_iff]
      exact hall.imp fun member entry hentry ↦ hentry.1.symm
    exact Keyed.ofList_of_nodup (hsame ▸ h)
  rw [readKeyed, bind_eq_ok_iff]
  constructor
  · rintro ⟨all, hall, h⟩
    have hread := hmapM.mp hall
    rw [hkeys hread] at h
    cases h
    exact hread
  · intro hread
    refine ⟨entries, hmapM.mpr hread, ?_⟩
    rw [hkeys hread]
    rfl

theorem exists_readKeyed_object_iff {read : Read α} {members : List (String × Tree)} :
    (∃ entries, (object members .strict).readKeyed read = .ok entries) ↔
      ∀ key t, (key, t) ∈ members → ∃ a, read t = .ok a := by
  constructor
  · rintro ⟨entries, h⟩ key t hmem
    obtain ⟨all, hall, -⟩ := bind_eq_ok_iff.mp h
    obtain ⟨entry, hentry⟩ := exists_mapM_iff.mp ⟨all, hall⟩ (key, t) hmem
    obtain ⟨a, ha, -⟩ := bind_eq_ok_iff.mp hentry
    exact ⟨a, ha⟩
  · intro hread
    have hentries : ∀ member ∈ members, ∃ entry : String × α,
        (do return (member.1, ← read member.2)) = Except.ok entry := by
      intro member hmem
      obtain ⟨a, ha⟩ := hread member.1 member.2 hmem
      exact ⟨(member.1, a), bind_eq_ok_iff.mpr ⟨a, ha, rfl⟩⟩
    obtain ⟨all, hall⟩ := exists_mapM_iff.mpr hentries
    exact ⟨Keyed.ofList all, bind_eq_ok_iff.mpr ⟨all, hall, rfl⟩⟩

theorem nodup_keys_of_readKeyed {read : Read α} {t : Tree}
    {entries : List (String × α)} (h : t.readKeyed read = .ok entries) :
    (Keyed.keys entries).Nodup := by
  cases t with
  | object members ending =>
    obtain ⟨all, -, h⟩ := bind_eq_ok_iff.mp h
    split at h
    · cases h
      exact Keyed.nodup_keys_ofList all
    · cases h
  | date s =>
    obtain ⟨a, -, h⟩ := bind_eq_ok_iff.mp h
    cases h
    simp [Keyed.keys]
  | null | bool _ | number _ | string _ | array _ _ | broken => cases h

/-- Every value that was read was read from a tree. -/
theorem exists_read_of_mem_readKeyed {read : Read α} {t : Tree}
    {entries : List (String × α)} (h : t.readKeyed read = .ok entries) {key : String} {a : α}
    (hmem : (key, a) ∈ entries) : ∃ t, read t = .ok a := by
  cases t with
  | object members ending =>
    obtain ⟨all, hall, h⟩ := bind_eq_ok_iff.mp h
    split at h
    · cases h
      obtain ⟨⟨_, t⟩, -, hread⟩ := exists_of_mem_mapM hall (Keyed.mem_of_mem_ofList hmem)
      obtain ⟨a', ha, hsame⟩ := bind_eq_ok_iff.mp hread
      cases hsame
      exact ⟨t, ha⟩
    · cases h
  | date s =>
    obtain ⟨a', ha, h⟩ := bind_eq_ok_iff.mp h
    cases h
    cases List.mem_singleton.mp hmem
    exact ⟨.string s, ha⟩
  | null | bool _ | number _ | string _ | array _ _ | broken => cases h

/-! ### One entry after the other -/

section Fold

variable {member : δ → String → Tree → Except ReadError δ} {fields : List String} {start draft : δ}
  {t : Tree}

theorem foldlM_of_readRecord (h : t.readRecord start member fields = .ok draft) :
    (t.entries fields).foldlM (fun d (entry : String × Tree) ↦ member d entry.1 entry.2) start =
      .ok draft := by
  cases t with
  | object members ending =>
    obtain ⟨d, hd, h⟩ := bind_eq_ok_iff.mp h
    split at h
    · cases h
      exact hd
    · cases h
  | array items ending =>
    obtain ⟨d, hd, h⟩ := bind_eq_ok_iff.mp h
    have hsame : d = draft := by
      cases ending with
      | strict =>
        dsimp only at h
        split at h
        · exact Except.ok.inj h
        · cases h
      | lenient => exact Except.ok.inj h
      | missing => cases h
      | tooDeep => cases h
    exact hsame ▸ hd
  | date s =>
    rw [entries, List.foldlM_cons]
    exact bind_eq_ok_iff.mpr ⟨draft, h, rfl⟩
  | null => cases h
  | bool b => cases h
  | number n => cases h
  | string s => cases h
  | broken => cases h

/-- What the start of a record meets and every entry preserves holds of the record. -/
theorem readRecord_invariant {motive : δ → Prop} (hstart : motive start)
    (hstep : ∀ d key t d', motive d → member d key t = .ok d' → motive d')
    (h : t.readRecord start member fields = .ok draft) : motive draft := by
  have hfold := foldlM_of_readRecord h
  clear h
  generalize t.entries fields = entries at hfold
  induction entries generalizing start with
  | nil =>
    cases hfold
    exact hstart
  | cons entry rest ih =>
    rw [List.foldlM_cons] at hfold
    obtain ⟨d, hd, hrest⟩ := bind_eq_ok_iff.mp hfold
    exact ih (hstep start entry.1 entry.2 d hstart hd) hrest

end Fold

/-! ### Entries that take slots -/

section Slots

variable {κ : Type} {member : δ → String → Tree → Except ReadError δ}
  {slot : String → Option κ} {seen : δ → List κ} {accepts : κ → Tree → Prop}
  {entries : List (String × Tree)} {d d' : δ}

/-- Each entry takes the slot of its key, which none before it may have taken, with a value that the
slot accepts. -/
structure Slots (member : δ → String → Tree → Except ReadError δ) (slot : String → Option κ)
    (seen : δ → List κ) (accepts : κ → Tree → Prop) : Prop where
  takes : ∀ {d key t d'}, member d key t = .ok d' →
    ∃ k, slot key = some k ∧ k ∉ seen d ∧ accepts k t ∧ seen d' = k :: seen d
  taken : ∀ {key t k} (d : δ), slot key = some k → k ∉ seen d → accepts k t →
    ∃ d', member d key t = .ok d'

/-- A draft takes all entries if each has a slot of its own that accepts it. -/
theorem Slots.exists_foldlM_iff (h : Slots member slot seen accepts) :
    (∃ d', entries.foldlM (fun d (entry : String × Tree) ↦ member d entry.1 entry.2) d = .ok d') ↔
      (∀ entry ∈ entries, ∃ k, slot entry.1 = some k ∧ k ∉ seen d ∧ accepts k entry.2) ∧
        (entries.map fun entry ↦ slot entry.1).Nodup := by
  induction entries generalizing d with
  | nil => exact ⟨fun _ ↦ ⟨nofun, List.nodup_nil⟩, fun _ ↦ ⟨d, rfl⟩⟩
  | cons entry rest ih =>
    obtain ⟨key, t⟩ := entry
    rw [List.map_cons, List.nodup_cons]
    constructor
    · rintro ⟨d', hfold⟩
      rw [List.foldlM_cons] at hfold
      obtain ⟨next, hnext, hrest⟩ := bind_eq_ok_iff.mp hfold
      obtain ⟨k, hslot, hnew, haccepts, hseen⟩ := h.takes hnext
      obtain ⟨hall, hnodup⟩ := ih.mp ⟨d', hrest⟩
      refine ⟨fun entry hentry ↦ ?_, fun hmem ↦ ?_, hnodup⟩
      · rcases List.mem_cons.mp hentry with rfl | hentry
        · exact ⟨k, hslot, hnew, haccepts⟩
        · obtain ⟨k', hslot', hnew', haccepts'⟩ := hall entry hentry
          rw [hseen] at hnew'
          exact ⟨k', hslot', fun hold ↦ hnew' (List.mem_cons_of_mem k hold), haccepts'⟩
      · obtain ⟨other, hother, hsame⟩ := List.mem_map.mp hmem
        obtain ⟨k', hslot', hnew', -⟩ := hall other hother
        rw [hseen] at hnew'
        have hk : k' = k := Option.some.inj (hslot'.symm.trans (hsame.trans hslot))
        exact hnew' (hk ▸ List.mem_cons_self)
    · rintro ⟨hall, hfirst, hnodup⟩
      obtain ⟨k, hslot, hnew, haccepts⟩ := hall (key, t) List.mem_cons_self
      obtain ⟨next, hnext⟩ := h.taken d hslot hnew haccepts
      obtain ⟨k', hslot', -, -, hseen⟩ := h.takes hnext
      have hk : k' = k := Option.some.inj (hslot'.symm.trans hslot)
      have hothers : ∀ entry ∈ rest, ∃ k, slot entry.1 = some k ∧ k ∉ seen next ∧
          accepts k entry.2 := by
        intro entry hentry
        obtain ⟨other, hother, hnew', haccepts'⟩ := hall entry (List.mem_cons_of_mem _ hentry)
        refine ⟨other, hother, ?_, haccepts'⟩
        rw [hseen, hk, List.mem_cons, not_or]
        refine ⟨?_, hnew'⟩
        rintro rfl
        exact hfirst (List.mem_map.mpr ⟨entry, hentry, hother.trans hslot.symm⟩)
      obtain ⟨d', hrest⟩ := ih.mpr ⟨hothers, hnodup⟩
      refine ⟨d', ?_⟩
      rw [List.foldlM_cons]
      exact bind_eq_ok_iff.mpr ⟨next, hnext, hrest⟩

/-- Assumes: members of different keys, each of which is a slot, and none taken at the start. -/
theorem Slots.exists_readRecord_iff {seen : δ → List String} {accepts : String → Tree → Prop}
    (h : Slots member some seen accepts) (hstart : seen d = []) {fields : List String}
    {members : List (String × Tree)} (hnodup : (Keyed.keys members).Nodup) :
    (∃ d', (object members .strict).readRecord d member fields = .ok d') ↔
      ∀ key t, (key, t) ∈ members → accepts key t := by
  have hrecord : (∃ d', (object members .strict).readRecord d member fields = .ok d') ↔
      ∃ d', members.foldlM (fun d (entry : String × Tree) ↦ member d entry.1 entry.2) d =
        .ok d' := by
    refine exists_congr fun d' ↦ bind_eq_ok_iff.trans ⟨?_, fun hfold ↦ ⟨d', hfold, rfl⟩⟩
    rintro ⟨_, hfold, heq⟩
    cases heq
    exact hfold
  have hslots : (members.map fun entry ↦ some entry.1).Nodup := by
    have hmap : ((Keyed.keys members).map some).Nodup :=
      List.Pairwise.map some (fun _ _ hne heq ↦ hne (Option.some.inj heq)) hnodup
    rwa [Keyed.keys, List.map_map] at hmap
  rw [hrecord, h.exists_foldlM_iff, hstart]
  constructor
  · rintro ⟨hall, -⟩ key t hmem
    obtain ⟨_, heq, -, haccepts⟩ := hall (key, t) hmem
    cases heq
    exact haccepts
  · exact fun hall ↦ ⟨fun entry hmem ↦ ⟨entry.1, rfl, List.not_mem_nil, hall _ _ hmem⟩, hslots⟩

variable [DecidableEq κ]

/-- What stands first under one of the keys of a slot. -/
def inSlot (slot : String → Option κ) (k : κ) (entries : List (String × Tree)) : Option Tree :=
  (entries.find? fun entry ↦ slot entry.1 = some k).map Prod.snd

theorem inSlot_cons (k : κ) (key : String) (t : Tree) :
    inSlot slot k ((key, t) :: entries) =
      if slot key = some k then some t else inSlot slot k entries := by
  rw [inSlot, inSlot, List.find?_cons]
  by_cases hslot : slot key = some k <;> simp [hslot]

/-- A field that the entry in one slot sets and all others leave, where no slot is taken twice. -/
structure Fills (member : δ → String → Tree → Except ReadError δ) (slot : String → Option κ)
    (seen : δ → List κ) (k : κ) (read : Read α) (get : δ → α) : Prop where
  takes : ∀ {d key t d'}, member d key t = .ok d' →
    ∃ k, slot key = some k ∧ k ∉ seen d ∧ seen d' = k :: seen d
  value : ∀ {d key t d'}, member d key t = .ok d' →
    if slot key = some k then read t = .ok (get d') else get d' = get d

namespace Fills

variable {k : κ} {read : Read α} {get : δ → α}

theorem inSlot_eq_none (h : Fills member slot seen k read get)
    (hfold : entries.foldlM (fun d (entry : String × Tree) ↦ member d entry.1 entry.2) d = .ok d')
    {k' : κ} (hk : k' ∈ seen d) : inSlot slot k' entries = none := by
  induction entries generalizing d with
  | nil => rfl
  | cons entry rest ih =>
    obtain ⟨key, t⟩ := entry
    rw [List.foldlM_cons] at hfold
    obtain ⟨next, hnext, hrest⟩ := bind_eq_ok_iff.mp hfold
    obtain ⟨first, hslot, hnew, hseen⟩ := h.takes hnext
    have hne : slot key ≠ some k' := by
      rw [hslot]
      rintro heq
      cases heq
      exact hnew hk
    rw [inSlot_cons, if_neg hne]
    exact ih hrest (hseen ▸ List.mem_cons_of_mem first hk)

theorem hasValue (h : Fills member slot seen k read get)
    (hfold : entries.foldlM (fun d (entry : String × Tree) ↦ member d entry.1 entry.2) d = .ok d') :
    HasValue read (get d) (get d') (inSlot slot k entries) := by
  induction entries generalizing d with
  | nil =>
    cases hfold
    rfl
  | cons entry rest ih =>
    obtain ⟨key, t⟩ := entry
    rw [List.foldlM_cons] at hfold
    obtain ⟨next, hnext, hrest⟩ := bind_eq_ok_iff.mp hfold
    have hfirst := h.value hnext
    have hothers := ih hrest
    rw [inSlot_cons]
    by_cases hslot : slot key = some k
    · rw [if_pos hslot] at hfirst ⊢
      obtain ⟨k', hslot', -, hseen⟩ := h.takes hnext
      cases hslot'.symm.trans hslot
      rw [h.inSlot_eq_none hrest (hseen ▸ List.mem_cons_self)] at hothers
      have hkept : get d' = get next := hothers
      rw [HasValue, hkept]
      exact hfirst
    · rw [if_neg hslot] at hfirst ⊢
      rw [← hfirst]
      exact hothers

end Fills

end Slots

/-! ### Entries that set fields -/

theorem once_eq_ok_iff {seen seen' : List String} {key : String} :
    once seen key = .ok seen' ↔ key ∉ seen ∧ seen' = key :: seen := by
  by_cases hseen : key ∈ seen <;> simp [once, hseen, eq_comm]

/-- A member is read if its key is known and was not seen before. -/
theorem take_eq_ok_iff {keys seen : List String} {key : String}
    {rest : List String → Except ReadError α} {a : α} :
    (do
      if !keys.contains key then throw (ReadError.unknownField key)
      let seen ← once seen key
      rest seen) = .ok a ↔ key ∈ keys ∧ key ∉ seen ∧ rest (key :: seen) = .ok a := by
  by_cases hkey : key ∈ keys
  · have hknown : (!keys.contains key) = false := by simp [hkey]
    rw [hknown]
    change (once seen key >>= rest) = .ok a ↔ _
    rw [bind_eq_ok_iff]
    simp [once_eq_ok_iff, hkey, and_assoc]
  · simp [hkey, throw, throwThe, MonadExceptOf.throw, bind, Except.bind]

/-- A field that the entry of a key sets and all others leave, where a draft tells the keys that it
has seen and sees none of them twice. -/
structure Reads (member : List String × δ → String → Tree → Except ReadError (List String × δ))
    (key : String) (read : Read α) (get : δ → α) : Prop where
  seen : ∀ {before d name t after d'}, member (before, d) name t = .ok (after, d') →
    name ∉ before ∧ after = name :: before
  value : ∀ {before d name t after d'}, member (before, d) name t = .ok (after, d') →
    if name = key then read t = .ok (get d') else get d' = get d

theorem inSlot_some (key : String) (entries : List (String × Tree)) :
    inSlot some key entries = Keyed.find? key entries := by
  induction entries with
  | nil => rfl
  | cons entry rest ih =>
    obtain ⟨name, t⟩ := entry
    rw [inSlot_cons, Keyed.find?, ih]
    simp

namespace Reads

variable {member : List String × δ → String → Tree → Except ReadError (List String × δ)}
  {key : String} {read : Read α} {get : δ → α} {before after : List String} {d d' : δ}

/-- Each key is a slot. -/
theorem fills (h : Reads member key read get) :
    Fills member some Prod.fst key read fun draft ↦ get draft.2 := by
  refine ⟨fun {draft name t draft'} hmember ↦ ?_, fun {draft name t draft'} hmember ↦ ?_⟩
  · obtain ⟨hnew, hafter⟩ := h.seen hmember
    exact ⟨name, rfl, hnew, hafter⟩
  · have hvalue := h.value hmember
    simpa using hvalue

/-- A field of a record is what its entry says, or else what it was to begin with. -/
theorem hasValue (h : Reads member key read get) {fields : List String} {t : Tree}
    (hread : t.readRecord (before, d) member fields = .ok (after, d')) :
    HasValue read (get d) (get d') (t.field? fields key) := by
  have hvalue := h.fills.hasValue (foldlM_of_readRecord hread)
  rw [inSlot_some] at hvalue
  exact hvalue

end Reads

/-- A member is taken if its key was not seen before and sets a field with it. -/
def SetsOnce (member : List String × δ → String → Tree → Except ReadError (List String × δ))
    (sets : δ → String → Tree → δ → Prop) : Prop :=
  ∀ {seen d key t seen' d'}, member (seen, d) key t = .ok (seen', d') ↔
    (key ∉ seen ∧ seen' = key :: seen) ∧ sets d key t d'

namespace SetsOnce

variable {member : List String × δ → String → Tree → Except ReadError (List String × δ)}
  {sets : δ → String → Tree → δ → Prop}

theorem slots (h : SetsOnce member sets) {accepts : String → Tree → Prop}
    (haccepts : ∀ {d key t d'}, sets d key t d' → accepts key t)
    (hsets : ∀ {key t}, accepts key t → ∀ d, ∃ d', sets d key t d') :
    Slots member some Prod.fst accepts := by
  constructor
  · rintro ⟨seen, d⟩ key t ⟨seen', d'⟩ hmember
    obtain ⟨⟨hnew, hseen⟩, hset⟩ := h.mp hmember
    exact ⟨key, rfl, hnew, haccepts hset, hseen⟩
  · rintro key t _ ⟨seen, d⟩ heq hnew haccepted
    cases heq
    obtain ⟨d', hset⟩ := hsets haccepted d
    exact ⟨(key :: seen, d'), h.mpr ⟨⟨hnew, rfl⟩, hset⟩⟩

/-- Assumes: a field that its own key sets and no other does. -/
theorem reads (h : SetsOnce member sets) {key : String} {read : Read α} {get : δ → α}
    (hfield : ∀ {d name t d'}, sets d name t d' →
      if name = key then read t = .ok (get d') else get d' = get d) :
    Reads member key read get := by
  constructor <;> intro before d name t after d' hmember <;> obtain ⟨hseen, hset⟩ := h.mp hmember
  · exact hseen
  · exact hfield hset

end SetsOnce

end Tree

/-! ### The tree of a document -/

namespace Schema.Format

/-- The tree of a whole text in one of the two forms. -/
def tree? : Format → String → Option Tree
  | json, text => if (Json.readTree text).2 = true then some (Json.readTree text).1 else none
  | toml, text => Toml.readTree? text

theorem readText_of_tree? {α : Type} {format : Format} {text : String} {t : Tree}
    (h : format.tree? text = some t) (read : Tree.Read α) :
    format.readText read text = read t := by
  cases format with
  | json =>
    rw [tree?] at h
    split_ifs at h with hclean
    cases h
    rw [readText, Json.readText]
    cases hread : read (Json.readTree text).1 with
    | error e =>
      dsimp only
      rw [hread]
      rfl
    | ok a =>
      dsimp only
      rw [hread]
      exact if_pos hclean
  | toml =>
    rw [tree?] at h
    rw [readText, h]

theorem readText_eq_ok_iff {α : Type} {format : Format} {read : Tree.Read α} {text : String}
    {a : α} : format.readText read text = .ok a ↔
      ∃ t, format.tree? text = some t ∧ read t = .ok a := by
  cases format with
  | json =>
    rw [readText, Json.readText, tree?, bind_eq_ok_iff]
    by_cases hclean : (Json.readTree text).2 = true <;> simp [hclean]
  | toml =>
    rw [readText, tree?]
    cases Toml.readTree? text <;> simp

end Schema.Format

end SchemaRouting
