import Mathlib.Data.List.Forall2
import SchemaRouting.Keyed

/-!
When a computation that can fail succeeds, every part of it has succeeded, and when it fails its
error is that of the first part that does. These are the facts by which a composed check is taken
apart.

Two computations agree if both succeed with related results or both fail with related errors
(`Agree`). Computations that are composed of parts which agree, one after the other or along two
lists, agree (`Agree.bind`, `agree_mapM`, `agree_foldlM`).
-/

set_option autoImplicit false
set_option relaxedAutoImplicit false

namespace SchemaRouting

variable {ε α β : Type}

theorem bind_eq_ok_iff {x : Except ε α} {f : α → Except ε β} {b : β} :
    x >>= f = .ok b ↔ ∃ a, x = .ok a ∧ f a = .ok b := by
  cases x with
  | error e =>
    constructor
    · intro h
      cases h
    · rintro ⟨a, ha, -⟩
      cases ha
  | ok a =>
    constructor
    · intro h
      exact ⟨a, rfl, h⟩
    · rintro ⟨a', ha, h⟩
      cases ha
      exact h

theorem bind_eq_error_iff {x : Except ε α} {f : α → Except ε β} {e : ε} :
    x >>= f = .error e ↔ x = .error e ∨ ∃ a, x = .ok a ∧ f a = .error e := by
  cases x with
  | error e' =>
    constructor
    · intro h
      cases h
      exact .inl rfl
    · rintro (h | ⟨a, ha, -⟩)
      · cases h
        rfl
      · cases ha
  | ok a =>
    constructor
    · intro h
      exact .inr ⟨a, rfl, h⟩
    · rintro (h | ⟨a', ha, h⟩)
      · cases h
      · cases ha
        exact h

theorem map_eq_ok_iff {x : Except ε α} {f : α → β} {b : β} :
    x.map f = .ok b ↔ ∃ a, x = .ok a ∧ f a = b := by
  cases x with
  | error e => simp [Except.map]
  | ok a => simp [Except.map]

theorem exists_map_iff {x : Except ε α} {f : α → β} :
    (∃ b, x.map f = .ok b) ↔ ∃ a, x = .ok a := by
  cases x <;> simp [Except.map]

theorem map_eq_error_iff {x : Except ε α} {f : α → β} {e : ε} :
    x.map f = .error e ↔ x = .error e := by
  cases x with
  | error e' => simp [Except.map]
  | ok a => simp [Except.map]

/-- What is gathered from a list is what its members give, one by one. -/
theorem mapM_eq_ok_iff {f : α → Except ε β} {as : List α} {bs : List β} :
    as.mapM f = .ok bs ↔ List.Forall₂ (fun a b ↦ f a = .ok b) as bs := by
  induction as generalizing bs with
  | nil => simp [pure, Except.pure, eq_comm]
  | cons a rest ih =>
    rw [List.mapM_cons, bind_eq_ok_iff]
    constructor
    · rintro ⟨b, hb, h⟩
      obtain ⟨others, hothers, h⟩ := bind_eq_ok_iff.mp h
      cases h
      exact .cons hb (ih.mp hothers)
    · intro h
      cases h with
      | @cons _ b _ others hb hothers =>
        exact ⟨b, hb, bind_eq_ok_iff.mpr ⟨others, ih.mpr hothers, rfl⟩⟩

theorem exists_mapM_iff {f : α → Except ε β} {as : List α} :
    (∃ bs, as.mapM f = .ok bs) ↔ ∀ a ∈ as, ∃ b, f a = .ok b := by
  simp only [mapM_eq_ok_iff]
  induction as with
  | nil => exact ⟨fun _ ↦ nofun, fun _ ↦ ⟨[], .nil⟩⟩
  | cons a rest ih =>
    rw [List.forall_mem_cons, ← ih]
    constructor
    · rintro ⟨_, _ | ⟨hb, hothers⟩⟩
      exact ⟨⟨_, hb⟩, _, hothers⟩
    · rintro ⟨⟨b, hb⟩, others, hothers⟩
      exact ⟨b :: others, .cons hb hothers⟩

/-- Nothing is gathered from a list if some member gives none, and the error is that of the first
one that does not. -/
theorem mapM_eq_error_iff {f : α → Except ε β} {as : List α} {e : ε} :
    as.mapM f = .error e ↔ ∃ front a back, as = front ++ a :: back ∧
      (∀ other ∈ front, ∃ b, f other = .ok b) ∧ f a = .error e := by
  induction as with
  | nil => simp [pure, Except.pure]
  | cons a rest ih =>
    rw [List.mapM_cons, bind_eq_error_iff]
    constructor
    · rintro (ha | ⟨b, hb, h⟩)
      · exact ⟨[], a, rest, rfl, nofun, ha⟩
      · rcases bind_eq_error_iff.mp h with hrest | ⟨others, -, h⟩
        · obtain ⟨front, first, back, rfl, hfront, hfirst⟩ := ih.mp hrest
          exact ⟨a :: front, first, back, rfl, List.forall_mem_cons.mpr ⟨⟨b, hb⟩, hfront⟩, hfirst⟩
        · cases h
    · rintro ⟨front, first, back, hsplit, hfront, hfirst⟩
      cases front with
      | nil =>
        cases hsplit
        exact .inl hfirst
      | cons other front =>
        cases hsplit
        obtain ⟨⟨b, hb⟩, hfront⟩ := List.forall_mem_cons.mp hfront
        have hrest := ih.mpr ⟨front, first, back, rfl, hfront, hfirst⟩
        exact .inr ⟨b, hb, bind_eq_error_iff.mpr (.inl hrest)⟩

/-- What is gathered from a list was obtained from its members. -/
theorem exists_of_mem_mapM {f : α → Except ε β} {as : List α} {bs : List β} {b : β}
    (h : as.mapM f = .ok bs) (hb : b ∈ bs) : ∃ a ∈ as, f a = .ok b := by
  induction as generalizing bs with
  | nil =>
    cases h
    cases hb
  | cons a rest ih =>
    rw [List.mapM_cons] at h
    obtain ⟨first, hfirst, h⟩ := bind_eq_ok_iff.mp h
    obtain ⟨others, hothers, h⟩ := bind_eq_ok_iff.mp h
    cases h
    rcases List.mem_cons.mp hb with rfl | hb
    · exact ⟨a, List.mem_cons_self, hfirst⟩
    · obtain ⟨other, hmem, hother⟩ := ih hothers hb
      exact ⟨other, List.mem_cons_of_mem a hmem, hother⟩

/-! ### Two computations side by side -/

/-- Both computations succeed with related results, or both fail with related errors. -/
inductive Agree {ε α ε' β : Type} (R : α → β → Prop) (E : ε → ε' → Prop) :
    Except ε α → Except ε' β → Prop
  | ok {a : α} {b : β} : R a b → Agree R E (.ok a) (.ok b)
  | error {e : ε} {e' : ε'} : E e e' → Agree R E (.error e) (.error e')

section Agree

variable {ε' α' β' : Type} {R : α → β → Prop} {S : α' → β' → Prop} {E : ε → ε' → Prop}
  {x : Except ε α} {y : Except ε' β}

theorem agree_self {R : α → α → Prop} {E : ε → ε → Prop} (hR : ∀ a, R a a) (hE : ∀ e, E e e)
    (x : Except ε α) : Agree R E x x := by
  cases x with
  | ok a => exact .ok (hR a)
  | error e => exact .error (hE e)

theorem Agree.imp {S : α → β → Prop} (h : Agree R E x y) (hRS : ∀ a b, R a b → S a b) :
    Agree S E x y := by
  cases h with
  | ok hab => exact .ok (hRS _ _ hab)
  | error he => exact .error he

theorem Agree.bind {f : α → Except ε α'} {g : β → Except ε' β'} (h : Agree R E x y)
    (hfg : ∀ a b, R a b → Agree S E (f a) (g b)) : Agree S E (x >>= f) (y >>= g) := by
  cases h with
  | ok hab => exact hfg _ _ hab
  | error he => exact .error he

theorem Agree.map {f : α → α'} {g : β → β'} (h : Agree R E x y)
    (hfg : ∀ a b, R a b → S (f a) (g b)) : Agree S E (x.map f) (y.map g) := by
  cases h with
  | ok hab => exact .ok (hfg _ _ hab)
  | error he => exact .error he

theorem agree_mapM {P : α' → β' → Prop} {f : α' → Except ε α} {g : β' → Except ε' β}
    {as : List α'} {bs : List β'} (h : List.Forall₂ P as bs)
    (hfg : ∀ a b, P a b → Agree R E (f a) (g b)) :
    Agree (List.Forall₂ R) E (as.mapM f) (bs.mapM g) := by
  induction h with
  | nil => exact .ok .nil
  | cons hab _ ih =>
    rw [List.mapM_cons, List.mapM_cons]
    exact (hfg _ _ hab).bind fun _ _ hfirst ↦ ih.bind fun _ _ hothers ↦ .ok (.cons hfirst hothers)

theorem agree_foldlM {P : α' → β' → Prop} {f : α → α' → Except ε α} {g : β → β' → Except ε' β}
    {as : List α'} {bs : List β'} (h : List.Forall₂ P as bs)
    (hfg : ∀ d d' a b, R d d' → P a b → Agree R E (f d a) (g d' b)) {d : α} {d' : β} (hd : R d d') :
    Agree R E (as.foldlM f d) (bs.foldlM g d') := by
  induction h generalizing d d' with
  | nil => exact .ok hd
  | cons hab _ ih =>
    rw [List.foldlM_cons, List.foldlM_cons]
    exact (hfg d d' _ _ hd hab).bind fun _ _ hnext ↦ ih hnext

end Agree

end SchemaRouting
