import SchemaRouting.Proofs.Rule.Outcome

/-!
# Checking a checked value again

What a rule lets through it lets through again and leaves as it is (`validate_idempotent`): texts
are trimmed already, items and declared members have come from their own rules, and the undeclared
members are those of the first time. A default is the exception, since the first check sets it
without checking it and the second one finds it as a member. The defaults therefore have to be
values that their own rules leave as they are (`DefaultsStay`).
-/

set_option autoImplicit false
set_option relaxedAutoImplicit false

namespace SchemaRouting.Rule

variable {mode : Strictness} {rule : Rule}

/-- Wherever a rule inside a rule declares a property that is not required, the property lets its
default through as it is. -/
inductive DefaultsStay (mode : Strictness) : Rule → Prop
  | mk {rule : Rule} :
    (∀ name property d, (name, property) ∈ rule.kind.declared → property.required = false →
      property.default = some d → property.validate mode d = .ok d) →
    (∀ child ∈ rule.kind.children, DefaultsStay mode child) → DefaultsStay mode rule

/-- What a rule lets through it lets through again, as it is and in any place. -/
def Settles (mode : Strictness) (rule : Rule) : Prop :=
  ∀ (path path' : String) (v w : Json), check mode rule path v = .ok w →
    check mode rule path' w = .ok w

/-- Assumes: items that settle. -/
theorem checkItems_again {item : Rule} (hitem : item.Settles mode) {path : String} {index : Nat}
    {values ws : List Json} (h : checkItems (check mode item) path index values = .ok ws)
    (path' : String) (index' : Nat) : checkItems (check mode item) path' index' ws = .ok ws := by
  induction values generalizing index index' ws with
  | nil =>
    rw [checkItems] at h
    cases h
    rw [checkItems]
  | cons v rest ih =>
    rw [checkItems] at h
    obtain ⟨w, hw, h⟩ := bind_eq_ok_iff.mp h
    obtain ⟨others, hothers, h⟩ := bind_eq_ok_iff.mp h
    cases h
    have hfirst := hitem (itemPath path index) (itemPath path' index') v w hw
    rw [checkItems]
    exact bind_eq_ok_iff.mpr ⟨w, hfirst, bind_eq_ok_iff.mpr ⟨others, ih hothers _, rfl⟩⟩

/-! ### Objects -/

section Objects

variable {properties : List (String × Rule)} {members declared normalized : List (String × Json)}
  {path name : String} {property : Rule}

/-- Assumes: a property that settles and lets its default through, and an object that has under its
name what came of it. The same comes of it again. -/
theorem propertyValue_again (hnodup : (Keyed.keys properties).Nodup)
    (hmem : (name, property) ∈ properties) (hsettles : property.Settles mode)
    (hdefault : ∀ d, property.required = false → property.default = some d →
      property.validate mode d = .ok d)
    (hdeclared : checkProperties mode members path properties = .ok declared)
    (hsame : Keyed.find? name normalized = Keyed.find? name declared) (path' : String) :
    propertyValue mode normalized path' name property = .ok (Keyed.find? name declared) := by
  cases hthere : Keyed.find? name members with
  | some v =>
    obtain ⟨w, hw, hcheck⟩ := checked_of_checkProperties hnodup hmem hdeclared hthere
    rw [propertyValue_of_some (hsame.trans hw), hw]
    exact map_eq_ok_iff.mpr ⟨w, hsettles _ _ v w hcheck, rfl⟩
  | none =>
    obtain ⟨hrequired, hfound⟩ := default_of_checkProperties hnodup hmem hdeclared hthere
    cases hd : property.default with
    | none =>
      have hnone : Keyed.find? name declared = none := hfound.trans hd
      rw [propertyValue_of_none (hsame.trans hnone), hnone]
      simp [hrequired, hd]
    | some d =>
      -- The default was set unchecked, and is a member now.
      have hsome : Keyed.find? name declared = some d := hfound.trans hd
      rw [propertyValue_of_some (hsame.trans hsome), hsome]
      exact map_eq_ok_iff.mpr ⟨d, hsettles _ _ d d (hdefault d hrequired hd), rfl⟩

/-- Assumes: an ascending object, in which each property finds again what it makes of it. With its
own undeclared members set besides, the declared part is the object itself. -/
theorem withUndeclared_again {again : List (String × Json)} (hnodup : (Keyed.keys properties).Nodup)
    (hascending : Keyed.Ascending normalized)
    (hvalues : ∀ name property, (name, property) ∈ properties →
      propertyValue mode normalized path name property = .ok (Keyed.find? name normalized))
    (hagain : checkProperties mode normalized path properties = .ok again) :
    withUndeclared properties normalized again = normalized := by
  have hfind := find?_withUndeclared hascending
    fun name hname ↦ find?_eq_none_of_checkProperties hname hagain
  apply (ascending_withUndeclared (ascending_of_checkProperties hagain)).ext hascending
  intro key
  rw [hfind]
  split_ifs with hkey
  · obtain ⟨⟨name, property⟩, hmem, rfl⟩ := List.mem_map.mp hkey
    have hvalue := propertyValue_of_checkProperties hnodup hmem hagain
    rw [hvalues name property hmem] at hvalue
    exact (Except.ok.inj hvalue).symm
  · rfl

/-- Where there was no undeclared member, there is none in what the properties made. -/
theorem undeclared_again (hdeclared : checkProperties mode members path properties = .ok declared)
    (hnil : undeclared properties members = []) :
    undeclared properties (withUndeclared properties members declared) = [] := by
  rw [undeclared_eq_nil_iff]
  unfold withUndeclared
  rw [hnil, List.foldl_nil]
  intro key hkey
  by_contra hnot
  exact Keyed.find?_eq_none_iff.mp (find?_eq_none_of_checkProperties hnot hdeclared) hkey

/-- Assumes: properties that settle and let their defaults through. -/
theorem check_object_again {allowUnknown : Bool}
    (hkind : rule.kind = .object properties allowUnknown)
    (hnodup : (Keyed.keys properties).Nodup)
    (hsettles : ∀ name property, (name, property) ∈ properties → property.Settles mode)
    (hdefaults : ∀ name property d, (name, property) ∈ properties → property.required = false →
      property.default = some d → property.validate mode d = .ok d)
    {w : Json} (h : check mode rule path (.object members) = .ok w) (path' : String) :
    check mode rule path' w = .ok w := by
  rw [check_object hkind] at h
  obtain ⟨declared, hdeclared, h⟩ := bind_eq_ok_iff.mp h
  obtain ⟨normalized, hnormalized, h⟩ := bind_eq_ok_iff.mp h
  cases h
  obtain ⟨hallowed, rfl⟩ := copyUndeclared_eq_ok_iff.mp hnormalized
  have hvalues (name : String) (property : Rule) (hmem : (name, property) ∈ properties) :
      propertyValue mode (withUndeclared properties members declared) path' name property =
        .ok (Keyed.find? name (withUndeclared properties members declared)) := by
    have hsame : Keyed.find? name (withUndeclared properties members declared) =
        Keyed.find? name declared :=
      find?_withUndeclared_of_mem (Keyed.mem_keys_of_mem hmem) declared
    rw [propertyValue_again hnodup hmem (hsettles name property hmem)
      (fun d ↦ hdefaults name property d hmem) hdeclared hsame, hsame]
  obtain ⟨again, hagain⟩ := exists_checkProperties_eq_ok fun name property hmem ↦
    ⟨_, hvalues name property hmem⟩
  have hstays := withUndeclared_again hnodup
    (ascending_withUndeclared (ascending_of_checkProperties hdeclared)) hvalues hagain
  rw [check_object hkind]
  refine bind_eq_ok_iff.mpr ⟨again, hagain, bind_eq_ok_iff.mpr ⟨_, ?_, rfl⟩⟩
  exact copyUndeclared_eq_ok_iff.mpr
    ⟨hallowed.imp_right (undeclared_again hdeclared), hstays.symm⟩

end Objects

/-! ### Whole values -/

theorem DefaultsStay.settles (hdefaults : rule.DefaultsStay mode) (hrule : rule.Distinct) :
    rule.Settles mode := by
  induction rule using childInduction with
  | step rule ih =>
    obtain ⟨hstay, hinside⟩ := hdefaults
    have hchildren (child : Rule) (hchild : child ∈ rule.kind.children) : child.Settles mode :=
      ih child hchild (hinside child hchild) (hrule.child hchild)
    intro path path' v w h
    by_cases hnull : v = .null
    · subst hnull
      rw [check_null] at h
      split_ifs at h with hrequired
      cases h
      rw [check_null, if_neg hrequired]
    by_cases hfits : rule.kind.fits v = true
    · have hfitting := Kind.fitting_of_fits hfits
      generalize hkind : rule.kind = kind at hfitting
      cases hfitting with
      | string settings s =>
        rw [check_string hkind] at h
        split_ifs at h with hmin hmax hallows
        cases h
        -- The text that is kept is measured a second time as it was the first.
        rw [check_string hkind, Text.kept_kept, if_neg hmin, if_neg hmax, if_neg hallows]
      | integer minimum maximum hn =>
        rw [check_integer hkind hn] at h
        split_ifs at h with hrange
        cases h
        rw [check_integer hkind hn, if_neg hrange]
      | number minimum maximum n =>
        rw [check_number hkind] at h
        split_ifs at h with hrange
        cases h
        rw [check_number hkind, if_neg hrange]
      | boolean b =>
        rw [check_boolean hkind] at h
        cases h
        exact check_boolean hkind b
      | array items minItems maxItems values =>
        rw [check_array hkind] at h
        split_ifs at h with hmin hmax
        cases items with
        | none =>
          cases h
          rw [check_array hkind, if_neg hmin, if_neg hmax]
          rfl
        | some item =>
          obtain ⟨ws, hws, rfl⟩ := map_eq_ok_iff.mp h
          have hagain := checkItems_again (hchildren item (mem_children_of_item hkind)) hws path' 0
          rw [length_of_checkItems hws] at hmin hmax
          rw [check_array hkind, if_neg hmin, if_neg hmax]
          exact map_eq_ok_iff.mpr ⟨ws, hagain, rfl⟩
      | object properties allowUnknown members =>
        rw [hkind] at hstay
        exact check_object_again hkind (hrule.nodup hkind)
          (fun name property hmem ↦ hchildren property (mem_children_of_property hkind hmem)) hstay
          h path'
      | any =>
        rw [check_any hkind hnull] at h
        cases h
        exact check_any hkind hnull
    · rw [check_of_fits_eq_false hnull (by simpa using hfits)] at h
      cases h

/-- Assumes: a rule that declares each property once, as all do that are built (`Built.distinct`) or
read (`distinct_of_read`), and whose properties, however deep, let their defaults through as they
are. What the rule makes of a value it lets through as it is. -/
theorem validate_idempotent (hrule : rule.Distinct) (hdefaults : rule.DefaultsStay mode)
    {v w : Json} (h : rule.validate mode v = .ok w) : rule.validate mode w = .ok w :=
  hdefaults.settles hrule "$" "$" v w h

-- A default that its own rule would trim is not what a second check leaves.
example : (object [("name", string.trimmed.withDefault (.string " hall "))]).validate .strict
      (.object []) = .ok (.object [("name", .string " hall ")]) ∧
    (object [("name", string.trimmed.withDefault (.string " hall "))]).validate .strict
      (.object [("name", .string " hall ")]) = .ok (.object [("name", .string "hall")]) :=
  ⟨rfl, rfl⟩

theorem defaultsStay_of_no_children (hdeclared : rule.kind.declared = [])
    (hchildren : rule.kind.children = []) : rule.DefaultsStay mode := by
  refine .mk ?_ ?_
  · simp [hdeclared]
  · simp [hchildren]

theorem defaultsStay_arrayOf {item : Rule} (h : item.DefaultsStay mode) :
    (arrayOf item).DefaultsStay mode := by
  refine .mk nofun ?_
  intro child hchild
  rw [List.mem_singleton.mp hchild]
  exact h

theorem defaultsStay_object {properties : List (String × Rule)}
    (h : ∀ name property, (name, property) ∈ properties → property.DefaultsStay mode ∧
      (property.required = true ∨ ∀ d ∈ property.default, property.validate mode d = .ok d)) :
    (object properties).DefaultsStay mode := by
  refine .mk ?_ ?_
  · intro name property d hmem hrequired hd
    obtain ⟨-, htrue | hstays⟩ := h name property (Keyed.mem_of_mem_ofList hmem)
    · simp [hrequired] at htrue
    · exact hstays d hd
  · intro child hchild
    obtain ⟨⟨name, property⟩, hmem, rfl⟩ := List.mem_map.mp hchild
    exact (h name property (Keyed.mem_of_mem_ofList hmem)).1

theorem defaultsStay_lamps : lamps.DefaultsStay .strict := by
  apply defaultsStay_object
  intro name property hmem
  simp only [List.mem_cons, Prod.mk.injEq, List.not_mem_nil, or_false] at hmem
  rcases hmem with ⟨-, rfl⟩ | ⟨-, rfl⟩ | ⟨-, rfl⟩
  · exact ⟨defaultsStay_of_no_children rfl rfl, .inl rfl⟩
  · exact ⟨defaultsStay_arrayOf (defaultsStay_of_no_children rfl rfl), .inr nofun⟩
  · refine ⟨defaultsStay_of_no_children rfl rfl, .inr ?_⟩
    rintro _ ⟨⟩
    rfl

/-- The lamp in the hall as it comes back. -/
def hallLamp : Json :=
  .object [("lit", .bool false), ("name", .string "hall"), ("rooms", .array [.int 1, .int 2])]

theorem lamps_stay_as_normalized :
    (arrayOf lamps).Distinct ∧ (arrayOf lamps).DefaultsStay .strict ∧
    (arrayOf lamps).validate .strict (.array [lampIn 2, hallLamp]) =
      .ok (.array [hallLamp, hallLamp]) ∧
    (arrayOf lamps).validate .strict (.array [hallLamp, hallLamp]) =
      .ok (.array [hallLamp, hallLamp]) := by
  have hdistinct : (arrayOf lamps).Distinct := distinct_of_items rfl distinct_lamps
  have hdefaults : (arrayOf lamps).DefaultsStay .strict := defaultsStay_arrayOf defaultsStay_lamps
  have hfirst : (arrayOf lamps).validate .strict (.array [lampIn 2, hallLamp]) =
      .ok (.array [hallLamp, hallLamp]) := rfl
  exact ⟨hdistinct, hdefaults, hfirst, validate_idempotent hdistinct hdefaults hfirst⟩

end SchemaRouting.Rule
