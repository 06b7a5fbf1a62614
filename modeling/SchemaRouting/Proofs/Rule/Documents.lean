import SchemaRouting.Proofs.Rule.Drafts

/-!
# Documents that are read as rules

A document reads as a rule exactly if it says of one what it may be told, there and in every place
of a rule inside (`exists_read_iff_acceptable`), and the rule that it reads as has the settings
that are given and no others (`carries_of_read`). Both follow from what holds of one object by
induction over the places of rules, and hold of every JSON value (`reads_settings_given`).
-/

set_option autoImplicit false
set_option relaxedAutoImplicit false

namespace SchemaRouting.Rule

open SchemaRouting.Tree (IsJson)

variable {s : Setting} {t : Tree} {tag : KindTag} {rule : Rule} {members : List (String × Tree)}

theorem read_object_eq_ok_iff : read (.object members .strict) = .ok rule ↔
    ∃ d, readMembers {} members = .ok d ∧ d.toRule = .ok rule := by
  rw [read, bind_eq_ok_iff]
  rfl

theorem insideRead_iff {ending : Ending} :
    (∀ (s : Setting) (t : Tree), s.given? members = some t → s.InsideRead t) ↔
      ∀ t, Inner (.object members ending) t → ∃ rule, read t = .ok rule := by
  constructor
  · rintro h t (hitems | ⟨hproperties, hmem⟩)
    · exact h .items t hitems
    · exact h .properties _ hproperties _ _ rfl _ _ hmem
  · intro h s t hgiven
    cases s with
    | items => exact h t (.items hgiven)
    | properties =>
      rintro properties ending' rfl name property hmem
      exact h property (.property hgiven hmem)
    | type | required | default | description | trim | minLength | maxLength | allowed | minimum
    | maximum | minItems | maxItems | allowUnknown => trivial

/-- An object reads as a rule if it says of one what it may be told, and what stands in the places
of rules right inside it reads as one. -/
theorem exists_read_object_iff (hjson : IsJson (.object members .strict)) :
    (∃ rule, read (.object members .strict) = .ok rule) ↔
      (∃ tag, Sound tag members) ∧
        ∀ t, Inner (.object members .strict) t → ∃ rule, read t = .ok rule := by
  rw [← insideRead_iff]
  constructor
  · rintro ⟨rule, h⟩
    obtain ⟨d, hd, hrule⟩ := read_object_eq_ok_iff.mp h
    have hfrom := from_of_readMembers hd
    obtain ⟨hknown, honce, haccepts⟩ := (exists_readMembers_iff hjson.nodup).mp ⟨d, hd⟩
    obtain ⟨tag, kind, htype, hsettings, hkind, -⟩ := Draft.toRule_eq_ok_iff.mp hrule
    have hwritten : ∀ (s : Setting) (t : Tree), s.written? members = some t →
        s.HasType t ∧ s.InsideRead t ∨ t = .null ∧ s ≠ .type ∧ s ≠ .required :=
      fun s t hs ↦ (Setting.accepts_iff (isJson_of_written? hjson hs)).mp (haccepts s t hs)
    have hgiven : ∀ (s : Setting) (t : Tree), s.given? members = some t →
        s.HasType t ∧ s.InsideRead t := by
      intro s t hs
      obtain ⟨hs, hne⟩ := Setting.given?_eq_some_iff.mp hs
      exact (hwritten s t hs).resolve_right fun hnull ↦ hne hnull.1
    refine ⟨⟨tag, ?_⟩, fun s t hs ↦ (hgiven s t hs).2⟩
    refine ⟨(hfrom.type_eq_some_iff hjson).mp htype, hknown, honce, ?_, ?_, ?_, ?_⟩
    · intro t ht
      rcases hwritten .required t ht with ⟨hbool, -⟩ | ⟨-, -, hne⟩
      · exact hbool
      · exact absurd rfl hne
    · exact fun s t hs ↦ (hgiven s t hs).1
    · intro s t hs
      by_cases hshared : s.IsShared
      · exact .inl hshared
      · refine .inr (hsettings s (hfrom.mem_kindSettings_iff.mpr ⟨hshared, ?_⟩))
        rw [hs]
        rfl
    · intro hinteger
      obtain ⟨hminimum, hmaximum⟩ := Draft.exists_kind_iff.mp ⟨kind, hkind⟩ hinteger
      have hbelow := (Draft.exists_integerBound_iff hfrom.minimum).mp hminimum
      have habove := (Draft.exists_integerBound_iff hfrom.maximum).mp hmaximum
      simpa using ⟨hbelow, habove⟩
  · rintro ⟨⟨tag, hsound⟩, hinside⟩
    have haccepts : ∀ (s : Setting) (t : Tree), s.written? members = some t → s.Accepts t := by
      intro s t hs
      rw [Setting.accepts_iff (isJson_of_written? hjson hs)]
      by_cases hnull : t = .null
      · subst hnull
        refine .inr ⟨rfl, ?_, ?_⟩
        · rintro rfl
          obtain ⟨named, hnamed, htag⟩ := hsound.type
          cases hs.symm.trans hnamed
          simp [KindTag.NamedBy] at htag
        · rintro rfl
          obtain ⟨b, hb⟩ := hsound.required .null hs
          cases hb
      · have hgiven := Setting.given?_eq_some_iff.mpr ⟨hs, hnull⟩
        exact .inl ⟨hsound.typed s t hgiven, hinside s t hgiven⟩
    obtain ⟨d, hd⟩ := (exists_readMembers_iff hjson.nodup).mpr
      ⟨hsound.known, hsound.once, haccepts⟩
    have hfrom := from_of_readMembers hd
    have hsettings : ∀ s ∈ d.kindSettings, s ∈ tag.settings := by
      intro s hs
      obtain ⟨hshared, hgiven⟩ := hfrom.mem_kindSettings_iff.mp hs
      obtain ⟨t, ht⟩ := Option.isSome_iff_exists.mp hgiven
      exact (hsound.applies s t ht).resolve_left hshared
    obtain ⟨kind, hkind⟩ : ∃ kind, d.kind tag = .ok kind := by
      refine Draft.exists_kind_iff.mpr fun hinteger ↦ ⟨?_, ?_⟩
      · exact (Draft.exists_integerBound_iff hfrom.minimum).mpr
          (hsound.bounds hinteger .minimum (by simp))
      · exact (Draft.exists_integerBound_iff hfrom.maximum).mpr
          (hsound.bounds hinteger .maximum (by simp))
    refine ⟨⟨kind, d.required, d.default, d.description⟩, read_object_eq_ok_iff.mpr ⟨d, hd, ?_⟩⟩
    exact Draft.toRule_eq_ok_iff.mpr
      ⟨tag, kind, (hfrom.type_eq_some_iff hjson).mpr hsound.type, hsettings, hkind, rfl⟩

/-- A document reads as a rule exactly if every place of one is told what it may be. -/
theorem exists_read_iff_acceptable (hjson : t.IsJson) (harrays : NoArrays t) :
    (∃ rule, read t = .ok rule) ↔ Acceptable t := by
  induction t using placeInduction with
  | step t ih =>
    rw [acceptable_iff]
    cases hjson with
    | @object members hnodup hmembers =>
      have hinside : ∀ t, Inner (.object members .strict) t →
          ((∃ rule, read t = .ok rule) ↔ Acceptable t) := fun t hinner ↦
        ih t hinner (hinner.isJson (.object hnodup hmembers)) (harrays.inner hinner)
      rw [exists_read_object_iff (.object hnodup hmembers)]
      refine and_congr ?_ (forall₂_congr hinside)
      simp
    | array hitems => exact absurd rfl (harrays _ (.root _) _ _)
    | null | bool _ | int _ | float _ | string _ => simp [read]

/-- What a document reads as has the settings that it gives. -/
theorem carries_of_read (hjson : t.IsJson) (harrays : NoArrays t) (h : read t = .ok rule) :
    Carries t rule := by
  induction t using placeInduction generalizing rule with
  | step t ih =>
    cases hjson with
    | @object members hnodup hmembers =>
      have hobject : IsJson (.object members .strict) := .object hnodup hmembers
      obtain ⟨-, hinside⟩ := (exists_read_object_iff hobject).mp ⟨rule, h⟩
      obtain ⟨d, hd, hrule⟩ := read_object_eq_ok_iff.mp h
      have hfrom := from_of_readMembers hd
      obtain ⟨tag, kind, htype, -, hkind, rfl⟩ := Draft.toRule_eq_ok_iff.mp hrule
      obtain ⟨named, hnamed, htag⟩ := (hfrom.type_eq_some_iff hobject).mp htype
      refine .mk ruleOf hnamed htag (hfrom.kind_eq hobject hkind) hfrom.required_eq
        hfrom.default_eq hfrom.description_eq fun t hinner ↦ ?_
      obtain ⟨inner, hread⟩ := hinside t hinner
      rw [ruleOf_eq hread]
      exact ih t hinner (hinner.isJson hobject) (harrays.inner hinner) hread
    | array hitems => exact absurd rfl (harrays _ (.root _) _ _)
    | null | bool _ | int _ | float _ | string _ => simp [read] at h

/-! ### The main theorem -/

/-- Reading a value as a rule succeeds exactly if it says, wherever one stands in it, what a rule
may be told, and what it is read as has the settings that it gives.

Assumes: a JSON value, and none that gives an array where a rule stands. -/
theorem reads_settings_given {v : Json} (hvalue : v.IsValue) (harrays : NoArrays (Tree.ofJson v)) :
    ((∃ rule, ofJson? v = .ok rule) ↔ Acceptable (Tree.ofJson v)) ∧
      ∀ rule, ofJson? v = .ok rule → Carries (Tree.ofJson v) rule :=
  ⟨exists_read_iff_acceptable (Tree.isJson_ofJson hvalue) harrays,
    fun _ ↦ carries_of_read (Tree.isJson_ofJson hvalue) harrays⟩

/-- A lamp has an id of at most four characters. -/
def lampDocument : Json :=
  .object [("properties", .object [("id", .object [("max_length", .int 4),
    ("type", .string "string")])]), ("type", .string "object")]

def lampRule : Rule :=
  .object [("id", .withMaxLength .string 4)]

theorem lamp_settings_read : lampDocument.IsValue ∧ NoArrays (Tree.ofJson lampDocument) ∧
    Acceptable (Tree.ofJson lampDocument) ∧ Carries (Tree.ofJson lampDocument) lampRule := by
  have hid : (Json.object [("max_length", .int 4), ("type", .string "string")]).IsValue := by
    refine .object (by unfold Keyed.Ascending; decide) ?_
    simp only [List.mem_cons, List.not_mem_nil, or_false, Prod.mk.injEq]
    rintro key v (⟨-, rfl⟩ | ⟨-, rfl⟩)
    · exact .int 4
    · exact .string _
  have hvalue : lampDocument.IsValue := by
    refine .object (by unfold Keyed.Ascending; decide) ?_
    simp only [List.mem_cons, List.not_mem_nil, or_false, Prod.mk.injEq]
    rintro key v (⟨-, rfl⟩ | ⟨-, rfl⟩)
    · refine .object (by unfold Keyed.Ascending; decide) ?_
      simp only [List.mem_singleton, Prod.mk.injEq]
      rintro key v ⟨-, rfl⟩
      exact hid
    · exact .string _
  have harrays : NoArrays (Tree.ofJson lampDocument) := by
    rintro place (_ | ⟨hinner, hplace⟩)
    · exact nofun
    · rcases hinner with hitems | ⟨hproperties, hmem⟩
      · cases hitems
      · cases hproperties
        cases List.mem_singleton.mp hmem
        rcases hplace with _ | ⟨hinner, -⟩
        · exact nofun
        · rcases hinner with hitems | ⟨hproperties, -⟩
          · cases hitems
          · cases hproperties
  have hread : ofJson? lampDocument = .ok lampRule := by
    have hlength : read (.object [("max_length", .number (.int 4)), ("type", .string "string")]
        .strict) = .ok (.withMaxLength .string 4) := by
      rw [read_object_eq_ok_iff, readMembers_eq_foldlM]
      exact ⟨_, rfl, rfl⟩
    refine read_object_eq_ok_iff.mpr ?_
    rw [readMembers_eq_foldlM]
    exact ⟨_, bind_eq_ok_iff.mpr ⟨_, Draft.take_property hlength "id" (by decide), rfl⟩, rfl⟩
  obtain ⟨haccepted, hcarried⟩ := reads_settings_given hvalue harrays
  exact ⟨hvalue, harrays, haccepted.mp ⟨lampRule, hread⟩, hcarried lampRule hread⟩

end SchemaRouting.Rule
