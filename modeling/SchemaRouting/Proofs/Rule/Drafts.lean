import Mathlib.Data.List.Nodup
import SchemaRouting.Proofs.Rule.Settings

/-!
# What a draft of a rule takes

A draft takes the members of a document one by one, each under a key of a setting that it has not
taken, with a value that can be read as one of the setting (`Draft.Sets`,
`exists_readMembers_iff`). So what it has in the end is what the document gives (`Draft.From`), and
its kind is that of the settings given (`Draft.From.kind_eq`).
-/

set_option autoImplicit false
set_option relaxedAutoImplicit false

namespace SchemaRouting.Rule

open SchemaRouting.Tree (HasValue Fills Slots IsJson)

variable {d d' : Draft} {s : Setting} {key : String} {t : Tree} {tag : KindTag} {rule : Rule}
  {members : List (String × Tree)}

/-! ### A draft takes a member -/

/-- Takes in one member. -/
def Draft.take (d : Draft) (key : String) (t : Tree) : Except ReadError Draft :=
  match Setting.ofKey? key with
  | none => .error (.unknownField key)
  | some s => d.set s t (fun _ ↦ readOptionalRule t) fun _ ↦ readProperties t

theorem readMembers_eq_foldlM (d : Draft) (members : List (String × Tree)) : readMembers d members =
    members.foldlM (fun d (entry : String × Tree) ↦ d.take entry.1 entry.2) d := by
  induction members generalizing d with
  | nil =>
    rw [readMembers]
    rfl
  | cons entry rest ih =>
    obtain ⟨key, t⟩ := entry
    rw [readMembers, List.foldlM_cons, Draft.take]
    cases Setting.ofKey? key with
    | none => rfl
    | some s => exact bind_congr ih

/-- What a draft becomes when it takes a value for a setting. -/
inductive Draft.Sets (d : Draft) : Setting → Tree → Draft → Prop
  | type {t : Tree} {tag : KindTag} : KindTag.read t = .ok tag →
    Sets d .type t { d with seen := .type :: d.seen, type := some tag }
  | required {t : Tree} {b : Bool} : t.readBool = .ok b →
    Sets d .required t { d with seen := .required :: d.seen, required := b }
  | default {t : Tree} {v : Option Json} : t.readOptional Tree.readJson = .ok v →
    Sets d .default t { d with seen := .default :: d.seen, default := v }
  | description {t : Tree} {text : Option String} : t.readOptional Tree.readString = .ok text →
    Sets d .description t { d with seen := .description :: d.seen, description := text }
  | trim {t : Tree} {b : Option Bool} : t.readOptional Tree.readBool = .ok b →
    Sets d .trim t { d with seen := .trim :: d.seen, trim := b }
  | minLength {t : Tree} {n : Option Nat} : t.readOptional Tree.readCount = .ok n →
    Sets d .minLength t { d with seen := .minLength :: d.seen, minLength := n }
  | maxLength {t : Tree} {n : Option Nat} : t.readOptional Tree.readCount = .ok n →
    Sets d .maxLength t { d with seen := .maxLength :: d.seen, maxLength := n }
  | allowed {t : Tree} {texts : Option (List String)} :
    t.readOptional Tree.readStrings = .ok texts →
    Sets d .allowed t { d with seen := .allowed :: d.seen, allowed := texts }
  | minimum {t : Tree} {n : Option Json.Number} : t.readOptional Tree.readNumber = .ok n →
    Sets d .minimum t { d with seen := .minimum :: d.seen, minimum := n }
  | maximum {t : Tree} {n : Option Json.Number} : t.readOptional Tree.readNumber = .ok n →
    Sets d .maximum t { d with seen := .maximum :: d.seen, maximum := n }
  | items {t : Tree} {rule : Option Rule} : readOptionalRule t = .ok rule →
    Sets d .items t { d with seen := .items :: d.seen, items := rule }
  | minItems {t : Tree} {n : Option Nat} : t.readOptional Tree.readCount = .ok n →
    Sets d .minItems t { d with seen := .minItems :: d.seen, minItems := n }
  | maxItems {t : Tree} {n : Option Nat} : t.readOptional Tree.readCount = .ok n →
    Sets d .maxItems t { d with seen := .maxItems :: d.seen, maxItems := n }
  | properties {t : Tree} {rules : Option (List (String × Rule))} : readProperties t = .ok rules →
    Sets d .properties t { d with seen := .properties :: d.seen, properties := rules }
  | allowUnknown {t : Tree} {b : Option Bool} : t.readOptional Tree.readBool = .ok b →
    Sets d .allowUnknown t { d with seen := .allowUnknown :: d.seen, allowUnknown := b }

theorem Draft.sets_of_set (h : d.set s t (fun _ ↦ readOptionalRule t) (fun _ ↦ readProperties t) =
    .ok d') : s ∉ d.seen ∧ d.Sets s t d' := by
  unfold Draft.set at h
  by_cases hseen : s ∈ d.seen
  · rw [if_pos (by simpa using hseen)] at h
    cases h
  · rw [if_neg (by simpa using hseen)] at h
    refine ⟨hseen, ?_⟩
    cases s <;> obtain ⟨v, hv, h⟩ := bind_eq_ok_iff.mp h <;> cases h <;> constructor <;> exact hv

theorem Draft.Sets.set_eq (h : d.Sets s t d') (hseen : s ∉ d.seen) :
    d.set s t (fun _ ↦ readOptionalRule t) (fun _ ↦ readProperties t) = .ok d' := by
  unfold Draft.set
  rw [if_neg (by simpa using hseen)]
  cases h <;> exact bind_eq_ok_iff.mpr ⟨_, ‹_›, rfl⟩

theorem Draft.take_eq_ok_iff : d.take key t = .ok d' ↔
    ∃ s, Setting.ofKey? key = some s ∧ s ∉ d.seen ∧ d.Sets s t d' := by
  rw [take]
  cases Setting.ofKey? key with
  | none => simp
  | some s =>
    constructor
    · intro h
      exact ⟨s, rfl, sets_of_set h⟩
    · rintro ⟨_, heq, hseen, h⟩
      cases heq
      exact h.set_eq hseen

/-- Assumes: a tree that reads as a rule. A draft takes it as that of its one property. -/
theorem Draft.take_property (h : read t = .ok rule) (name : String) (hnew : .properties ∉ d.seen) :
    d.take "properties" (.object [(name, t)] .strict) =
      .ok { d with seen := .properties :: d.seen, properties := some [(name, rule)] } := by
  have hproperties : readProperties (.object [(name, t)] .strict) = .ok (some [(name, rule)]) := by
    rw [readProperties, readRules, h, readRules]
    rfl
  exact take_eq_ok_iff.mpr ⟨.properties, rfl, hnew, .properties hproperties⟩

theorem Draft.Sets.seen_eq (h : d.Sets s t d') : d'.seen = s :: d.seen := by
  cases h <;> rfl

/-- A value can be read as one of the setting. -/
def Setting.Accepts : Setting → Tree → Prop
  | .type, t => ∃ tag, KindTag.read t = .ok tag
  | .required, t => ∃ b, t.readBool = .ok b
  | .default, t => ∃ v, t.readOptional Tree.readJson = .ok v
  | .description, t => ∃ text, t.readOptional Tree.readString = .ok text
  | .trim, t | .allowUnknown, t => ∃ b, t.readOptional Tree.readBool = .ok b
  | .minLength, t | .maxLength, t | .minItems, t | .maxItems, t =>
    ∃ n, t.readOptional Tree.readCount = .ok n
  | .allowed, t => ∃ texts, t.readOptional Tree.readStrings = .ok texts
  | .minimum, t | .maximum, t => ∃ n, t.readOptional Tree.readNumber = .ok n
  | .items, t => ∃ rule, readOptionalRule t = .ok rule
  | .properties, t => ∃ rules, readProperties t = .ok rules

theorem Draft.Sets.accepts (h : d.Sets s t d') : s.Accepts t := by
  cases h <;> exact ⟨_, ‹_›⟩

theorem Setting.Accepts.exists_sets (h : s.Accepts t) (d : Draft) : ∃ d', d.Sets s t d' := by
  cases s <;> obtain ⟨_, h⟩ := h <;> exact ⟨_, by constructor; exact h⟩

theorem slots_take : Slots Draft.take Setting.ofKey? Draft.seen Setting.Accepts := by
  constructor
  · intro d key t d' h
    obtain ⟨s, hkey, hnew, hsets⟩ := Draft.take_eq_ok_iff.mp h
    exact ⟨s, hkey, hnew, hsets.accepts, hsets.seen_eq⟩
  · intro key t s d hkey hnew haccepts
    obtain ⟨d', hsets⟩ := haccepts.exists_sets d
    exact ⟨d', Draft.take_eq_ok_iff.mpr ⟨s, hkey, hnew, hsets⟩⟩

/-- Assumes: a field that its own setting sets and no other does. -/
theorem fills_take {α : Type} {read : Tree.Read α} {get : Draft → α}
    (h : ∀ {d : Draft} {s' : Setting} {t : Tree} {d' : Draft}, d.Sets s' t d' →
      if s' = s then read t = .ok (get d') else get d' = get d) :
    Fills Draft.take Setting.ofKey? Draft.seen s read get := by
  constructor
  · intro d key t d' htake
    obtain ⟨s', hkey, hnew, hsets⟩ := Draft.take_eq_ok_iff.mp htake
    exact ⟨s', hkey, hnew, hsets.seen_eq⟩
  · intro d key t d' htake
    obtain ⟨s', hkey, -, hsets⟩ := Draft.take_eq_ok_iff.mp htake
    rw [hkey]
    simpa only [Option.some.injEq] using h hsets

/-! ### What a draft has taken -/

/-- The fields of a draft are what members say of them. -/
structure Draft.From (members : List (String × Tree)) (d : Draft) : Prop where
  type : HasValue (fun t ↦ (KindTag.read t).map some) none d.type
    (Setting.written? .type members)
  required : HasValue Tree.readBool false d.required (Setting.written? .required members)
  default : HasValue (Tree.readOptional Tree.readJson) none d.default
    (Setting.written? .default members)
  description : HasValue (Tree.readOptional Tree.readString) none d.description
    (Setting.written? .description members)
  trim : HasValue (Tree.readOptional Tree.readBool) none d.trim (Setting.written? .trim members)
  minLength : HasValue (Tree.readOptional Tree.readCount) none d.minLength
    (Setting.written? .minLength members)
  maxLength : HasValue (Tree.readOptional Tree.readCount) none d.maxLength
    (Setting.written? .maxLength members)
  allowed : HasValue (Tree.readOptional Tree.readStrings) none d.allowed
    (Setting.written? .allowed members)
  minimum : HasValue (Tree.readOptional Tree.readNumber) none d.minimum
    (Setting.written? .minimum members)
  maximum : HasValue (Tree.readOptional Tree.readNumber) none d.maximum
    (Setting.written? .maximum members)
  items : HasValue readOptionalRule none d.items (Setting.written? .items members)
  minItems : HasValue (Tree.readOptional Tree.readCount) none d.minItems
    (Setting.written? .minItems members)
  maxItems : HasValue (Tree.readOptional Tree.readCount) none d.maxItems
    (Setting.written? .maxItems members)
  properties : HasValue readProperties none d.properties (Setting.written? .properties members)
  allowUnknown : HasValue (Tree.readOptional Tree.readBool) none d.allowUnknown
    (Setting.written? .allowUnknown members)

theorem from_of_readMembers (h : readMembers {} members = .ok d) : d.From members := by
  rw [readMembers_eq_foldlM] at h
  constructor <;> rw [Setting.written?_eq_inSlot] <;>
    refine (fills_take fun hsets ↦ ?_).hasValue h <;> cases hsets <;> simp_all [Except.map]

/-! ### Values that settings take -/

theorem KindTag.ofName?_eq_some_iff {name : String} :
    KindTag.ofName? name = some tag ↔ name = tag.name := by
  constructor
  · intro h
    have hfound := List.find?_some h
    rw [decide_eq_true_eq] at hfound
    exact hfound.symm
  · rintro rfl
    cases tag <;> rfl

theorem KindTag.read_eq_ok_iff (ht : t.IsJson) : KindTag.read t = .ok tag ↔ tag.NamedBy t := by
  have hnamed : ∀ name : String, Tree.named ofName? name = .ok tag ↔ name = tag.name := by
    intro name
    rw [← ofName?_eq_some_iff, Tree.named]
    cases ofName? name <;> simp
  cases ht with
  | string name => simp [KindTag.read, Tree.readNamed, hnamed, NamedBy]
  | @object members =>
    rcases members with _ | ⟨⟨name, inner⟩, rest⟩
    · simp [KindTag.read, Tree.readNamed, NamedBy]
    · have hread : KindTag.read (.object ((name, inner) :: rest) .strict) = .ok tag ↔
          Tree.named ofName? name = .ok tag ∧ inner = .null ∧ rest = [] := by
        cases rest <;> cases inner <;>
          simp [KindTag.read, Tree.readNamed, bind_eq_ok_iff, throw, throwThe,
            MonadExceptOf.throw, Ending.isRead, pure, Except.pure]
      rw [hread, hnamed]
      simp [NamedBy, and_assoc]
  | null | bool _ | int _ | float _ | array _ =>
    simp [KindTag.read, Tree.readNamed, NamedBy]

/-- The rules inside what is given for a setting can be read. -/
def Setting.InsideRead : Setting → Tree → Prop
  | .items, t => ∃ rule, read t = .ok rule
  | .properties, t => ∀ members ending, t = .object members ending →
    ∀ name property, (name, property) ∈ members → ∃ rule, read property = .ok rule
  | _, _ => True

theorem readOptionalRule_eq (t : Tree) : readOptionalRule t = t.readOptional read := by
  cases t <;> rw [readOptionalRule.eq_def] <;> rfl

theorem readRules_eq_mapM (members : List (String × Tree)) : readRules members =
    members.mapM fun member ↦ do return (member.1, ← read member.2) := by
  induction members with
  | nil => rw [readRules, List.mapM_nil]; rfl
  | cons member rest ih =>
    obtain ⟨name, t⟩ := member
    rw [readRules, List.mapM_cons, ih, bind_assoc]
    rfl

theorem readProperties_eq (t : Tree) :
    readProperties t = t.readOptional (Tree.readKeyed read) := by
  cases t with
  | object members ending =>
    rw [readProperties, readRules_eq_mapM, Tree.readOptional_of_ne_null (by simp), Tree.readKeyed]
    cases members.mapM fun member ↦ do return (member.1, ← read member.2) with
    | error e => rfl
    | ok all => cases ending <;> rfl
  | date s =>
    rw [readProperties.eq_def, Tree.readOptional_of_ne_null (by simp), Tree.readKeyed, read.eq_def]
    rfl
  | null | bool _ | number _ | string _ | array _ _ | broken => rw [readProperties.eq_def]; rfl

/-- What a setting takes is a value of its type, or null if it may be left out. -/
theorem Setting.accepts_iff (ht : t.IsJson) : s.Accepts t ↔
    s.HasType t ∧ s.InsideRead t ∨ t = .null ∧ s ≠ .type ∧ s ≠ .required := by
  cases s with
  | type => simp [Accepts, KindTag.read_eq_ok_iff ht, HasType, InsideRead]
  | required => simp [Accepts, Tree.readBool_eq_ok_iff, HasType, InsideRead]
  | default =>
    simp [Accepts, Tree.exists_readOptional_iff, Tree.readJson_eq_ok_iff, ht.toJson?_eq, HasType,
      InsideRead]
  | description =>
    simp [Accepts, Tree.exists_readOptional_iff, Tree.readString_eq_ok_iff, HasType, InsideRead]
  | trim | allowUnknown =>
    simp [Accepts, Tree.exists_readOptional_iff, Tree.readBool_eq_ok_iff, HasType, InsideRead]
  | minLength | maxLength | minItems | maxItems =>
    simp [Accepts, Tree.exists_readOptional_iff, Tree.readCount_eq_ok_iff, HasType, InsideRead]
  | allowed =>
    rw [Accepts, Tree.exists_readOptional_iff]
    cases ht <;> simp [Tree.readStrings_eq_ok_iff, HasType, InsideRead, Ending.isRead]
  | minimum | maximum =>
    rw [Accepts, Tree.exists_readOptional_iff]
    cases ht <;> simp_all [Tree.readNumber_eq_ok_iff, HasType, InsideRead]
  | items =>
    simp [Accepts, readOptionalRule_eq, Tree.exists_readOptional_iff, HasType, InsideRead]
  | properties =>
    rw [Accepts]
    simp only [readProperties_eq]
    rw [Tree.exists_readOptional_iff]
    cases ht with
    | object _ _ => simp [Tree.exists_readKeyed_object_iff, HasType, InsideRead]
    | null | bool _ | int _ | float _ | string _ | array _ => simp [Tree.readKeyed, HasType]

/-- Assumes: different keys. A draft takes the members if each is for a setting of its own, which
takes what is written for it. -/
theorem exists_readMembers_iff (hnodup : (Keyed.keys members).Nodup) :
    (∃ d, readMembers {} members = .ok d) ↔
      (∀ key ∈ Keyed.keys members, ∃ s : Setting, s.Spelled key) ∧ Setting.GivenOnce members ∧
        ∀ (s : Setting) (t : Tree), s.written? members = some t → s.Accepts t := by
  simp only [readMembers_eq_foldlM]
  rw [slots_take.exists_foldlM_iff]
  constructor
  · rintro ⟨hall, hslots⟩
    refine ⟨?_, ?_, ?_⟩
    · intro key hkey
      obtain ⟨entry, hmem, rfl⟩ := List.mem_map.mp hkey
      obtain ⟨s, hs, -⟩ := hall entry hmem
      exact ⟨s, Setting.ofKey?_eq_some_iff.mp hs⟩
    · intro s key key' hkey hkey' hmem hmem'
      obtain ⟨entry, hentry, rfl⟩ := List.mem_map.mp hmem
      obtain ⟨entry', hentry', rfl⟩ := List.mem_map.mp hmem'
      have hsame : Setting.ofKey? entry.1 = Setting.ofKey? entry'.1 := by
        rw [Setting.ofKey?_eq_some_iff.mpr hkey, Setting.ofKey?_eq_some_iff.mpr hkey']
      rw [List.inj_on_of_nodup_map hslots hentry hentry' hsame]
    · intro s t hwritten
      obtain ⟨key, hmem, hkey⟩ := Setting.exists_mem_of_written? hwritten
      obtain ⟨s', hs', -, haccepts⟩ := hall (key, t) hmem
      cases hkey.unique (Setting.ofKey?_eq_some_iff.mp hs')
      exact haccepts
  · rintro ⟨hknown, honce, haccepts⟩
    refine ⟨?_, ?_⟩
    · rintro ⟨key, t⟩ hmem
      obtain ⟨s, hs⟩ := hknown key (Keyed.mem_keys_of_mem hmem)
      have hwritten := Setting.written?_eq_some_of_mem hnodup honce hmem hs
      exact ⟨s, Setting.ofKey?_eq_some_iff.mpr hs, List.not_mem_nil, haccepts s t hwritten⟩
    · refine List.Nodup.map_on ?_ (List.Nodup.of_map _ hnodup)
      rintro ⟨key, t⟩ hmem ⟨key', t'⟩ hmem' hsame
      obtain ⟨s, hs⟩ := hknown key (Keyed.mem_keys_of_mem hmem)
      have hs' : s.Spelled key' :=
        Setting.ofKey?_eq_some_iff.mp (hsame.symm.trans (Setting.ofKey?_eq_some_iff.mpr hs))
      have hkey := honce s key key' hs hs' (Keyed.mem_keys_of_mem hmem)
        (Keyed.mem_keys_of_mem hmem')
      subst hkey
      rw [Keyed.eq_of_mem_of_mem hnodup hmem hmem']

/-! ### What is given for a setting -/

section Given

variable {α : Type} {read : Tree.Read α} {value : Option α}

theorem Setting.given_cases
    (h : HasValue (Tree.readOptional read) none value (s.written? members)) :
    s.given? members = none ∧ value = none ∨
      ∃ t a, s.given? members = some t ∧ read t = .ok a ∧ value = some a := by
  rw [given?]
  cases hwritten : s.written? members with
  | none =>
    rw [hwritten] at h
    exact .inl ⟨rfl, h⟩
  | some t =>
    rw [hwritten] at h
    rcases Tree.readOptional_eq_ok_iff.mp h with ⟨rfl, hvalue⟩ | ⟨hne, a, ha, hvalue⟩
    · exact .inl ⟨rfl, hvalue⟩
    · exact .inr ⟨t, a, Tree.nonNull?_eq_some_iff.mpr ⟨hne, rfl⟩, ha, hvalue.symm⟩

theorem Setting.isSome_of_hasValue
    (h : HasValue (Tree.readOptional read) none value (s.written? members)) :
    value.isSome = (s.given? members).isSome := by
  rcases given_cases h with ⟨hgiven, rfl⟩ | ⟨t, a, hgiven, -, rfl⟩ <;> rw [hgiven] <;> rfl

theorem Setting.eq_value?_of_hasValue {f : Tree → Option α}
    (h : HasValue (Tree.readOptional read) none value (s.written? members))
    (hread : ∀ t a, s.given? members = some t → read t = .ok a → f t = some a) :
    value = s.value? f members := by
  rw [value?]
  rcases given_cases h with ⟨hgiven, rfl⟩ | ⟨t, a, hgiven, ha, rfl⟩
  · rw [hgiven]
    rfl
  · rw [hgiven]
    exact (hread t a hgiven ha).symm

end Given

namespace Draft.From

theorem mem_kindSettings_iff (h : d.From members) :
    s ∈ d.kindSettings ↔ ¬ s.IsShared ∧ (s.given? members).isSome = true := by
  have hitems := h.items
  have hproperties := h.properties
  simp only [funext readOptionalRule_eq] at hitems
  simp only [funext readProperties_eq] at hproperties
  rw [kindSettings, Setting.isSome_of_hasValue h.trim, Setting.isSome_of_hasValue h.minLength,
    Setting.isSome_of_hasValue h.maxLength, Setting.isSome_of_hasValue h.allowed,
    Setting.isSome_of_hasValue h.minimum, Setting.isSome_of_hasValue h.maximum,
    Setting.isSome_of_hasValue hitems, Setting.isSome_of_hasValue h.minItems,
    Setting.isSome_of_hasValue h.maxItems, Setting.isSome_of_hasValue hproperties,
    Setting.isSome_of_hasValue h.allowUnknown]
  cases s <;> simp [Setting.IsShared]

theorem type_eq_some_iff (h : d.From members) (hjson : IsJson (.object members .strict)) :
    d.type = some tag ↔ ∃ t, Setting.written? .type members = some t ∧ tag.NamedBy t := by
  have htype := h.type
  cases hwritten : Setting.written? .type members with
  | none =>
    rw [hwritten] at htype
    have hnone : d.type = none := htype
    simp [hnone]
  | some t =>
    rw [hwritten] at htype
    obtain ⟨tag', htag', heq⟩ := map_eq_ok_iff.mp htype
    rw [← heq]
    constructor
    · rintro hsame
      cases hsame
      exact ⟨t, rfl, (KindTag.read_eq_ok_iff (isJson_of_written? hjson hwritten)).mp htag'⟩
    · rintro ⟨_, hsame, hnamed⟩
      cases hsame
      have htag := (KindTag.read_eq_ok_iff (isJson_of_written? hjson hwritten)).mpr hnamed
      rw [htag'] at htag
      exact congrArg some (Except.ok.inj htag)

theorem required_eq (h : d.From members) :
    d.required = (Setting.value? Tree.asBool? .required members).getD false := by
  have hrequired := h.required
  rw [Setting.value?, Setting.given?]
  cases hwritten : Setting.written? .required members with
  | none =>
    rw [hwritten] at hrequired
    exact hrequired
  | some t =>
    rw [hwritten] at hrequired
    rw [Tree.readBool_eq_ok_iff.mp hrequired]
    rfl

theorem default_eq (h : d.From members) :
    d.default = Setting.value? Tree.toJson? .default members :=
  Setting.eq_value?_of_hasValue h.default fun _ _ _ ↦ Tree.readJson_eq_ok_iff.mp

theorem description_eq (h : d.From members) :
    d.description = Setting.value? Tree.asText? .description members :=
  Setting.eq_value?_of_hasValue h.description fun _ _ _ ↦ Tree.asText?_of_readString

end Draft.From

/-! ### The kind of a draft -/

theorem Draft.integerBound_eq_ok_iff {n : Option Json.Number} {bound : Option Int} :
    integerBound s n = .ok bound ↔
      n = none ∧ bound = none ∨
        ∃ i, Json.fitsWord i = true ∧ n = some (.int i) ∧ bound = some i := by
  cases n with
  | none =>
    constructor
    · intro h
      cases h
      exact .inl ⟨rfl, rfl⟩
    · rintro (⟨-, rfl⟩ | ⟨i, -, heq, -⟩)
      · rfl
      · cases heq
  | some n =>
    cases n with
    | float x => simp [integerBound, Json.Number.toInt64?]
    | int i =>
      rw [integerBound, Json.Number.toInt64?]
      by_cases hi : Json.fitsWord i = true
      · rw [if_pos hi]
        constructor
        · intro h
          cases h
          exact .inr ⟨i, hi, rfl, rfl⟩
        · rintro (⟨heq, -⟩ | ⟨_, -, heq, rfl⟩)
          · cases heq
          · cases heq
            rfl
      · rw [if_neg hi]
        simp [hi]

/-- The rule that a tree reads as; where it reads as none, any will do. -/
def ruleOf (t : Tree) : Rule :=
  match read t with
  | .ok rule => rule
  | .error _ => any

theorem ruleOf_eq (h : read t = .ok rule) : ruleOf t = rule := by
  rw [ruleOf, h]

namespace Draft.From

theorem items_eq (h : d.From members) : d.items = (Setting.given? .items members).map ruleOf := by
  have hitems := h.items
  simp only [funext readOptionalRule_eq] at hitems
  rw [Setting.eq_value?_of_hasValue (f := fun t ↦ some (ruleOf t)) hitems
    fun t rule _ hrule ↦ by rw [ruleOf_eq hrule]]
  exact (Option.map_eq_bind).symm

theorem properties_eq (h : d.From members) (hjson : IsJson (.object members .strict)) :
    d.properties = (Setting.value? Tree.asMembers? .properties members).map
      (List.map fun property ↦ (property.1, ruleOf property.2)) := by
  have hproperties := h.properties
  simp only [funext readProperties_eq] at hproperties
  rw [Setting.value?, Option.map_bind]
  refine Setting.eq_value?_of_hasValue hproperties fun t rules hgiven hread ↦ ?_
  cases isJson_of_given? hjson hgiven with
  | @object properties hnodup _ =>
    have hall := (Tree.readKeyed_object_eq_ok_iff hnodup).mp hread
    have hrules : rules = properties.map fun property ↦ (property.1, ruleOf property.2) := by
      rw [← List.forall₂_eq_eq_eq, List.forall₂_map_right_iff]
      refine (List.Forall₂.flip hall).imp fun entry member hentry ↦ ?_
      exact Prod.ext hentry.1 (ruleOf_eq hentry.2).symm
    rw [hrules]
    rfl
  | null | bool _ | int _ | float _ | string _ | array _ => simp [Tree.readKeyed] at hread

theorem kind_eq (h : d.From members) (hjson : IsJson (.object members .strict)) {kind : Kind Rule}
    (hkind : d.kind tag = .ok kind) : kind = tag.kindOf members ruleOf := by
  have hbound : ∀ {s : Setting} {n : Option Json.Number} {bound : Option Int},
      HasValue (Tree.readOptional Tree.readNumber) none n (s.written? members) →
      integerBound s n = .ok bound → bound = s.value? Tree.asWhole? members := by
    intro s n bound hn hbound
    rw [Setting.value?]
    rcases Setting.given_cases hn with ⟨hgiven, rfl⟩ | ⟨t, m, hgiven, hread, rfl⟩
    · rcases integerBound_eq_ok_iff.mp hbound with ⟨-, rfl⟩ | ⟨i, -, heq, -⟩
      · rw [hgiven]
        rfl
      · cases heq
    · rcases integerBound_eq_ok_iff.mp hbound with ⟨heq, -⟩ | ⟨i, -, heq, rfl⟩
      · cases heq
      · cases heq
        rw [hgiven, (Tree.readNumber_eq_ok_iff.mp hread).1]
        rfl
  cases tag with
  | string =>
    cases hkind
    rw [KindTag.kindOf,
      Setting.eq_value?_of_hasValue h.trim fun _ _ _ ↦ Tree.asBool?_of_readBool,
      Setting.eq_value?_of_hasValue h.minLength fun _ _ _ ↦ Tree.asCount?_of_readCount,
      Setting.eq_value?_of_hasValue h.maxLength fun _ _ _ ↦ Tree.asCount?_of_readCount,
      Setting.eq_value?_of_hasValue h.allowed fun _ _ _ ↦ Tree.asTexts?_of_readStrings]
  | integer =>
    obtain ⟨minimum, hminimum, hkind⟩ := bind_eq_ok_iff.mp hkind
    obtain ⟨maximum, hmaximum, hkind⟩ := bind_eq_ok_iff.mp hkind
    cases hkind
    rw [KindTag.kindOf, hbound h.minimum hminimum, hbound h.maximum hmaximum]
  | number =>
    cases hkind
    rw [KindTag.kindOf,
      Setting.eq_value?_of_hasValue h.minimum fun _ _ _ ↦ Tree.asNumber?_of_readNumber,
      Setting.eq_value?_of_hasValue h.maximum fun _ _ _ ↦ Tree.asNumber?_of_readNumber]
  | array =>
    cases hkind
    rw [KindTag.kindOf, h.items_eq,
      Setting.eq_value?_of_hasValue h.minItems fun _ _ _ ↦ Tree.asCount?_of_readCount,
      Setting.eq_value?_of_hasValue h.maxItems fun _ _ _ ↦ Tree.asCount?_of_readCount]
  | object =>
    cases hkind
    rw [KindTag.kindOf, h.properties_eq hjson,
      Setting.eq_value?_of_hasValue h.allowUnknown fun _ _ _ ↦ Tree.asBool?_of_readBool]
    cases Setting.value? Tree.asMembers? .properties members <;> rfl
  | boolean | any =>
    cases hkind
    rfl

end Draft.From

theorem Draft.exists_kind_iff : (∃ kind, d.kind tag = .ok kind) ↔
    (tag = .integer → (∃ bound, integerBound .minimum d.minimum = .ok bound) ∧
      ∃ bound, integerBound .maximum d.maximum = .ok bound) := by
  cases tag with
  | integer =>
    constructor
    · rintro ⟨kind, hkind⟩ -
      obtain ⟨minimum, hminimum, hkind⟩ := bind_eq_ok_iff.mp hkind
      obtain ⟨maximum, hmaximum, -⟩ := bind_eq_ok_iff.mp hkind
      exact ⟨⟨minimum, hminimum⟩, maximum, hmaximum⟩
    · intro h
      obtain ⟨⟨minimum, hminimum⟩, maximum, hmaximum⟩ := h rfl
      exact ⟨.integer minimum maximum,
        bind_eq_ok_iff.mpr ⟨minimum, hminimum, bind_eq_ok_iff.mpr ⟨maximum, hmaximum, rfl⟩⟩⟩
  | string | number | boolean | array | object | any => exact ⟨fun _ ↦ nofun, fun _ ↦ ⟨_, rfl⟩⟩

theorem Draft.exists_integerBound_iff {n : Option Json.Number}
    (hn : HasValue (Tree.readOptional Tree.readNumber) none n (s.written? members)) :
    (∃ bound, integerBound s n = .ok bound) ↔ ∀ t, s.given? members = some t →
      ∃ i, Json.fitsWord i = true ∧ t = .number (.int i) := by
  simp only [integerBound_eq_ok_iff]
  rcases Setting.given_cases hn with ⟨hgiven, rfl⟩ | ⟨t, m, hgiven, hread, rfl⟩
  · simp [hgiven]
  · rw [(Tree.readNumber_eq_ok_iff.mp hread).1] at hgiven
    simp [hgiven]

theorem Draft.toRule_eq_ok_iff : d.toRule = .ok rule ↔
    ∃ tag kind, d.type = some tag ∧ (∀ s ∈ d.kindSettings, s ∈ tag.settings) ∧
      d.kind tag = .ok kind ∧ rule = ⟨kind, d.required, d.default, d.description⟩ := by
  rw [toRule]
  cases d.type with
  | none => simp
  | some tag =>
    cases hfind : d.kindSettings.find? fun s ↦ !tag.settings.contains s with
    | some s =>
      have hmem := List.mem_of_find?_eq_some hfind
      have hother : s ∉ tag.settings := by simpa using List.find?_some hfind
      simp only [hfind]
      constructor
      · nofun
      · rintro ⟨_, kind, heq, hsettings, -⟩
        cases heq
        exact absurd (hsettings s hmem) hother
    | none =>
      have hsettings : ∀ s ∈ d.kindSettings, s ∈ tag.settings := by
        simpa using List.find?_eq_none.mp hfind
      simp only [hfind]
      rw [bind_eq_ok_iff]
      constructor
      · rintro ⟨kind, hkind, h⟩
        cases h
        exact ⟨tag, kind, rfl, hsettings, hkind, rfl⟩
      · rintro ⟨_, kind, heq, -, hkind, rfl⟩
        cases heq
        exact ⟨kind, hkind, rfl⟩

end SchemaRouting.Rule
