import SchemaRouting.Proofs.Rule.Conformance

/-!
# The outcome of validation

The check of a value decides conformance: a conforming value passes and comes back as what it
becomes under the rule (`Conforms.check_eq_ok`), and for any other the error is its first violation
(`FirstViolation.check_eq_error`). As a value conforms or has a first violation, nothing else is
let through and nothing else is reported (`validate_normalizes_or_first_violation`).
-/

set_option autoImplicit false
set_option relaxedAutoImplicit false

namespace SchemaRouting.Rule

/-! ### Bounds -/

section Bounds

variable {α : Type} [LT α] [DecidableLT α] {minimum maximum : Option α} {a : α}

theorem any_lt_iff :
    minimum.any (fun least ↦ decide (a < least)) = true ↔ ¬ NotBelow minimum a := by
  cases minimum <;> simp [NotBelow]

theorem any_gt_iff : maximum.any (fun most ↦ decide (most < a)) = true ↔ ¬ NotAbove maximum a := by
  cases maximum <;> simp [NotAbove]

theorem outside_iff : (minimum.any (fun least ↦ decide (a < least)) ||
    maximum.any (fun most ↦ decide (most < a))) = true ↔
      ¬ (NotBelow minimum a ∧ NotAbove maximum a) := by
  rw [Bool.or_eq_true, any_lt_iff, any_gt_iff, not_and_or]

end Bounds

theorem Text.refused_iff {settings : Text} {s : String} :
    (!settings.allowed.isEmpty && !settings.allowed.contains s) = true ↔ ¬ settings.Allows s := by
  simp [Text.Allows]

/-! ### One kind at a time -/

section Kinds

variable {mode : Strictness} {rule : Rule} {path : String}

theorem check_null (mode : Strictness) (rule : Rule) (path : String) :
    check mode rule path .null =
      if rule.required then .error ⟨path, .required⟩ else .ok .null := by
  obtain ⟨kind, required, default, description⟩ := rule
  rw [check.eq_def]
  rfl

/-- A value that is of another type is refused for it. -/
theorem check_of_fits_eq_false {v : Json} (hv : v ≠ .null) (hfits : rule.kind.fits v = false) :
    check mode rule path v = .error (wrongKind path rule.kind.name v) := by
  obtain ⟨kind, required, default, description⟩ := rule
  rw [check.eq_def]
  have hnull : v.isNull = false := by cases v <;> first | rfl | exact absurd rfl hv
  dsimp only at hfits ⊢
  rw [hnull]
  cases kind with
  | integer minimum maximum =>
    cases v with
    | number n =>
      cases n with
      | int n =>
        have hword : Json.fitsWord n = false := hfits
        simp [checkInteger, Json.Number.toInt64?, hword, Kind.name]
      | float x => rfl
    | null | bool | string | array | object => rfl
  | string settings | number minimum maximum | boolean | array items minItems maxItems
  | object properties allowUnknown | any => cases v <;> first | rfl | cases hfits

theorem check_string {settings : Text} (hkind : rule.kind = .string settings) (s : String) :
    check mode rule path (.string s) =
      if settings.minLength.any ((settings.kept s).length < ·) then
        .error ⟨path, .tooShort (settings.minLength.getD 0)⟩
      else if settings.maxLength.any (· < (settings.kept s).length) then
        .error ⟨path, .tooLong (settings.maxLength.getD 0)⟩
      else if !settings.allowed.isEmpty && !settings.allowed.contains (settings.kept s) then
        .error ⟨path, .notOneOf settings.allowed⟩
      else .ok (.string (settings.kept s)) := by
  obtain ⟨kind, required, default, description⟩ := rule
  subst hkind
  rw [check.eq_def]
  rfl

theorem check_integer {minimum maximum : Option Int} (hkind : rule.kind = .integer minimum maximum)
    {n : Int} (hn : Json.fitsWord n = true) : check mode rule path (.number (.int n)) =
      if minimum.any (n < ·) || maximum.any (· < n) then .error ⟨path, .outOfRange (.int n)⟩
      else .ok (.number (.int n)) := by
  obtain ⟨kind, required, default, description⟩ := rule
  subst hkind
  rw [check.eq_def]
  simp only [Json.isNull, Bool.false_eq_true, if_false, checkInteger, Json.Number.toInt64?, hn,
    if_true]

theorem check_number {minimum maximum : Option Float} (hkind : rule.kind = .number minimum maximum)
    (n : Json.Number) : check mode rule path (.number n) =
      if minimum.any (n.toFloat < ·) || maximum.any (· < n.toFloat) then
        .error ⟨path, .outOfRange (.float n.toFloat)⟩
      else .ok (.number n) := by
  obtain ⟨kind, required, default, description⟩ := rule
  subst hkind
  rw [check.eq_def]
  rfl

theorem check_boolean (hkind : rule.kind = .boolean) (b : Bool) :
    check mode rule path (.bool b) = .ok (.bool b) := by
  obtain ⟨kind, required, default, description⟩ := rule
  subst hkind
  rw [check.eq_def]
  rfl

theorem check_array {items : Option Rule} {minItems maxItems : Option Nat}
    (hkind : rule.kind = .array items minItems maxItems) (values : List Json) :
    check mode rule path (.array values) =
      if minItems.any (values.length < ·) then .error ⟨path, .tooFewItems⟩
      else if maxItems.any (· < values.length) then .error ⟨path, .tooManyItems⟩
      else items.elim (.ok (.array values)) fun item ↦
        (checkItems (check mode item) path 0 values).map .array := by
  obtain ⟨kind, required, default, description⟩ := rule
  subst hkind
  rw [check.eq_def]
  cases items <;> rfl

theorem check_object {properties : List (String × Rule)} {allowUnknown : Bool}
    (hkind : rule.kind = .object properties allowUnknown) (members : List (String × Json)) :
    check mode rule path (.object members) = (do
      let declared ← checkProperties mode members path properties
      let normalized ← copyUndeclared (allowUnknown || mode = .lenient) path declared
        (undeclared properties members)
      return .object normalized) := by
  obtain ⟨kind, required, default, description⟩ := rule
  subst hkind
  rw [check.eq_def]
  rfl

theorem check_any (hkind : rule.kind = .any) {v : Json} (hv : v ≠ .null) :
    check mode rule path v = .ok v := by
  obtain ⟨kind, required, default, description⟩ := rule
  subst hkind
  rw [check.eq_def]
  cases v with
  | null => exact absurd rfl hv
  | bool | number | string | array | object => rfl

end Kinds

/-! ### The value as a whole -/

/-- What is wrong with a value as a whole is reported at its place. -/
theorem Kind.Violates.check_eq_error {rule : Rule} {v : Json} {violation : Violation}
    (h : rule.kind.Violates v violation) (hv : v ≠ .null) (mode : Strictness) (path : String) :
    check mode rule path v = .error ⟨path, violation⟩ := by
  generalize hkind : rule.kind = kind at h
  cases h with
  | wrongKind hfits =>
    subst hkind
    exact check_of_fits_eq_false hv hfits
  | tooShort hmin hlt =>
    have hbelow : ¬ NotBelow _ _ := fun h ↦ h _ hmin hlt
    rw [check_string hkind, if_pos (any_lt_iff.mpr hbelow), hmin]
    rfl
  | tooLong hmin hmax hlt =>
    have habove : ¬ NotAbove _ _ := fun h ↦ h _ hmax hlt
    rw [check_string hkind, if_neg (any_lt_iff.not_left.mpr hmin), if_pos (any_gt_iff.mpr habove),
      hmax]
    rfl
  | notOneOf hmin hmax hallows =>
    rw [check_string hkind, if_neg (any_lt_iff.not_left.mpr hmin),
      if_neg (any_gt_iff.not_left.mpr hmax), if_pos (Text.refused_iff.mpr hallows)]
  | integer hn hrange => rw [check_integer hkind hn, if_pos (outside_iff.mpr hrange)]
  | number hrange => rw [check_number hkind, if_pos (outside_iff.mpr hrange)]
  | tooFewItems hmin => rw [check_array hkind, if_pos (any_lt_iff.mpr hmin)]
  | tooManyItems hmin hmax =>
    rw [check_array hkind, if_neg (any_lt_iff.not_left.mpr hmin),
      if_pos (any_gt_iff.mpr hmax)]

/-! ### Conforming values -/

section Conforming

variable {mode : Strictness} {rule : Rule} {path : String}

/-- Assumes: items that pass, each as what it becomes. So does their array. -/
theorem normalizes_array {item : Rule} {minItems maxItems : Option Nat} {values ws : List Json}
    (hkind : rule.kind = .array (some item) minItems maxItems)
    (hitems : ∀ v ∈ values, ∀ place, ∃ w, check mode item place v = .ok w ∧ Normalizes item v w)
    (hws : checkItems (check mode item) path 0 values = .ok ws) :
    Normalizes rule (.array values) (.array ws) := by
  refine .array hkind (length_of_checkItems hws) fun i v w hi hi' ↦ ?_
  obtain ⟨u, hu, hnormalizes⟩ := hitems v (List.mem_of_getElem? hi) (itemPath path (0 + i))
  rw [getElem?_of_checkItems hws hi hi'] at hu
  cases hu
  exact hnormalizes

/-- Assumes: declared members that pass, each as what it becomes. So does the object that is put
together from them. -/
theorem normalizes_object {properties : List (String × Rule)} {allowUnknown : Bool}
    {members declared : List (String × Json)} (hkind : rule.kind = .object properties allowUnknown)
    (hnodup : (Keyed.keys properties).Nodup) (hmembers : Keyed.Ascending members)
    (hparts : ∀ name property v, (name, property) ∈ properties → Keyed.find? name members = some v →
      ∃ w, check mode property (memberPath path name) v = .ok w ∧ Normalizes property v w)
    (hdeclared : checkProperties mode members path properties = .ok declared) :
    Normalizes rule (.object members) (.object (withUndeclared properties members declared)) := by
  have hfind := find?_withUndeclared hmembers
    fun name hname ↦ find?_eq_none_of_checkProperties hname hdeclared
  refine .object hkind (ascending_withUndeclared (ascending_of_checkProperties hdeclared))
    (fun key ↦ mem_keys_withUndeclared hnodup hmembers hdeclared) ?present ?absent ?undeclared
  case present =>
    intro name property v w hmem hsome hw
    rw [hfind, if_pos (Keyed.mem_keys_of_mem hmem)] at hw
    obtain ⟨u, hu, hcheck⟩ := checked_of_checkProperties hnodup hmem hdeclared hsome
    obtain ⟨u', hu', hnormalizes⟩ := hparts name property v hmem hsome
    have hsame : w = u := Option.some.inj (hw.symm.trans hu)
    have hsame' : u = u' := Except.ok.inj (hcheck.symm.trans hu')
    rw [hsame, hsame']
    exact hnormalizes
  case absent =>
    intro name property w hmem hnone hw
    rw [hfind, if_pos (Keyed.mem_keys_of_mem hmem)] at hw
    rw [← (default_of_checkProperties hnodup hmem hdeclared hnone).2, hw]
  case undeclared =>
    intro key hkey
    rw [hfind, if_neg hkey]

/-- A conforming value passes, as what it becomes. -/
theorem Conforms.check_eq_ok {v : Json} (h : Conforms mode rule v) (hrule : rule.Distinct)
    (hv : v.Sorted) (path : String) :
    ∃ w, check mode rule path v = .ok w ∧ Normalizes rule v w := by
  induction h generalizing path with
  | @null rule hrequired =>
    refine ⟨.null, ?_, .null rule⟩
    rw [check_null, hrequired]
    rfl
  | string hkind hmin hmax hallows =>
    refine ⟨_, ?_, .string _ hkind⟩
    rw [check_string hkind, if_neg (any_lt_iff.not_left.mpr hmin),
      if_neg (any_gt_iff.not_left.mpr hmax), if_neg (Text.refused_iff.not_left.mpr hallows)]
  | integer hkind hn hmin hmax =>
    refine ⟨_, ?_, .keeps _ (congrArg Kind.keeps hkind)⟩
    rw [check_integer hkind hn, if_neg (outside_iff.not_left.mpr ⟨hmin, hmax⟩)]
  | number hkind hmin hmax =>
    refine ⟨_, ?_, .keeps _ (congrArg Kind.keeps hkind)⟩
    rw [check_number hkind, if_neg (outside_iff.not_left.mpr ⟨hmin, hmax⟩)]
  | boolean b hkind => exact ⟨_, check_boolean hkind b, .keeps _ (congrArg Kind.keeps hkind)⟩
  | @array rule items minItems maxItems values hkind hmin hmax _ ih =>
    have hpasses : check mode rule path (.array values) = items.elim (.ok (.array values))
        fun item ↦ (checkItems (check mode item) path 0 values).map .array := by
      rw [check_array hkind, if_neg (any_lt_iff.not_left.mpr hmin),
        if_neg (any_gt_iff.not_left.mpr hmax)]
    cases items with
    | none => exact ⟨_, hpasses, .keeps _ (congrArg Kind.keeps hkind)⟩
    | some item =>
      have hitems : ∀ v ∈ values, ∀ place,
          ∃ w, check mode item place v = .ok w ∧ Normalizes item v w :=
        fun v hmem ↦ ih item rfl v hmem (hrule.child (mem_children_of_item hkind)) (hv.items v hmem)
      obtain ⟨ws, hws⟩ := exists_checkItems_eq_ok
        (fun v hmem place ↦ (hitems v hmem place).imp fun _ ↦ And.left) path 0
      exact ⟨.array ws, hpasses.trans (map_eq_ok_iff.mpr ⟨ws, hws, rfl⟩),
        normalizes_array hkind hitems hws⟩
  | @object rule properties allowUnknown members hkind hrequired _ hallowed ih =>
    have hparts : ∀ name property v, (name, property) ∈ properties →
        Keyed.find? name members = some v →
        ∃ w, check mode property (memberPath path name) v = .ok w ∧ Normalizes property v w :=
      fun name property v hmem hfind ↦ ih name property v hmem hfind
        (hrule.child (mem_children_of_property hkind hmem)) (hv.of_find? hfind) _
    obtain ⟨declared, hdeclared⟩ := exists_checkProperties_eq_ok fun name property hmem ↦
      exists_propertyValue_eq_ok (hrequired name property hmem)
        fun v hfind ↦ (hparts name property v hmem hfind).imp fun _ ↦ And.left
    have hcopied :
        (allowUnknown || mode = .lenient) = true ∨ undeclared properties members = [] := by
      rw [undeclared_eq_nil_iff, Bool.or_eq_true, decide_eq_true_iff, or_assoc]
      exact hallowed
    refine ⟨.object (withUndeclared properties members declared), ?_,
      normalizes_object hkind (hrule.nodup hkind) hv.ascending hparts hdeclared⟩
    rw [check_object hkind]
    exact bind_eq_ok_iff.mpr ⟨declared, hdeclared,
      bind_eq_ok_iff.mpr ⟨_, copyUndeclared_eq_ok hcopied path declared, rfl⟩⟩
  | any hkind hnull => exact ⟨_, check_any hkind hnull, .keeps _ (congrArg Kind.keeps hkind)⟩

end Conforming

/-! ### Any other value -/

/-- Declared members that conform pass together. -/
theorem checkProperties_passes {mode : Strictness} {declared : List (String × Rule)}
    {members : List (String × Json)} (hmembers : (Json.object members).Sorted)
    (hdistinct : ∀ name property, (name, property) ∈ declared → property.Distinct)
    (hconform : ∀ name property, (name, property) ∈ declared →
      MemberConforms mode members name property) (path : String) :
    ∀ name property, (name, property) ∈ declared →
      ∃ here, propertyValue mode members path name property = .ok here := by
  intro name property hmem
  obtain ⟨hnone, hsome⟩ := hconform name property hmem
  refine exists_propertyValue_eq_ok hnone fun v hfind ↦ ?_
  obtain ⟨w, hw, -⟩ := (hsome v hfind).check_eq_ok (hdistinct name property hmem)
    (hmembers.of_find? hfind) (memberPath path name)
  exact ⟨w, hw⟩

/-- Assumes: declared members that conform, up to one that fails. Its error is that of the object.
-/
theorem check_object_eq_error {mode : Strictness} {rule property : Rule} {path name : String}
    {front back : List (String × Rule)} {allowUnknown : Bool} {members : List (String × Json)}
    {e : ValidationError}
    (hkind : rule.kind = .object (front ++ (name, property) :: back) allowUnknown)
    (hrule : rule.Distinct) (hmembers : (Json.object members).Sorted)
    (hfront : ∀ key other, (key, other) ∈ front → MemberConforms mode members key other)
    (h : propertyValue mode members path name property = .error e) :
    check mode rule path (.object members) = .error e := by
  have hpasses := checkProperties_passes hmembers (fun key other hmem ↦ hrule.child
    (mem_children_of_property hkind (List.mem_append_left _ hmem))) hfront path
  rw [check_object hkind]
  exact bind_eq_error_iff.mpr (.inl (checkProperties_eq_error hpasses h))

/-- The first violation of a value is what the check reports. -/
theorem FirstViolation.check_eq_error {mode : Strictness} {rule : Rule} {path : String} {v : Json}
    {e : ValidationError} (h : FirstViolation mode rule path v e) (hrule : rule.Distinct)
    (hv : v.Sorted) : check mode rule path v = .error e := by
  induction h with
  | required hrequired => rw [check_null, if_pos hrequired]
  | whole hnull hviolates => exact hviolates.check_eq_error hnull mode _
  | @item rule item path minItems maxItems front back v e hkind hmin hmax hfront _ ih =>
    have hitem : item.Distinct := hrule.child (mem_children_of_item hkind)
    have hpasses : ∀ u ∈ front, ∀ place, ∃ w, check mode item place u = .ok w :=
      fun u hmem place ↦ ((hfront u hmem).check_eq_ok hitem
        (hv.items u (List.mem_append_left _ hmem)) place).imp fun _ ↦ And.left
    have hplace : 0 + front.length = front.length := Nat.zero_add _
    rw [check_array hkind, if_neg (any_lt_iff.not_left.mpr hmin),
      if_neg (any_gt_iff.not_left.mpr hmax)]
    exact map_eq_error_iff.mpr (checkItems_eq_error hpasses
      (hplace.symm ▸ ih hitem (hv.items v (by simp))))
  | missing hkind hfront hnone hrequired =>
    refine check_object_eq_error hkind hrule hv hfront ?_
    rw [propertyValue_of_none hnone, if_pos hrequired]
  | @member rule property path name front back _ _ _ _ hkind hfront hsome _ ih =>
    have hmem : (name, property) ∈ front ++ (name, property) :: back := by simp
    have hproperty : property.Distinct := hrule.child (mem_children_of_property hkind hmem)
    refine check_object_eq_error hkind hrule hv hfront ?_
    rw [propertyValue_of_some hsome]
    exact map_eq_error_iff.mpr (ih hproperty (hv.of_find? hsome))
  | @undeclared rule path key properties members hkind hmode hmembers hkey hnot hleast =>
    obtain ⟨v, rest, hcons⟩ := (undeclared_eq_cons_iff hv.ascending).mpr ⟨hkey, hnot, hleast⟩
    obtain ⟨declared, hdeclared⟩ := exists_checkProperties_eq_ok (checkProperties_passes hv
      (fun name property hmem ↦ hrule.child (mem_children_of_property hkind hmem)) hmembers path)
    rw [check_object hkind, hcons, hmode]
    rw [hmode] at hdeclared
    exact bind_eq_error_iff.mpr (.inr ⟨declared, hdeclared, bind_eq_error_iff.mpr (.inl rfl)⟩)

/-! ### Validation -/

/-- A value is let through as what it becomes, exactly if it conforms. -/
theorem check_eq_ok_iff {mode : Strictness} {rule : Rule} {v w : Json} (hrule : rule.Distinct)
    (hv : v.Sorted) (path : String) :
    rule.check mode path v = .ok w ↔ Conforms mode rule v ∧ Normalizes rule v w := by
  constructor
  · intro h
    have hconforms : Conforms mode rule v := by
      rcases conforms_or_exists_firstViolation mode rule path hv with hconforms | ⟨e, he⟩
      · exact hconforms
      · rw [he.check_eq_error hrule hv] at h
        cases h
    obtain ⟨w', hw', hbecomes⟩ := hconforms.check_eq_ok hrule hv path
    rw [h] at hw'
    cases hw'
    exact ⟨hconforms, hbecomes⟩
  · rintro ⟨hconforms, hbecomes⟩
    obtain ⟨w', hw', hbecomes'⟩ := hconforms.check_eq_ok hrule hv path
    rw [hw', hbecomes.unique hbecomes']

/-- Assumes: a rule that declares each property once and a value with sorted members, as all are
that are built (`Built.distinct`, `Json.sorted_ofMembers`) or read (`distinct_of_read`,
`Json.sorted_of_parse`, `Request.sorted_of_readBody`). The rule lets the value through if and only
if it conforms, as what it becomes, and reports an error if and only if that is the first violation
of the value, seen from the root. -/
theorem validate_normalizes_or_first_violation {rule : Rule} (hrule : rule.Distinct) {v : Json}
    (hv : v.Sorted) (mode : Strictness) :
    ((∃ w, rule.validate mode v = .ok w) ↔ Conforms mode rule v) ∧
    (∀ w, rule.validate mode v = .ok w ↔ Conforms mode rule v ∧ Normalizes rule v w) ∧
    ∀ e, rule.validate mode v = .error e ↔ FirstViolation mode rule "$" v e := by
  have hpasses : Conforms mode rule v → ∃ w, rule.validate mode v = .ok w ∧ Normalizes rule v w :=
    fun h ↦ h.check_eq_ok hrule hv "$"
  have hreports : ∀ {e}, FirstViolation mode rule "$" v e → rule.validate mode v = .error e :=
    fun h ↦ h.check_eq_error hrule hv
  have hconforms : ∀ {w}, rule.validate mode v = .ok w → Conforms mode rule v := by
    intro w hw
    rcases conforms_or_exists_firstViolation mode rule "$" hv with h | ⟨e, he⟩
    · exact h
    · rw [hreports he] at hw
      cases hw
  refine ⟨⟨fun ⟨w, hw⟩ ↦ hconforms hw, fun h ↦ ?_⟩, fun w ↦ ⟨fun hw ↦ ?_, fun ⟨h, hbecomes⟩ ↦ ?_⟩,
    fun e ↦ ⟨fun he ↦ ?_, hreports⟩⟩
  · obtain ⟨w, hw, -⟩ := hpasses h
    exact ⟨w, hw⟩
  · obtain ⟨w', hw', hbecomes⟩ := hpasses (hconforms hw)
    rw [hw] at hw'
    cases hw'
    exact ⟨hconforms hw, hbecomes⟩
  · obtain ⟨w', hw', hbecomes'⟩ := hpasses h
    rw [hw', hbecomes.unique hbecomes']
  · rcases conforms_or_exists_firstViolation mode rule "$" hv with h | ⟨e', he'⟩
    · obtain ⟨w, hw, -⟩ := hpasses h
      rw [hw] at he
      cases he
    · rw [hreports he'] at he
      cases he
      exact he'

/-- A rule for lamps with a name, the rooms that they stand in and whether they are lit. -/
def lamps : Rule :=
  .object [("name", Rule.string.trimmed.asRequired),
    ("rooms", .arrayOf (Rule.integer.inRange (some 1) none)),
    ("lit", Rule.boolean.withDefault (.bool false))]

/-- A lamp that stands in the first room and one more. -/
def lampIn (room : Int) : Json :=
  .ofMembers [("rooms", .array [.int 1, .int room]), ("name", .string " hall ")]

theorem built_lamps : lamps.Built := by
  refine .object fun name property hmem ↦ ?_
  simp only [List.mem_cons, Prod.mk.injEq, List.not_mem_nil, or_false] at hmem
  rcases hmem with ⟨-, rfl⟩ | ⟨-, rfl⟩ | ⟨-, rfl⟩
  · exact .asRequired (.trimmed .string)
  · exact .arrayOf (.inRange _ _ .integer)
  · exact .withDefault _ .boolean

theorem distinct_lamps : lamps.Distinct := built_lamps.distinct

theorem sorted_lampIn (room : Int) : (lampIn room).Sorted := by
  refine Json.sorted_ofMembers fun key v hmem ↦ ?_
  simp only [List.mem_cons, Prod.mk.injEq, List.not_mem_nil, or_false] at hmem
  rcases hmem with ⟨-, rfl⟩ | ⟨-, rfl⟩
  · refine .array fun u hu ↦ ?_
    simp only [List.mem_cons, List.not_mem_nil, or_false] at hu
    rcases hu with rfl | rfl
    · exact .number _
    · exact .number _
  · exact .string _

theorem lamp_normalizes_or_second_room_fails :
    lamps.Distinct ∧ (lampIn 2).Sorted ∧ (lampIn 0).Sorted ∧
    (Conforms .strict lamps (lampIn 2) ∧ Normalizes lamps (lampIn 2) (.object [("lit", .bool false),
      ("name", .string "hall"), ("rooms", .array [.int 1, .int 2])])) ∧
    FirstViolation .strict lamps "$" (lampIn 0) ⟨"$.rooms[1]", .outOfRange (.int 0)⟩ := by
  refine ⟨distinct_lamps, sorted_lampIn 2, sorted_lampIn 0, ?_, ?_⟩
  · refine ((validate_normalizes_or_first_violation distinct_lamps (sorted_lampIn 2) .strict).2.1
      _).mp ?_
    rfl
  · refine ((validate_normalizes_or_first_violation distinct_lamps (sorted_lampIn 0) .strict).2.2
      _).mp ?_
    rfl

end SchemaRouting.Rule
