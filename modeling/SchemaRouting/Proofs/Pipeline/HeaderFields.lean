import Mathlib.Data.List.Induction
import SchemaRouting.Proofs.Pipeline.Validation
import SchemaRouting.Proofs.Rule.Outcome

/-!
# Validated header fields

Header fields that are appended one after the other become an object, in which a name has the texts
of its fields, joined in their order: one more field that can be read adds its text to those of its
name and leaves what stands under the others (`Request.find?_joinField`), and any other field adds
nothing. So what is found under a name is told by the fields of that name alone
(`find?_members_appended`).

Validation reads the object under the declared names and lets everything else through, so it is one
condition on the texts of each declared name (`exists_check_lenient_iff`), and what stands under
other names has no part in it (`checkProperties_congr`). The step does nothing else with the fields
(`headers_pass_name_by_name`).
-/

set_option autoImplicit false
set_option relaxedAutoImplicit false

namespace SchemaRouting

/-! ### The texts of a name -/

namespace Http

variable {given : List (String × String)} {name text : String}

/-- The header fields that are there after these were appended to none, one after the other. -/
def Headers.appended (given : List (String × String)) : Headers :=
  given.foldl (fun headers field ↦ headers.append field.1 field.2) .empty

/-- The values, in their order, that can be read as text and were appended under a name, in whatever
letter case the name was spelled. -/
def textsUnder (name : String) (given : List (String × String)) : List String :=
  given.filterMap fun field ↦
    if isFieldName field.1 ∧ Text.lower field.1 = name ∧ isReadable field.2 then some field.2
    else none

/-- Texts with a comma and a space between them; nothing if there are none. -/
def joined : List String → Option String
  | [] => none
  | texts => some (String.intercalate ", " texts)

/-- A text after those that may be there before it. -/
def joinedWith (before : Option String) (text : String) : String :=
  before.elim text (· ++ ", " ++ text)

theorem joined_of_ne_nil {texts : List String} (h : texts ≠ []) :
    joined texts = some (String.intercalate ", " texts) := by
  cases texts with
  | nil => exact absurd rfl h
  | cons text rest => rfl

theorem joined_concat (texts : List String) (text : String) :
    joined (texts ++ [text]) = some (joinedWith (joined texts) text) := by
  rw [joined_of_ne_nil (by simp)]
  by_cases hempty : texts = []
  · subst hempty
    simp [joined, joinedWith]
  · rw [joined_of_ne_nil hempty, String.intercalate_append_of_ne_nil hempty (by simp)]
    simp [joinedWith]

theorem textsUnder_append (name : String) (given further : List (String × String)) :
    textsUnder name (given ++ further) = textsUnder name given ++ textsUnder name further :=
  List.filterMap_append

theorem textsUnder_eq_nil_of_notMem (h : ∀ field ∈ given, Text.lower field.1 ≠ name) :
    textsUnder name given = [] := by
  refine List.filterMap_eq_nil_iff.mpr fun field hmem ↦ if_neg ?_
  rintro ⟨-, heq, -⟩
  exact h field hmem heq

theorem isFieldValue_of_isReadable (h : isReadable text = true) : isFieldValue text = true := by
  unfold isReadable at h
  unfold isFieldValue
  rw [List.all_eq_true] at h ⊢
  intro c hc
  have hprintable := h c hc
  simp only [Bool.or_eq_true, decide_eq_true_eq, Bool.and_eq_true] at hprintable
  simp only [isFieldChar, Bool.or_eq_true, decide_eq_true_eq, Bool.and_eq_true]
  exact hprintable.imp_right fun hrange ↦ ⟨hrange.1, by omega⟩

end Http

/-! ### The object of the fields -/

/-- A field that can be read is put after those of its name; any other changes nothing. -/
theorem Request.find?_joinField (texts : List (String × String)) (field : String × String)
    (name : String) : Keyed.find? name (joinField texts field) =
      if field.1 = name ∧ Http.isReadable field.2 then
        some (Http.joinedWith (Keyed.find? name texts) field.2)
      else Keyed.find? name texts := by
  obtain ⟨other, text⟩ := field
  unfold joinField
  by_cases hreadable : Http.isReadable text = true
  · by_cases hname : other = name
    · subst hname
      cases hfind : Keyed.find? other texts <;>
        simp [hreadable, hfind, Keyed.find?_insert_self, Http.joinedWith]
    · cases hfind : Keyed.find? other texts <;>
        simp [hreadable, hfind, hname, Keyed.find?_insert_of_ne (Ne.symm hname)]
  · simp [hreadable]

namespace Http

variable {given : List (String × String)} {name : String}

/-- The text of each name of some header fields. -/
def Headers.texts (headers : Headers) : List (String × String) :=
  headers.fields.foldl Request.joinField []

theorem Headers.find?_texts_append (headers : Headers) (field : String × String) (name : String) :
    Keyed.find? name (headers.append field.1 field.2).texts =
      if isFieldName field.1 ∧ Text.lower field.1 = name ∧ isReadable field.2 then
        some (joinedWith (Keyed.find? name headers.texts) field.2)
      else Keyed.find? name headers.texts := by
  unfold Headers.append
  by_cases hfield : isFieldName field.1 = true ∧ isFieldValue field.2 = true
  · have hfold : Headers.texts ⟨headers.fields ++ [(Text.lower field.1, field.2)]⟩ =
        Request.joinField headers.texts (Text.lower field.1, field.2) := by
      simp [Headers.texts, List.foldl_append]
    rw [if_pos (by simpa using hfield), hfold, Request.find?_joinField]
    simp [hfield.1]
  · rw [if_neg (by simpa using hfield), if_neg]
    rintro ⟨hname, -, hreadable⟩
    exact hfield ⟨hname, isFieldValue_of_isReadable hreadable⟩

theorem find?_texts_appended (given : List (String × String)) (name : String) :
    Keyed.find? name (Headers.appended given).texts = joined (textsUnder name given) := by
  induction given using List.reverseRecOn with
  | nil => rfl
  | append_singleton before field ih =>
    have hstep : Headers.appended (before ++ [field]) =
        (Headers.appended before).append field.1 field.2 := by
      simp [Headers.appended, List.foldl_append]
    rw [hstep, Headers.find?_texts_append, ih, textsUnder_append]
    by_cases hfield : isFieldName field.1 ∧ Text.lower field.1 = name ∧ isReadable field.2
    · have hlast : textsUnder name [field] = [field.2] := by simp [textsUnder, hfield]
      rw [if_pos hfield, hlast, joined_concat]
    · have hlast : textsUnder name [field] = [] := by simp [textsUnder, hfield]
      rw [if_neg hfield, hlast, List.append_nil]

/-- The members of the object of header fields. -/
def Headers.members (headers : Headers) : List (String × Json) :=
  headers.texts.map fun entry ↦ (entry.1, .string entry.2)

/-- What stands under a name is told by the fields of that name alone. -/
theorem find?_members_appended (given : List (String × String)) (name : String) :
    Keyed.find? name (Headers.appended given).members =
      (joined (textsUnder name given)).map .string := by
  rw [Headers.members, Keyed.find?_map_values, find?_texts_appended]

theorem find?_members_appended_of_notMem {further : List (String × String)}
    (h : ∀ field ∈ further, Text.lower field.1 ≠ name) (given : List (String × String)) :
    Keyed.find? name (Headers.appended (given ++ further)).members =
      Keyed.find? name (Headers.appended given).members := by
  rw [find?_members_appended, find?_members_appended, textsUnder_append,
    textsUnder_eq_nil_of_notMem h, List.append_nil]

end Http

/-! ### Rules for the fields -/

namespace Rule

variable {rule : Rule} {properties : List (String × Rule)} {allowUnknown : Bool}

/-- The place of a text has no part in whether it passes. -/
theorem exists_check_string_iff (mode : Strictness) (rule : Rule) (path s : String) :
    (∃ w, check mode rule path (.string s) = .ok w) ↔
      ∃ w, rule.validate mode (.string s) = .ok w := by
  have hne : Json.string s ≠ .null := nofun
  unfold validate
  generalize hkind : rule.kind = kind
  cases kind with
  | string settings =>
    rw [check_string hkind, check_string hkind]
    split_ifs <;> simp
  | any => rw [check_any hkind hne, check_any hkind hne]
  | integer | number | boolean | array | object =>
    have hfits : rule.kind.fits (.string s) = false := by
      rw [hkind]
      rfl
    rw [check_of_fits_eq_false hne hfits, check_of_fits_eq_false hne hfits]
    simp

/-- A lenient check of an object is the check of its declared properties. -/
theorem check_lenient_object (hkind : rule.kind = .object properties allowUnknown)
    (members : List (String × Json)) (path : String) :
    check .lenient rule path (.object members) =
      (checkProperties .lenient members path properties).map fun declared ↦
        .object (withUndeclared properties members declared) := by
  rw [check_object hkind]
  cases checkProperties .lenient members path properties with
  | error e => rfl
  | ok declared =>
    have hcopied : copyUndeclared (allowUnknown || Strictness.lenient = .lenient) path declared
        (undeclared properties members) = .ok (withUndeclared properties members declared) :=
      copyUndeclared_eq_ok (.inl (by simp)) path declared
    exact bind_eq_ok_iff.mpr ⟨declared, rfl, bind_eq_ok_iff.mpr ⟨_, hcopied, rfl⟩⟩

/-- Objects with the same under the declared names both pass, or fail with the same error. -/
theorem check_lenient_congr (hkind : rule.kind = .object properties allowUnknown)
    {members others : List (String × Json)}
    (h : ∀ name ∈ Keyed.keys properties, Keyed.find? name others = Keyed.find? name members)
    (path : String) :
    (check .lenient rule path (.object others)).map (fun _ ↦ ()) =
      (check .lenient rule path (.object members)).map fun _ ↦ () := by
  rw [check_lenient_object hkind, check_lenient_object hkind, checkProperties_congr h]
  cases checkProperties .lenient members path properties <;> rfl

/-- A property may have the texts that were appended under its name: none if it is not required, or
else such that they pass its own rule together. -/
def TakesTexts (property : Rule) (texts : List String) : Prop :=
  (texts = [] ∧ property.required = false) ∨
    (texts ≠ [] ∧ ∃ w, property.validate .lenient (.string (String.intercalate ", " texts)) = .ok w)

theorem exists_propertyValue_iff (given : List (String × String)) (path name : String)
    (property : Rule) :
    (∃ here, propertyValue .lenient (Http.Headers.appended given).members path name property =
      .ok here) ↔ property.TakesTexts (Http.textsUnder name given) := by
  have hfind := Http.find?_members_appended given name
  unfold TakesTexts
  by_cases hempty : Http.textsUnder name given = []
  · rw [hempty] at hfind ⊢
    rw [propertyValue_of_none hfind]
    cases property.required <;> simp
  · rw [Http.joined_of_ne_nil hempty, Option.map_some] at hfind
    rw [propertyValue_of_some hfind, exists_map_iff, exists_check_string_iff]
    simp [hempty]

theorem exists_check_lenient_iff (hkind : rule.kind = .object properties allowUnknown)
    (given : List (String × String)) :
    (∃ w, rule.validate .lenient (.object (Http.Headers.appended given).members) = .ok w) ↔
      ∀ name property, (name, property) ∈ properties →
        property.TakesTexts (Http.textsUnder name given) := by
  unfold validate
  rw [check_lenient_object hkind, exists_map_iff, exists_checkProperties_iff]
  simp only [exists_propertyValue_iff]

end Rule

/-! ### The step -/

namespace Step

open Dispatch

variable {σ : Type} {check : Validator} {s : State σ}

theorem runValidateHeaders_keeps_request (check : Validator) (s : State σ) :
    ((validateHeaders check).run s).2.request = s.request := by
  show (runValidateHeaders check s).2.request = s.request
  unfold runValidateHeaders
  cases check .lenient s.request.headersJson <;> rfl

/-- On requests of which the fields both pass, or fail with the same error, the step does the same.
-/
theorem runValidateHeaders_congr {r : Request (Factory σ)}
    (h : (check .lenient r.headersJson).map (fun _ ↦ ()) =
      (check .lenient s.request.headersJson).map fun _ ↦ ()) :
    (validateHeaders check).run (s.withRequest r) =
      (((validateHeaders check).run s).1, ((validateHeaders check).run s).2.withRequest r) := by
  show runValidateHeaders check (s.withRequest r) =
    ((runValidateHeaders check s).1, (runValidateHeaders check s).2.withRequest r)
  unfold runValidateHeaders
  have hrequest : (s.withRequest r).request = r := rfl
  rw [hrequest]
  generalize check .lenient r.headersJson = outcome at h ⊢
  cases hfields : check .lenient s.request.headersJson with
  | ok fields =>
    rw [hfields] at h
    obtain ⟨fields', rfl, -⟩ := map_eq_ok_iff.mp h
    rfl
  | error e =>
    rw [hfields] at h
    obtain rfl := map_eq_error_iff.mp h
    rfl

/-- A state of which the request has the header fields that were appended, and no others. -/
def withFields (s : State σ) (given : List (String × String)) : State σ :=
  s.withRequest { s.request with headers := .appended given }

/-- Assumes: a rule for objects. The validation of header fields by it proceeds exactly if every
declared property may have the texts of its name. It leaves the request as it is, and fields of
other names that are appended besides change nothing in what it does. -/
theorem headers_pass_name_by_name {rule : Rule} {properties : List (String × Rule)}
    {allowUnknown : Bool} (hkind : rule.kind = .object properties allowUnknown) (s : State σ)
    (given : List (String × String)) :
    (((validateHeaders rule.validate).run (withFields s given)).1 = .proceed ↔
      ∀ name property, (name, property) ∈ properties →
        property.TakesTexts (Http.textsUnder name given)) ∧
    ((validateHeaders rule.validate).run (withFields s given)).2.request =
      (withFields s given).request ∧
    ∀ further, (∀ field ∈ further, Text.lower field.1 ∉ Keyed.keys properties) →
      (validateHeaders rule.validate).run (withFields s (given ++ further)) =
        (((validateHeaders rule.validate).run (withFields s given)).1,
          ((validateHeaders rule.validate).run (withFields s given)).2.withRequest
            (withFields s (given ++ further)).request) := by
  refine ⟨?_, runValidateHeaders_keeps_request _ _, fun further hfurther ↦ ?_⟩
  · rw [← Rule.exists_check_lenient_iff hkind]
    constructor
    · intro hproceeds
      exact (runValidateHeaders_eq_proceed_iff.mp (Prod.ext hproceeds rfl)).1
    · intro hpasses
      exact congrArg Prod.fst (runValidateHeaders_eq_proceed_iff.mpr ⟨hpasses, rfl⟩)
  · refine runValidateHeaders_congr (s := withFields s given)
      (r := (withFields s (given ++ further)).request) ?_
    refine Rule.check_lenient_congr hkind (fun name hname ↦ ?_) "$"
    refine Http.find?_members_appended_of_notMem (fun field hmem heq ↦ ?_) given
    exact hfurther field hmem (heq ▸ hname)

/-- A rule for the fields of a request for lamps: there has to be a key, and what is taken may be
said. The last property is under a name that no field has. -/
def lampFields : Rule :=
  .object [("x-key", Rule.string.asRequired),
    ("accept", Rule.string.oneOf ["text/plain, text/html"]), ("X-Room", .integer)]

/-- A state in which somebody asks for the lamps. -/
def lampsAsked : State Unit where
  request := .new .get "/lamps"
  response := .new
  app := ()
  defaults := []
  notes := []

/-- Fields that say in two places what is taken, and hold a key that cannot be read. -/
def keylessFields : List (String × String) :=
  [("Accept", "text/plain"), ("x-key", "κλειδί"), ("ACCEPT", "text/html")]

/-- With a key that can be read the fields pass, also with a room besides that is no number, and
without one they do not. -/
theorem keyed_fields_pass :
    lampFields.kind = .object [("x-key", Rule.string.asRequired),
      ("accept", Rule.string.oneOf ["text/plain, text/html"]), ("X-Room", .integer)] false ∧
    ((validateHeaders lampFields.validate).run
      (withFields lampsAsked (("X-Key", "k") :: keylessFields ++ [("x-room", "hall")]))).1 =
        .proceed ∧
    ((validateHeaders lampFields.validate).run (withFields lampsAsked keylessFields)).1 ≠
      .proceed := by
  have hkind : lampFields.kind = .object [("x-key", Rule.string.asRequired),
    ("accept", Rule.string.oneOf ["text/plain, text/html"]), ("X-Room", .integer)] false := rfl
  refine ⟨hkind, ?_, fun hproceeds ↦ ?_⟩
  · obtain ⟨hiff, -, hfurther⟩ :=
      headers_pass_name_by_name hkind lampsAsked (("X-Key", "k") :: keylessFields)
    rw [hfurther [("x-room", "hall")] (by decide)]
    refine hiff.mpr fun name property hmem ↦ ?_
    simp only [List.mem_cons, Prod.mk.injEq, List.not_mem_nil, or_false] at hmem
    rcases hmem with ⟨rfl, rfl⟩ | ⟨rfl, rfl⟩ | ⟨rfl, rfl⟩
    · exact .inr ⟨by decide, _, rfl⟩
    · exact .inr ⟨by decide, _, rfl⟩
    · exact .inl ⟨by decide, rfl⟩
  · have hkey := (headers_pass_name_by_name hkind lampsAsked keylessFields).1.mp hproceeds "x-key"
      Rule.string.asRequired List.mem_cons_self
    rcases hkey with ⟨-, hrequired⟩ | ⟨hne, -⟩
    · cases hrequired
    · exact hne (by decide)

end Step

end SchemaRouting
