import SchemaRouting.Proofs.Http.MediaTypes
import SchemaRouting.Proofs.Json.Strings
import SchemaRouting.Proofs.Json.Writing
import SchemaRouting.Proofs.Route.BodyTypes
import SchemaRouting.Proofs.Text.Decoding

/-!
# The bodies of requests that are let pass

The content type of a request is looked at twice, once to read the body and once by the guard of a
route. Both find the first value of its name, if that can be read as text, and take from it the same
media type, so where the guard asks for a body of an accepted type the body was read as one of that
type (`ReadsBody`, `readBody_eq_ok_iff`). It is then no plain text of its bytes, not even where a
JSON text is a string (`ReadsBody.ne_plain`). Conversely a posted request with such a body is always
read and let pass (`admitted_body_is_read`).
-/

set_option autoImplicit false
set_option relaxedAutoImplicit false

namespace SchemaRouting

variable {σ : Type}

theorem Json.parse_of_isText {t : Tree} (h : t.IsJson) (hdepth : t.depth ≤ depthLimit)
    {text : String} (htext : IsText t text) : parse text = some t.value := by
  rw [parse, readTree_of_isText h hdepth htext]
  exact h.toJson?_eq

namespace Http

variable {contentType : String}

theorem Headers.text?_eq_some_iff {headers : Headers} {name value : String} :
    headers.text? name = some value ↔
      (∃ others, headers.values name = value :: others) ∧ isReadable value = true := by
  rw [text?]
  cases headers.values name with
  | nil => simp
  | cons first others =>
    dsimp only
    constructor
    · intro h
      split_ifs at h with hreadable
      cases h
      exact ⟨⟨others, rfl⟩, hreadable⟩
    · rintro ⟨⟨_, heq⟩, hreadable⟩
      cases heq
      exact if_pos hreadable

theorem mediaType_eq_jsonType_iff : mediaType contentType = jsonType ↔ Names contentType jsonType :=
  mediaType_eq_iff rfl

theorem mediaType_eq_formType_iff : mediaType contentType = formType ↔ Names contentType formType :=
  mediaType_eq_iff rfl

/-- The body that bytes of an accepted type are read as: none is an empty object, JSON is the value
of the text that they encode, and a form is the object of its pairs. -/
inductive ReadsBody (contentType : String) (bytes : List UInt8) : Json → Prop
  | empty : Names contentType jsonType ∨ Names contentType formType → bytes = [] →
    ReadsBody contentType bytes (.object [])
  | json {text : String} {v : Json} : Names contentType jsonType → bytes ≠ [] →
    Text.utf8 text = bytes → Json.parse text = some v → ReadsBody contentType bytes v
  | form : Names contentType formType → bytes ≠ [] →
    ReadsBody contentType bytes (.object (decodeForm bytes))

variable {bytes : List UInt8} {body : Json}

theorem ReadsBody.names (h : ReadsBody contentType bytes body) :
    Names contentType jsonType ∨ Names contentType formType := by
  cases h with
  | empty hnames => exact hnames
  | json hnames => exact .inl hnames
  | form hnames => exact .inr hnames

/-- The value of a text is not that text: a string is shorter than what it is read from. -/
theorem ReadsBody.ne_plain (h : ReadsBody contentType bytes body) :
    body ≠ .string (Text.ofUtf8Lossy bytes) := by
  cases h with
  | empty => nofun
  | form => nofun
  | @json text v _ _ hbytes hparse =>
    rintro rfl
    rw [← hbytes, Text.ofUtf8Lossy_utf8] at hparse
    exact Nat.lt_irrefl _ (Json.length_lt_of_parse hparse)

end Http

namespace Request

open Http (Names ReadsBody mediaType_eq_jsonType_iff mediaType_eq_formType_iff)

variable {contentType : String} {bytes : List UInt8} {body : Json}

theorem readBody_of_json (hbytes : bytes ≠ []) :
    readBody (some Http.jsonType) bytes = .ok body ↔
      ∃ text, Text.utf8 text = bytes ∧ Json.parse text = some body := by
  have hempty : ¬ bytes.isEmpty = true := fun h ↦ hbytes (List.isEmpty_iff.mp h)
  simp only [← Text.ofUtf8?_eq_some_iff]
  rw [readBody, if_neg hempty, if_pos rfl, ← Option.bind_eq_some_iff]
  cases (Text.ofUtf8? bytes).bind Json.parse <;> simp

theorem readBody_of_form (hbytes : bytes ≠ []) :
    readBody (some Http.formType) bytes = .ok (.object (Http.decodeForm bytes)) := by
  have hempty : ¬ bytes.isEmpty = true := fun h ↦ hbytes (List.isEmpty_iff.mp h)
  have hother : some Http.formType ≠ some Http.jsonType := by decide
  rw [readBody, if_neg hempty, if_neg hother, if_pos rfl]

/-- Assumes: a content type that names one of the two accepted types, in any spelling. -/
theorem readBody_eq_ok_iff
    (hnames : Names contentType Http.jsonType ∨ Names contentType Http.formType) :
    readBody (some (Http.mediaType contentType)) bytes = .ok body ↔
      ReadsBody contentType bytes body := by
  by_cases hbytes : bytes = []
  · subst hbytes
    constructor
    · intro h
      cases h
      exact .empty hnames rfl
    · intro h
      cases h with
      | empty => rfl
      | json _ hne => exact absurd rfl hne
      | form _ hne => exact absurd rfl hne
  rcases hnames with hjson | hform
  · have hform : ¬ Names contentType Http.formType := by
      rw [← mediaType_eq_formType_iff, mediaType_eq_jsonType_iff.mpr hjson]
      decide
    rw [mediaType_eq_jsonType_iff.mpr hjson, readBody_of_json hbytes]
    constructor
    · rintro ⟨text, htext, hparse⟩
      exact .json hjson hbytes htext hparse
    · intro h
      cases h with
      | empty _ hempty => exact absurd hempty hbytes
      | json _ _ htext hparse => exact ⟨_, htext, hparse⟩
      | form hnames => exact absurd hnames hform
  · have hjson : ¬ Names contentType Http.jsonType := by
      rw [← mediaType_eq_jsonType_iff, mediaType_eq_formType_iff.mpr hform]
      decide
    rw [mediaType_eq_formType_iff.mpr hform, readBody_of_form hbytes]
    constructor
    · intro h
      cases h
      exact .form hform hbytes
    · intro h
      cases h with
      | empty _ hempty => exact absurd hempty hbytes
      | json hnames => exact absurd hnames hjson
      | form => rfl

/-- A request as it came in, with the body that was read and nothing set yet. -/
def arrived (incoming : Http.Incoming) (body : Json) : Request (Factory σ) :=
  ⟨incoming.method, incoming.target.path, incoming.headers, body,
    (incoming.target.query.map fun q ↦ Http.decodeForm (Text.utf8 q)).getD [], .empty, none, none,
    .new .zero⟩

theorem ofHttp_eq (incoming : Http.Incoming) : (ofHttp incoming : Except _ (Request (Factory σ))) =
    (readBody ((incoming.headers.text? "content-type").map Http.mediaType) incoming.body).map
      (arrived incoming) := by
  rw [ofHttp]
  cases readBody ((incoming.headers.text? "content-type").map Http.mediaType) incoming.body <;> rfl

/-- Assumes: a request that says that it carries a body of an accepted type. -/
theorem ofHttp_eq_ok_iff {incoming : Http.Incoming} {request : Request (Factory σ)}
    (htype : incoming.headers.text? "content-type" = some contentType)
    (hnames : Names contentType Http.jsonType ∨ Names contentType Http.formType) :
    ofHttp incoming = .ok request ↔
      ∃ body, ReadsBody contentType incoming.body body ∧ arrived incoming body = request := by
  rw [ofHttp_eq, map_eq_ok_iff, htype, Option.map_some]
  simp only [readBody_eq_ok_iff hnames]

end Request

theorem carriesBody_iff {request : Request (Factory σ)} : CarriesBody request ↔
    ∃ contentType, request.contentType? = some contentType ∧
      (Http.Names contentType Http.jsonType ∨ Http.Names contentType Http.formType) := by
  simp only [← Http.mediaType_eq_jsonType_iff, ← Http.mediaType_eq_formType_iff]
  exact Iff.rfl

namespace CompiledRoute

open Http (Names ReadsBody)

variable {contentType : String} {incoming : Http.Incoming}

theorem readsBody_of_guard (hposts : incoming.method = .post ∨ incoming.method = .put)
    {request : Request (Factory σ)} {r : CompiledRoute σ}
    (hread : Request.ofHttp incoming = .ok request)
    (hguard : r.guard request.method request.contentType? = .ok ()) :
    ∃ contentType, incoming.headers.text? "content-type" = some contentType ∧
      ReadsBody contentType incoming.body request.body := by
  have harrived := hread
  rw [Request.ofHttp_eq, map_eq_ok_iff] at harrived
  obtain ⟨body, -, rfl⟩ := harrived
  have hneeds : needsBody incoming.method = true := needsBody_iff.mpr hposts
  obtain ⟨contentType, htype, hnames⟩ :=
    carriesBody_iff.mp (isAcceptedBody_iff.mp ((guard_eq_ok_iff.mp hguard).2 hneeds))
  obtain ⟨body', hbody, hsame⟩ := (Request.ofHttp_eq_ok_iff htype hnames).mp hread
  exact ⟨contentType, htype, congrArg Request.body hsame ▸ hbody⟩

theorem exists_request_of_readsBody {body : Json}
    (htype : incoming.headers.text? "content-type" = some contentType)
    (hbody : ReadsBody contentType incoming.body body) :
    ∃ request : Request (Factory σ), Request.ofHttp incoming = .ok request ∧ request.body = body ∧
      ∀ r : CompiledRoute σ, r.method = incoming.method →
        r.guard request.method request.contentType? = .ok () := by
  refine ⟨Request.arrived incoming body,
    (Request.ofHttp_eq_ok_iff htype hbody.names).mpr ⟨body, hbody, rfl⟩, rfl, fun r hmethod ↦ ?_⟩
  refine guard_eq_ok_iff.mpr ⟨.inr hmethod.symm, fun _ ↦ ?_⟩
  exact isAcceptedBody_iff.mpr (carriesBody_iff.mpr ⟨contentType, htype, hbody.names⟩)

/-- A body of JSON is read as the value that is written in it. -/
theorem readsBody_of_isText {bytes : List UInt8} {text : String} {t : Tree}
    (hnames : Names contentType Http.jsonType) (hbytes : Text.utf8 text = bytes) (h : t.IsJson)
    (hdepth : t.depth ≤ Json.depthLimit) (htext : Json.IsText t text) :
    ReadsBody contentType bytes t.value := by
  have hparse := Json.parse_of_isText h hdepth htext
  refine .json hnames (fun hempty ↦ ?_) hbytes hparse
  have hnone : text = "" := by
    rw [← Text.ofUtf8Lossy_utf8 text, hbytes, hempty]
    rfl
  rw [hnone] at hparse
  cases hparse

/-- Assumes: a request that is posted or put. Where it is read and the guard of any route lets it
pass, the first of its content types can be read as text and names one of the accepted types, in any
case of letters, within white space and with parameters or not, and its body was read as one of that
type and never as plain text. It is the empty object where there are no bytes, the value of JSON, or
the pairs of a form. Conversely, whatever the spelling of such a type, a request with a body of it
is read with that body and let pass by every route of its method; and a body of JSON is the value
that is written in it. -/
theorem admitted_body_is_read (hposts : incoming.method = .post ∨ incoming.method = .put) :
    (∀ (request : Request (Factory σ)) (r : CompiledRoute σ),
      Request.ofHttp incoming = .ok request →
      r.guard request.method request.contentType? = .ok () →
      ∃ contentType others, incoming.headers.values "content-type" = contentType :: others ∧
        Http.isReadable contentType = true ∧
        ReadsBody contentType incoming.body request.body ∧
        request.body ≠ .string (Text.ofUtf8Lossy incoming.body)) ∧
    (∀ contentType others body,
      incoming.headers.values "content-type" = contentType :: others →
      Http.isReadable contentType = true → ReadsBody contentType incoming.body body →
      ∃ request : Request (Factory σ), Request.ofHttp incoming = .ok request ∧
        request.body = body ∧ ∀ r : CompiledRoute σ, r.method = incoming.method →
          r.guard request.method request.contentType? = .ok ()) ∧
    ∀ contentType text (t : Tree), Names contentType Http.jsonType →
      Text.utf8 text = incoming.body → t.IsJson → t.depth ≤ Json.depthLimit → Json.IsText t text →
      ReadsBody contentType incoming.body t.value := by
  refine ⟨fun request r hread hguard ↦ ?_, fun contentType others body hvalues hreadable hbody ↦ ?_,
    fun contentType text t ↦ readsBody_of_isText⟩
  · obtain ⟨contentType, htype, hbody⟩ := readsBody_of_guard hposts hread hguard
    obtain ⟨⟨others, hvalues⟩, hreadable⟩ := Http.Headers.text?_eq_some_iff.mp htype
    exact ⟨contentType, others, hvalues, hreadable, hbody, hbody.ne_plain⟩
  · exact exists_request_of_readsBody
      (Http.Headers.text?_eq_some_iff.mpr ⟨⟨others, hvalues⟩, hreadable⟩) hbody

/-- The shade of a lamp, in JSON. -/
def shade : Tree := .object [("shade", .string "oak")] .strict

/-- A shade that is posted with a content type in capitals, after a tab and with a parameter. -/
def postedShade : Http.Incoming where
  method := .post
  target := ⟨"/lamps", none⟩
  headers := Http.Headers.empty.append "Content-Type" "\tApplication/JSON ; charset=utf-8"
  body := Text.utf8 "\x7b\"shade\":\"oak\"\x7d"

/-- It is let pass, with the object that was posted. -/
theorem posted_shade_is_read : postedShade.method = .post ∧
    ∃ request : Request (Factory Unit), Request.ofHttp postedShade = .ok request ∧
      request.body = .object [("shade", .string "oak")] ∧
      Schema.postedLamp.guard request.method request.contentType? = .ok () := by
  obtain ⟨-, hlet, hvalue⟩ := @admitted_body_is_read Unit postedShade (.inl rfl)
  have hnames : Names "\tApplication/JSON ; charset=utf-8" Http.jsonType :=
    Http.mediaType_eq_jsonType_iff.mp rfl
  have hjson : shade.IsJson := by
    simp [shade, Tree.isJson_object_iff, Tree.IsJson.string, Keyed.keys]
  have hlegible : Json.Legible shade := by
    simp [shade, Json.legible_object_iff, Json.Legible.string]
  have hread := hvalue _ _ shade hnames rfl hjson (by decide) (Json.isText_writeTree hlegible)
  obtain ⟨request, hrequest, hbody, hguard⟩ := hlet _ [] _ rfl (by decide) hread
  exact ⟨rfl, request, hrequest, hbody, hguard Schema.postedLamp rfl⟩

end CompiledRoute

end SchemaRouting
