import SchemaRouting.Http.Method
import SchemaRouting.Http.MediaType
import SchemaRouting.Http.Form
import SchemaRouting.Http.Uri
import SchemaRouting.Principal
import SchemaRouting.Context
import SchemaRouting.Error
import SchemaRouting.Json.Reader

/-!
Requests as steps see them. An HTTP request becomes one by reading its body by its media
type: JSON, the pairs of a form, or else plain text; an empty body is the empty object.
-/

set_option autoImplicit false

namespace SchemaRouting

/-- A request as it arrives, its body in bytes. -/
structure Http.Incoming where
  method : Http.Method
  target : Http.Target
  headers : Http.Headers
  body : List UInt8

/-- A request with factories of type `φ` in its context. -/
structure Request (φ : Type) where
  method : Http.Method
  path : String
  headers : Http.Headers
  body : Json
  query : List (String × Json)
  params : Path.Params
  user : Option Principal
  session : Option Session
  context : Context φ

namespace Request

variable {φ : Type}

def new (method : Http.Method) (path : String) : Request φ :=
  ⟨method, path, .empty, .object [], [], .empty, none, none, .new .zero⟩

def withHeader (r : Request φ) (name value : String) : Request φ :=
  { r with headers := r.headers.append name value }

def withQuery (r : Request φ) (key : String) (value : Json) : Request φ :=
  { r with query := Keyed.insert key value r.query }

def header? (r : Request φ) (name : String) : Option String := r.headers.text? name

def contentType? (r : Request φ) : Option String := r.header? "content-type"

/-- Puts a readable value after those of its name. -/
def joinField (joined : List (String × String)) (field : String × String) :
    List (String × String) :=
  let (name, value) := field
  if Http.isReadable value then
    match Keyed.find? name joined with
    | some before => Keyed.insert name (before ++ ", " ++ value) joined
    | none => Keyed.insert name value joined
  else joined

/-- The header fields as an object: for every name the values that can be read as text, in
their order with commas between them. -/
def headersJson (r : Request φ) : Json :=
  .object ((r.headers.fields.foldl joinField []).map fun (name, value) => (name, .string value))

/-- The path parameters as an object, the last value of each key. -/
def paramsJson (r : Request φ) : Json :=
  .ofMembers (r.params.pairs.map fun (key, value) => (key, .string value))

/-- The message of a body that is no JSON document. -/
def unreadableBody : RouteError :=
  .invalidPayload "request body is not valid JSON"
    (some (.object [("reason", .string ReadError.malformed.message)]))

/-- The body of a request by its media type. -/
def readBody (mediaType : Option String) (bytes : List UInt8) : Except RouteError Json :=
  if bytes.isEmpty then .ok (.object [])
  else if mediaType = some Http.jsonType then
    match (Text.ofUtf8? bytes).bind Json.parse with
    | some v => .ok v
    | none => .error unreadableBody
  else if mediaType = some Http.formType then .ok (.object (Http.decodeForm bytes))
  else .ok (.string (Text.ofUtf8Lossy bytes))

def ofHttp (r : Http.Incoming) : Except RouteError (Request φ) := do
  let mediaType := (r.headers.text? "content-type").map Http.mediaType
  let body ← readBody mediaType r.body
  let query := (r.target.query.map fun q => Http.decodeForm (Text.utf8 q)).getD []
  return ⟨r.method, r.target.path, r.headers, body, query, .empty, none, none, .new .zero⟩

end Request

end SchemaRouting
