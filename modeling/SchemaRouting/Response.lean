import SchemaRouting.Http.Status
import SchemaRouting.Http.Method
import SchemaRouting.Http.MediaType
import SchemaRouting.Json.Writer

/-!
Responses while they are built, and as they are sent. A response is written once it has a
body. When it is sent, a status that allows no content drops the body, and a body that is
sent without a content type is marked as JSON.
-/

set_option autoImplicit false

namespace SchemaRouting

structure Response where
  status : Http.Status
  headers : Http.Headers
  body : Option Json
  deriving DecidableEq

/-- A response as it is sent. -/
structure Http.Reply where
  status : Http.Status
  headers : Http.Headers
  body : String
  deriving DecidableEq

namespace Response

def new : Response := ⟨.ok, .empty, none⟩

def withStatus (r : Response) (status : Http.Status) : Response := { r with status }

def withJson (r : Response) (body : Json) : Response := { r with body := some body }

def withHeader (r : Response) (name value : String) : Response :=
  { r with headers := r.headers.insert name value }

def isWritten (r : Response) : Bool := r.body.isSome

/-- Whether the status allows no content. -/
def isBodyless (r : Response) : Bool :=
  r.status = .noContent || r.status = .notModified

def toReply (r : Response) : Http.Reply :=
  match r.body, r.isBodyless with
  | some body, false =>
    let headers :=
      if r.headers.contains "content-type" then r.headers
      else r.headers.insert "content-type" Http.jsonType
    ⟨r.status, headers, body.text⟩
  | _, _ => ⟨r.status, r.headers, ""⟩

end Response

end SchemaRouting
