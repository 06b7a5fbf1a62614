import SchemaRouting.Json.Decode
import SchemaRouting.Http.Status
import SchemaRouting.Path.Pattern

/-!
The errors that a request can end with. Each has a status and a body for the client; the body
tells the client only the kind of error, except for the message of a factory's error and the
details of an invalid payload.
-/

set_option autoImplicit false

namespace SchemaRouting

inductive RouteError
  | forbidden (reason : String)
  | invalidPayload (message : String) (details : Option Json)
  | incompleteHeaders (message : String)
  | notFound (message : String)
  | notImplemented (operation : String)
  | factory (status : Http.Status) (message : String) (cause : Option String)
  | internal (message : String) (cause : Option String)
  deriving DecidableEq

/-- What a client is told of an error. -/
structure ErrorBody where
  status : Nat
  message : String
  details : Option Json
  deriving DecidableEq

namespace RouteError

/-- A factory's error that comes from another error. -/
def factoryFailure (message cause : String) : RouteError :=
  factory .internalServerError message (some cause)

def message : RouteError → String
  | forbidden reason => "Forbidden: " ++ reason
  | invalidPayload message _ => "InvalidRequestPayload: " ++ message
  | incompleteHeaders message => "IncompleteRequestHeaders: " ++ message
  | notFound message => "Not found: " ++ message
  | notImplemented operation => "NeedFunctionOverride: " ++ operation ++ " is not implemented"
  | factory _ message _ => message
  | internal message _ => "Internal error: " ++ message

def status : RouteError → Http.Status
  | forbidden _ => .forbidden
  | invalidPayload .. | incompleteHeaders _ => .badRequest
  | notFound _ => .notFound
  | notImplemented _ | internal .. => .internalServerError
  | factory status .. => status

/-- What the client is told in words. -/
def publicMessage : RouteError → String
  | forbidden _ => "Forbidden"
  | invalidPayload .. => "InvalidRequestPayload"
  | incompleteHeaders _ => "IncompleteRequestHeaders"
  | notFound _ => "NotFound"
  | notImplemented _ => "NeedFunctionOverride"
  | factory _ message _ => message
  | internal .. => "InternalServerError"

def details : RouteError → Option Json
  | invalidPayload _ details => details
  | _ => none

/-- The text of the error that this one comes from. -/
def cause : RouteError → Option String
  | factory _ _ cause | internal _ cause => cause
  | _ => none

def body (e : RouteError) : ErrorBody := ⟨e.status.code, e.publicMessage, e.details⟩

def isClientError (e : RouteError) : Bool := e.status.isClientError

/-- A path that does not match is forbidden. -/
def ofMismatch (m : Path.Mismatch) : RouteError := forbidden m.message

end RouteError

namespace ErrorBody

def toJson (b : ErrorBody) : Json :=
  .ofMembers <| [("status", .int b.status), ("message", .string b.message)] ++
    (b.details.map fun v => ("details", v)).toList

/-- A body as far as it is read. -/
private structure Draft where
  status : Option Nat := none
  message : Option String := none
  details : Option (Option Json) := none

private def readMember (draft : Draft) (key : String) (t : Tree) : Except ReadError Draft :=
  match key with
  | "status" => do
    if draft.status.isSome then throw (.duplicateField key)
    return { draft with status := some (← Tree.readNat 65535 t) }
  | "message" => do
    if draft.message.isSome then throw (.duplicateField key)
    return { draft with message := some (← t.readString) }
  | "details" => do
    if draft.details.isSome then throw (.duplicateField key)
    return { draft with details := some (← t.readOptional Tree.readJson) }
  | _ => .ok draft

/-- A body from its document; keys that it does not know are passed over, and what stands under
them is not looked at. -/
def read : Tree.Read ErrorBody := fun t => do
  let draft ← t.readRecord {} readMember ["status", "message", "details"]
  match t, draft with
  | .array .., { status := some status, message := some message, details := some details } =>
    return ⟨status, message, details⟩
  | .array .., _ => throw .invalidLength
  | _, { status := none, .. } => throw (.missingField "status")
  | _, { message := none, .. } => throw (.missingField "message")
  | _, { status := some status, message := some message, details } =>
    return ⟨status, message, details.join⟩

end ErrorBody

end SchemaRouting
