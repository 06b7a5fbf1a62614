import SchemaRouting.Json.Access
import SchemaRouting.Json.Reader
import SchemaRouting.Scripted.Program

/-!
Scripted applications written as JSON: errors, the answers of factories, the actions of
programs, and whole setups. What a script leaves out is not set.
-/

set_option autoImplicit false

namespace SchemaRouting

def RouteError.ofScript (v : Json) : RouteError :=
  let message := v.textAt "text"
  match v.textAt "kind" with
  | "forbidden" => .forbidden message
  | "invalid_payload" => .invalidPayload message (v.get? "details")
  | "incomplete_headers" => .incompleteHeaders message
  | "not_found" => .notFound message
  | "not_implemented" => .notImplemented message
  | "factory" =>
    let status := ((v.get? "status").map Json.toNat).bind Http.Status.ofNat?
    .factory (status.getD .internalServerError) message none
  | "factory_source" => .factoryFailure message (v.textAt "source")
  | "internal_source" => .internal message (some (v.textAt "source"))
  | _ => .internal message none

/-- The validators that are given by name. -/
def Validator.named? : String → Option Validator
  | "fn:reject" => some fun _ _ => .error ⟨"$", .other "nope"⟩
  | "fn:wrap" => some fun mode v =>
    .ok (.ofMembers [("wrapped", v), ("lenient", .bool (mode = .lenient))])
  | _ => none

/-- The validator of a text: one given by name, or a rule. -/
def Validator.ofScript? (s : String) : Option Validator :=
  named? s <|> (Json.readText Rule.read s).toOption.map Rule.validate

def Principal.ofJson? (v : Json) : Option Principal := (Principal.read (.ofJson v)).toOption

def Session.ofJson? (v : Json) : Option Session := (Session.read (.ofJson v)).toOption

namespace Scripted

def Answer.ofScript (v : Json) : Answer :=
  match v.get? "ok", v.get? "err", v.get? "panic" with
  | some x, _, _ => .ok x
  | none, some e, _ => .error (.ofScript e)
  | none, none, some message => .panic message.toText
  | none, none, none => .echo

def FactoryKind.ofScript (v : Json) : FactoryKind :=
  match v.textAt "type" with
  | "fixed" =>
    let custom := ((v.get? "custom").bind Json.asObject?).getD []
    .fixed (fun operation => (v.get? operation.name).map Answer.ofScript)
      (custom.map fun (name, x) => (name, .ofScript x))
  | "memory" => .memory (v.itemsAt "items")
  | _ => .base

namespace Action

/-- A panic carries a text, a fixed one or one of the script, or something else. -/
private def ofPanic (v : Json) : Action :=
  match v.textAt? "payload" with
  | some "str" => .panic "static payload"
  | some "other" => .panic unknownPanic
  | _ => .panic (v.textAt "text")

def ofScript (v : Json) : Action :=
  let value := v.valueAt "value"
  match v.textAt "do" with
  | "status" => .status (v.valueAt "code").toNat
  | "json" => .json value
  | "header" => .header (v.textAt "name") (v.textAt "value")
  | "halt" => .halt
  | "fail" => .fail (.ofScript v)
  | "panic" => ofPanic v
  | "echo" => .echo
  | "set_body" => .setBody value
  | "set_user" => .setUser (Principal.ofJson? value)
  | "set_session" => .setSession (Session.ofJson? value)
  | "set_params" => .setParams value.toPairs
  | "set_factory" => .setFactory (v.textAt "name")
  | "set_response_object" => .setResponseObject value
  | "set_extension" => .setText value.toText
  | "take_extension" => .takeText
  | "snapshot" => .showRequest
  | "response" => .showResponse
  | _ => .skip

def allOfScript (v : Json) : List Action := v.toItems.map ofScript

end Action

def Directory.ofScript (v : Json) : Directory :=
  let users := ((v.get? "users").bind Json.asObject?).getD []
  ⟨users.filterMap fun (id, p) => (Principal.ofJson? p).map fun p => (id, p), v.textAt? "panic"⟩

def Setup.ofScript (v : Json) : Setup :=
  ⟨v.entriesAt "factories" .ofScript, (v.get? "default_factory").map .ofScript,
    (v.get? "principals").map .ofScript, v.entriesAt "handlers" Action.allOfScript,
    (v.entriesAt "default_handlers" Action.allOfScript).filterMap fun (name, actions) =>
      (OperationKind.ofName? name).map fun kind => (kind, actions)⟩

end Scripted

end SchemaRouting
