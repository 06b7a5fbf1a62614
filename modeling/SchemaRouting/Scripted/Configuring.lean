import SchemaRouting.Config.Loader
import SchemaRouting.Json.Access
import SchemaRouting.Telemetry.LogOutput

/-!
Configurations written as scripts: the layers of a loader as calls, the sections of a
configuration, and the settings of log output. A section that a script does not have is the
standard one.
-/

set_option autoImplicit false

namespace SchemaRouting

namespace Config

/-- A configuration by its name. -/
def ofName? : String → Option Config
  | "default" => some standard
  | "development" => some development
  | "production" => some production
  | _ => none

def Layer.ofCall (v : Json) : Layer :=
  let (name, arguments) := v.toCall
  let s := (arguments.head?.map Json.toText).getD ""
  match name with
  | "string" => .text s ((arguments[1]?.map Json.toText).getD "")
  | "file" => .file s
  | "optional_file" => .optionalFile s
  | "env_prefix" => .environment s
  | "dotenv" => .dotenv
  | "dotenv_file" => .dotenvFile s
  | name => .preset ((ofName? name).getD standard)

def Server.ofScript (v : Json) : Server :=
  ⟨v.textAt "service_name", (v.itemsAt "schemas").map Json.toText, v.textAt? "schema_file"⟩

def Logging.ofScript (v : Json) : Logging :=
  ⟨v.flagAt "enabled", v.textAt "level",
    if v.textAt "format" = "pretty" then .pretty else .json,
    v.flagAt "include_location", v.flagAt "thread_ids"⟩

/-- A configuration by its name, or else by its sections. -/
def ofScript (v : Json) : Config :=
  match (v.textAt? "preset").bind ofName? with
  | some c => c
  | none => ⟨((v.get? "server").map .ofScript).getD .standard,
      ((v.get? "logging").map .ofScript).getD .standard⟩

/-- The variables of an object of texts. -/
def Environment.ofScript (v : Json) : Environment :=
  (v.asObject?.getD []).map fun (name, value) => .text name value.toText

end Config

/-- The settings of log output of a preset, with some of them changed. -/
def Telemetry.LogOutput.ofScript (v : Json) : LogOutput :=
  let base := if v.textAt "preset" = "development" then development else production
  { base with
    level := (v.textAt? "level").getD base.level
    serviceName := (v.textAt? "service_name").getD base.serviceName
    enabled := (v.get? "enabled").elim base.enabled fun b => b = .bool true }

end SchemaRouting
