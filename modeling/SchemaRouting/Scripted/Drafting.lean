import SchemaRouting.Schema.Format
import SchemaRouting.Scripted.Reading

/-!
Schemas written as lists of calls, each of which sets one thing. A later call on the same thing
wins, and calls of an unknown name set nothing.
-/

set_option autoImplicit false

namespace SchemaRouting.Schema

open Scripted (App Factories)

private def textOf (arguments : List Json) : String := (arguments.head?.map Json.toText).getD ""

/-- A step given directly, by its name and its actions. -/
def Middleware.ofCall (factories : Factories) (arguments : List Json) : Middleware App :=
  let actions := (arguments[1]?).getD .null
  .step (Scripted.directStep factories (textOf arguments) (Scripted.Action.allOfScript actions))

/-- Takes one call into the settings of a route. -/
def RouteSettings.call (factories : Factories) (r : RouteDefinition App) (v : Json) :
    RouteDefinition App :=
  let (name, arguments) := v.toCall
  let s := textOf arguments
  match name with
  | "for_method" => { RouteSettings.empty with method := some s }
  | "for_path" => { RouteSettings.empty with path := some s }
  | "id" => { r with id := some s }
  | "method" => { r with method := some s }
  | "path" => { r with path := some s }
  | "header_validation" => { r with headerValidation := Validator.ofScript? s }
  | "validation" => { r with validation := Validator.ofScript? s }
  | "post_validation" => { r with postValidation := some s }
  | "load_factory" => { r with loadFactory := some s }
  | "handler" => { r with handler := some s }
  | "post_handler" => { r with postHandler := some s }
  | "factory" => { r with useFactory := some s }
  | "factory_method" => { r with useFactoryMethod := some s }
  | "middleware" => { r with middlewares := r.middlewares ++ [.ofCall factories arguments] }
  | "named_middleware" => { r with middlewares := r.middlewares ++ [.named s] }
  | _ => r

/-- Takes one call into a schema. -/
def Settings.call (factories : Factories) (d : Definition App) (v : Json) : Definition App :=
  let (name, arguments) := v.toCall
  let s := textOf arguments
  match name with
  | "id" => { d with id := some s }
  | "path" => { d with path := some s }
  | "model_schema" => { d with model := Validator.ofScript? s }
  | "use_factory" => { d with useFactory := some s }
  | "load_factory" => { d with loadFactory := some s }
  | "middleware" => { d with middlewares := d.middlewares ++ [.ofCall factories arguments] }
  | "named_middleware" => { d with middlewares := d.middlewares ++ [.named s] }
  | "empty_route" => d.withRoute s .empty
  | "route" =>
    match (arguments[1]?).getD .null with
    | .string path => d.withRoute s (.ofPath path)
    | calls => d.withRoute s (.route (calls.toItems.foldl (RouteSettings.call factories) .empty))
  | _ => d

/-- The schema that some calls make. -/
def Settings.ofCalls (factories : Factories) (calls : Json) : Definition App :=
  calls.toItems.foldl (Settings.call factories) .empty

/-- The schemas of a script: a document, the calls that make a schema, or a catalog of such. -/
def Source.ofScript (factories : Factories) (format : Format) (v : Json) :
    Except CompileError (Source App) :=
  match v.textAt? "document", v.get? "build" with
  | some s, _ =>
    if v.flagAt "catalog" then do
      return .catalog (toCatalogDefinition (← format.readCatalog s))
    else do return .single (← format.readSchema s).toDefinition
  | none, some calls => .ok (.single (.ofCalls factories calls))
  | none, none =>
    .ok (.catalog (Keyed.ofList (v.entriesAt "build_catalog" (Settings.ofCalls factories))))

end SchemaRouting.Schema
