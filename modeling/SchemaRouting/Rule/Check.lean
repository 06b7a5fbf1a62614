import SchemaRouting.Rule.Basic
import SchemaRouting.Text.Blank
import SchemaRouting.Decimal.Layout

/-!
Checking a value against a rule. The first violation is reported with its place, in the order
type, bounds, then items by index or declared properties by declaration, then undeclared keys
by name. A value that passes comes back normalized: strings trimmed where the rule says so,
and the defaults of absent properties filled in.
-/

set_option autoImplicit false

namespace SchemaRouting

/-- Whether undeclared keys are let through everywhere. -/
inductive Strictness
  | strict
  | lenient
  deriving DecidableEq

/-- What is wrong with a value. -/
inductive Violation
  | required
  | notAllowed
  | wrongKind (expected got : String)
  | tooShort (least : Nat)
  | tooLong (most : Nat)
  | notOneOf (allowed : List String)
  | outOfRange (n : Json.Number)
  | tooFewItems
  | tooManyItems
  | other (message : String)
  deriving DecidableEq

/-- The layout of numbers in messages: the point is always written in place, and a whole
number is written without one. -/
def Violation.numberLayout : Decimal.Layout := ⟨none, false, .up⟩

def Violation.message : Violation → String
  | required => "is required"
  | notAllowed => "is not allowed"
  | wrongKind expected got => "expected " ++ expected ++ ", got " ++ got
  | tooShort least => s!"length must be at least {least} characters"
  | tooLong most => s!"length must be at most {most} characters"
  | notOneOf allowed => "must be one of [" ++ String.intercalate ", " allowed ++ "]"
  | outOfRange (.int n) => s!"{n} is out of range"
  | outOfRange (.float x) => numberLayout.text x ++ " is out of range"
  | tooFewItems => "has too few items"
  | tooManyItems => "has too many items"
  | other message => message

/-- A violation and the place of the value, from the root `$` on. -/
structure ValidationError where
  path : String
  violation : Violation
  deriving DecidableEq

namespace ValidationError

def message (e : ValidationError) : String := e.violation.message

def text (e : ValidationError) : String :=
  "validation error at '" ++ e.path ++ "': " ++ e.message

def toJson (e : ValidationError) : Json :=
  .ofMembers [("name", .string "ValidationError"), ("path", .string e.path),
    ("message", .string e.message)]

end ValidationError

/-- Anything that accepts a value, in the form it is to be used, or rejects it. -/
abbrev Validator := Strictness → Json → Except ValidationError Json

namespace Rule

/-- The place of a member or item of the value at a place. -/
def memberPath (path name : String) : String := path ++ "." ++ name

def itemPath (path : String) (index : Nat) : String := s!"{path}[{index}]"

def Text.check (settings : Text) (path s : String) : Except ValidationError Json :=
  let s := if settings.trim then SchemaRouting.Text.trim s else s
  if settings.minLength.any (s.length < ·) then
    .error ⟨path, .tooShort (settings.minLength.getD 0)⟩
  else if settings.maxLength.any (· < s.length) then
    .error ⟨path, .tooLong (settings.maxLength.getD 0)⟩
  else if !settings.allowed.isEmpty && !settings.allowed.contains s then
    .error ⟨path, .notOneOf settings.allowed⟩
  else .ok (.string s)

def wrongKind (path expected : String) (v : Json) : ValidationError :=
  ⟨path, .wrongKind expected v.kindName⟩

def checkInteger (minimum maximum : Option Int) (path : String) (v : Json) :
    Except ValidationError Json :=
  match v with
  | .number n =>
    match n.toInt64? with
    | some i =>
      if minimum.any (i < ·) || maximum.any (· < i) then .error ⟨path, .outOfRange (.int i)⟩
      else .ok v
    | none => .error (wrongKind path "integer" v)
  | _ => .error (wrongKind path "integer" v)

def checkNumber (minimum maximum : Option Float) (path : String) (v : Json) :
    Except ValidationError Json :=
  match v with
  | .number n =>
    if minimum.any (n.toFloat < ·) || maximum.any (· < n.toFloat) then
      .error ⟨path, .outOfRange (.float n.toFloat)⟩
    else .ok v
  | _ => .error (wrongKind path "number" v)

/-- The items of an array one after the other, from an index on. -/
def checkItems (check : String → Json → Except ValidationError Json) (path : String) :
    Nat → List Json → Except ValidationError (List Json)
  | _, [] => .ok []
  | index, v :: rest => do
    let w ← check (itemPath path index) v
    let ws ← checkItems check path (index + 1) rest
    return w :: ws

/-- Undeclared members are copied where they are allowed; otherwise the first is refused. -/
def copyUndeclared (allowed : Bool) (path : String) (normalized : List (String × Json)) :
    List (String × Json) → Except ValidationError (List (String × Json))
  | [] => .ok normalized
  | (key, v) :: rest =>
    if allowed then copyUndeclared allowed path (Keyed.insert key v normalized) rest
    else .error ⟨memberPath path key, .notAllowed⟩

mutual

/-- Checks the value at a place. -/
def check (mode : Strictness) : Rule → String → Json → Except ValidationError Json
  | ⟨kind, required, _, _⟩, path, v =>
    if v.isNull then (if required then .error ⟨path, .required⟩ else .ok .null)
    else match kind with
      | .string settings =>
        match v with
        | .string s => settings.check path s
        | _ => .error (wrongKind path "string" v)
      | .integer minimum maximum => checkInteger minimum maximum path v
      | .number minimum maximum => checkNumber minimum maximum path v
      | .boolean =>
        match v with
        | .bool _ => .ok v
        | _ => .error (wrongKind path "boolean" v)
      | .array items minItems maxItems =>
        match v with
        | .array values =>
          if minItems.any (values.length < ·) then .error ⟨path, .tooFewItems⟩
          else if maxItems.any (· < values.length) then .error ⟨path, .tooManyItems⟩
          else match items with
            | none => .ok v
            | some rule => (checkItems (check mode rule) path 0 values).map .array
        | _ => .error (wrongKind path "array" v)
      | .object properties allowUnknown =>
        match v with
        | .object members => do
          let declared ← checkProperties mode members path properties
          let undeclared := members.filter fun member => !Keyed.contains member.1 properties
          let normalized ← copyUndeclared (allowUnknown || mode = .lenient) path declared undeclared
          return .object normalized
        | _ => .error (wrongKind path "object" v)
      | .any => .ok v

/-- The declared properties of an object in their order, normalized. -/
def checkProperties (mode : Strictness) (members : List (String × Json)) (path : String) :
    List (String × Rule) → Except ValidationError (List (String × Json))
  | [] => .ok []
  | (name, rule) :: rest => do
    let here : Option Json ←
      match Keyed.find? name members with
      | some v => (check mode rule (memberPath path name) v).map some
      | none =>
        if rule.required then .error ⟨memberPath path name, .required⟩ else .ok rule.default
    let others ← checkProperties mode members path rest
    return match here with
      | some w => Keyed.insert name w others
      | none => others

end

/-- The check of a whole value. -/
def validate (r : Rule) : Validator := fun mode v => r.check mode "$" v

end Rule

end SchemaRouting
