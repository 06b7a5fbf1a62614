import SchemaRouting.Rule.Basic
import SchemaRouting.Json.Decode
import SchemaRouting.Json.Writer

/-!
Rules read from documents. A rule is an object of settings; some settings may be spelled in
two ways, but each may be given once. The settings are read one by one in their written
order, and once all are read, a setting that the kind of the rule does not have is refused.
-/

set_option autoImplicit false

namespace SchemaRouting.Rule

/-- The settings that a rule's document may hold, in the order of their declaration. -/
inductive Setting
  | type | required | default | description | trim | minLength | maxLength | allowed
  | minimum | maximum | items | minItems | maxItems | properties | allowUnknown
  deriving DecidableEq

namespace Setting

def all : List Setting :=
  [type, required, default, description, trim, minLength, maxLength, allowed, minimum, maximum,
    items, minItems, maxItems, properties, allowUnknown]

def name : Setting → String
  | type => "type"
  | required => "required"
  | default => "default"
  | description => "description"
  | trim => "trim"
  | minLength => "minLength"
  | maxLength => "maxLength"
  | allowed => "allowed"
  | minimum => "minimum"
  | maximum => "maximum"
  | items => "items"
  | minItems => "minItems"
  | maxItems => "maxItems"
  | properties => "properties"
  | allowUnknown => "allowUnknown"

/-- The second spelling of a setting. -/
def alias? : Setting → Option String
  | minLength => some "min_length"
  | maxLength => some "max_length"
  | minItems => some "min_items"
  | maxItems => some "max_items"
  | allowUnknown => some "allow_unknown"
  | _ => none

def ofKey? (key : String) : Option Setting :=
  all.find? fun s => s.name = key || s.alias? = some key

end Setting

/-- The kinds by name. -/
inductive KindTag
  | string | integer | number | boolean | array | object | any
  deriving DecidableEq

namespace KindTag

def all : List KindTag := [string, integer, number, boolean, array, object, any]

def name : KindTag → String
  | string => "string"
  | integer => "integer"
  | number => "number"
  | boolean => "boolean"
  | array => "array"
  | object => "object"
  | any => "any"

def ofName? (s : String) : Option KindTag := all.find? fun tag => tag.name = s

/-- The settings that belong to one kind. -/
def settings : KindTag → List Setting
  | string => [.trim, .minLength, .maxLength, .allowed]
  | integer | number => [.minimum, .maximum]
  | array => [.items, .minItems, .maxItems]
  | object => [.properties, .allowUnknown]
  | boolean | any => []

def read : Tree.Read KindTag := Tree.readNamed ofName?

end KindTag

/-- A rule's document as far as it is read; what was null counts as read but is not set. -/
structure Draft where
  seen : List Setting := []
  type : Option KindTag := none
  required : Bool := false
  default : Option Json := none
  description : Option String := none
  trim : Option Bool := none
  minLength : Option Nat := none
  maxLength : Option Nat := none
  allowed : Option (List String) := none
  minimum : Option Json.Number := none
  maximum : Option Json.Number := none
  items : Option Rule := none
  minItems : Option Nat := none
  maxItems : Option Nat := none
  properties : Option (List (String × Rule)) := none
  allowUnknown : Option Bool := none

namespace Draft

/-- The settings of kinds that are set, in the order in which they are judged. -/
def kindSettings (d : Draft) : List Setting :=
  [(Setting.trim, d.trim.isSome), (.minLength, d.minLength.isSome),
    (.maxLength, d.maxLength.isSome), (.allowed, d.allowed.isSome),
    (.minimum, d.minimum.isSome), (.maximum, d.maximum.isSome), (.items, d.items.isSome),
    (.minItems, d.minItems.isSome), (.maxItems, d.maxItems.isSome),
    (.properties, d.properties.isSome), (.allowUnknown, d.allowUnknown.isSome)].filterMap
    fun (s, isSet) => if isSet then some s else none

/-- A bound of whole numbers. -/
def integerBound (s : Setting) : Option Json.Number → Except ReadError (Option Int)
  | none => .ok none
  | some n =>
    match n.toInt64? with
    | some i => .ok (some i)
    | none => .error (.fractionalBound s.name n.text)

def kind (d : Draft) : KindTag → Except ReadError (Kind Rule)
  | .string => .ok (.string ⟨d.trim.getD false, d.minLength, d.maxLength, d.allowed.getD []⟩)
  | .integer => do
    let minimum ← integerBound .minimum d.minimum
    let maximum ← integerBound .maximum d.maximum
    return .integer minimum maximum
  | .number =>
    .ok (.number (d.minimum.map Json.Number.toFloat) (d.maximum.map Json.Number.toFloat))
  | .boolean => .ok .boolean
  | .array => .ok (.array d.items d.minItems d.maxItems)
  | .object => .ok (.object (d.properties.getD []) (d.allowUnknown.getD false))
  | .any => .ok .any

/-- The rule of a draft that is complete. -/
def toRule (d : Draft) : Except ReadError Rule :=
  match d.type with
  | none => .error (.missingField Setting.type.name)
  | some tag =>
    match d.kindSettings.find? fun s => !tag.settings.contains s with
    | some s => .error (.settingOfOtherKind s.name tag.name)
    | none => do
      let kind ← d.kind tag
      return ⟨kind, d.required, d.default, d.description⟩

/-- Takes in one setting, given the rule or the properties that its tree reads as. -/
def set (d : Draft) (s : Setting) (t : Tree) (rule : Unit → Except ReadError (Option Rule))
    (properties : Unit → Except ReadError (Option (List (String × Rule)))) :
    Except ReadError Draft := do
  if d.seen.contains s then throw (.duplicateField s.name)
  let d := { d with seen := s :: d.seen }
  match s with
  | .type => return { d with type := some (← KindTag.read t) }
  | .required => return { d with required := ← t.readBool }
  | .default => return { d with default := ← t.readOptional Tree.readJson }
  | .description => return { d with description := ← t.readOptional Tree.readString }
  | .trim => return { d with trim := ← t.readOptional Tree.readBool }
  | .minLength => return { d with minLength := ← t.readOptional Tree.readCount }
  | .maxLength => return { d with maxLength := ← t.readOptional Tree.readCount }
  | .allowed => return { d with allowed := ← t.readOptional Tree.readStrings }
  | .minimum => return { d with minimum := ← t.readOptional Tree.readNumber }
  | .maximum => return { d with maximum := ← t.readOptional Tree.readNumber }
  | .items => return { d with items := ← rule () }
  | .minItems => return { d with minItems := ← t.readOptional Tree.readCount }
  | .maxItems => return { d with maxItems := ← t.readOptional Tree.readCount }
  | .properties => return { d with properties := ← properties () }
  | .allowUnknown => return { d with allowUnknown := ← t.readOptional Tree.readBool }

/-- Whether every setting has been read, save those that an array may leave out. -/
def isWhole (d : Draft) : Bool := d.seen.length = Setting.all.length

end Draft

mutual

/-- A rule from its document: an object of settings, or an array of all of them in order, which
holds nothing more unless it is lenient. -/
def read : Tree → Except ReadError Rule
  | .object members ending => do
    let d ← readMembers {} members
    if ending.isRead then d.toRule else throw .malformed
  | .array items ending => do
    let d ← readItems {} Setting.all items
    if !ending.isRead then throw .malformed
    else if !d.isWhole then throw .invalidLength
    else if ending = .lenient || items.length = Setting.all.length then d.toRule
    else throw .malformed
  | .date _ => .error (.unknownField Tree.dateKey)
  | .broken => .error .malformed
  | _ => .error .invalidType

def readOptionalRule : Tree → Except ReadError (Option Rule)
  | .null => .ok none
  | t => (read t).map some

def readProperties : Tree → Except ReadError (Option (List (String × Rule)))
  | .null => .ok none
  | .object members ending => do
    let properties ← readRules members
    if ending.isRead then return some (Keyed.ofList properties) else throw .malformed
  | .broken => .error .malformed
  | _ => .error .invalidType

def readRules : List (String × Tree) → Except ReadError (List (String × Rule))
  | [] => .ok []
  | (name, t) :: rest => do
    let rule ← read t
    let rules ← readRules rest
    return (name, rule) :: rules

def readMembers : Draft → List (String × Tree) → Except ReadError Draft
  | d, [] => .ok d
  | d, (key, t) :: rest =>
    match Setting.ofKey? key with
    | none => .error (.unknownField key)
    | some s => do
      let d ← d.set s t (fun _ => readOptionalRule t) (fun _ => readProperties t)
      readMembers d rest

def readItems : Draft → List Setting → List Tree → Except ReadError Draft
  | d, s :: settings, t :: rest => do
    let d ← d.set s t (fun _ => readOptionalRule t) (fun _ => readProperties t)
    readItems d settings rest
  | d, _, _ => .ok d

end

/-- The rule that a value describes. -/
def ofJson? (v : Json) : Except ReadError Rule := read (Tree.ofJson v)

end SchemaRouting.Rule
