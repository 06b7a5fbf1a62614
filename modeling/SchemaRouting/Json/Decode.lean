import SchemaRouting.Json.Reader

/-!
Typed data read from a document tree. Trees are read in their written order and the first
problem found is the one reported: a key is judged when it is read, a value after its key,
and what is missing once all that is there was read. A value that is absent and one that is
null are the same where a value is optional.
-/

set_option autoImplicit false

namespace SchemaRouting

/-- Why a document cannot be read as typed data. -/
inductive ReadError
  | malformed
  | unknownField (name : String)
  | unknownVariant (name : String)
  | missingField (name : String)
  | duplicateField (name : String)
  | invalidType
  | invalidValue
  | invalidLength
  | noMatchingVariant
  /-- A setting that the named kind of field rule does not have. -/
  | settingOfOtherKind (setting kind : String)
  /-- A bound of whole numbers that is none. -/
  | fractionalBound (setting : String) (bound : String)
  deriving DecidableEq

def ReadError.message : ReadError → String
  | malformed => "syntax"
  | unknownField name => "unknown field \x60" ++ name ++ "\x60"
  | unknownVariant name => "unknown variant \x60" ++ name ++ "\x60"
  | missingField name => "missing field \x60" ++ name ++ "\x60"
  | duplicateField name => "duplicate field \x60" ++ name ++ "\x60"
  | invalidType => "invalid type"
  | invalidValue => "invalid value"
  | invalidLength => "invalid length"
  | noMatchingVariant => "no matching variant"
  | settingOfOtherKind setting kind =>
    "\x60" ++ setting ++ "\x60 does not apply to type \x60" ++ kind ++ "\x60"
  | fractionalBound setting bound =>
    "\x60" ++ setting ++ "\x60 of an integer field must be an integer, got " ++ bound

namespace Tree

abbrev Read (α : Type) := Tree → Except ReadError α

def readBool : Read Bool
  | bool b => .ok b
  | broken => .error .malformed
  | _ => .error .invalidType

def readString : Read String
  | string s => .ok s
  | broken => .error .malformed
  | _ => .error .invalidType

/-- A number. What may be one is read as any value would be, so what lies too deep is no value
of another type. -/
def readNumber : Read Json.Number
  | number (.float x) => if x.isFinite then .ok (.float x) else .error .malformed
  | number n => .ok n
  | broken | array _ .tooDeep | object _ .tooDeep => .error .malformed
  | _ => .error .invalidType

/-- A whole number that is not negative and not above a limit. -/
def readNat (limit : Nat) : Read Nat
  | number (.int n) => if 0 ≤ n && n ≤ limit then .ok n.toNat else .error .invalidValue
  | broken => .error .malformed
  | _ => .error .invalidType

/-- The largest count or length. -/
def countLimit : Nat := UInt64.size - 1

def readCount : Read Nat := readNat countLimit

/-- Any value. -/
def readJson : Read Json := fun t =>
  match t.toJson? with
  | some v => .ok v
  | none => .error .malformed

/-- Null for absence, or else a value. -/
def readOptional {α : Type} (read : Read α) : Read (Option α)
  | null => .ok none
  | t => (read t).map some

/-- An array of values of one type. -/
def readList {α : Type} (read : Read α) : Read (List α)
  | array items ending => do
    let values ← items.mapM read
    if ending.isRead then .ok values else .error .malformed
  | broken => .error .malformed
  | _ => .error .invalidType

def readStrings : Read (List String) := readList readString

/-- Members under free keys, in order of first appearance, the last value of each key. -/
def readKeyed {α : Type} (read : Read α) : Read (List (String × α))
  | object members ending => do
    let entries ← members.mapM fun (key, t) => do return (key, ← read t)
    if ending.isRead then .ok (Keyed.ofList entries) else .error .malformed
  | date s => do return [(dateKey, ← read (.string s))]
  | broken => .error .malformed
  | _ => .error .invalidType

/-- Refuses a key that was read before. -/
def once (seen : List String) (key : String) : Except ReadError (List String) :=
  if seen.contains key then .error (.duplicateField key) else .ok (key :: seen)

/-- The thing that has a name. -/
def named {α : Type} (ofName? : String → Option α) (s : String) : Except ReadError α :=
  match ofName? s with
  | some a => .ok a
  | none => .error (.unknownVariant s)

private def isEmpty : Tree → Bool
  | array [] _ | object [] _ => true
  | _ => false

/-- One of several things that have names: its name, or an object whose one key is the name.
The value of the key says nothing: it is null in a strict object, and an empty array or object
in a lenient one, which must not have another key to begin with. -/
def readNamed {α : Type} (ofName? : String → Option α) : Read α
  | string s => named ofName? s
  | object [(s, t)] .lenient => do
    let a ← named ofName? s
    if t.isEmpty then return a else throw .malformed
  | object _ .lenient => .error .malformed
  | object ((s, t) :: rest) ending => do
    let a ← named ofName? s
    match t with
    | null => if rest.isEmpty && ending.isRead then return a else throw .malformed
    | broken => throw .malformed
    | _ => throw .invalidType
  | _ => .error .malformed

/-- A record: its draft takes the members one by one, each under a key it knows and has not
seen, or the items of an array one by one in the order of its fields. A lenient array may hold
more items than that. -/
def readRecord {δ : Type} (start : δ) (member : δ → String → Tree → Except ReadError δ)
    (fields : List String) : Read δ
  | object members ending => do
    let draft ← members.foldlM (fun draft (key, t) => member draft key t) start
    if ending.isRead then .ok draft else .error .malformed
  | array items ending => do
    let draft ← (fields.zip items).foldlM (fun draft (key, t) => member draft key t) start
    match ending with
    | .strict => if items.length ≤ fields.length then .ok draft else .error .malformed
    | .lenient => .ok draft
    | .missing | .tooDeep => .error .malformed
  | date s => member start dateKey (.string s)
  | broken => .error .malformed
  | _ => .error .invalidType

end Tree

/-- What a whole text says, read as typed data; nothing may follow it. -/
def Json.readText {α : Type} (read : Tree.Read α) (text : String) : Except ReadError α := do
  let (t, clean) := Json.readTree text
  let value ← read t
  if clean then .ok value else .error .malformed

end SchemaRouting
