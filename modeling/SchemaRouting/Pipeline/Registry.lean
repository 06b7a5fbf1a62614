import SchemaRouting.Text.Blank
import SchemaRouting.Text.Split
import SchemaRouting.Text.Outline
import SchemaRouting.Keyed

/-!
Handlers under dotted names. The registry is a tree: each segment of a name leads to a handler
or to a namespace of further segments. A name is taken as it stands but for the white space
around it; it may not lead through a handler, nor put one where a namespace is.
-/

set_option autoImplicit false

namespace SchemaRouting

/-- Why a handler cannot be registered. -/
inductive RegistryError
  | invalidName (name : String)
  | conflict (name existing : String)
  deriving DecidableEq

def RegistryError.message : RegistryError → String
  | invalidName name => "invalid handler name '" ++ name ++ "'"
  | conflict name existing => "handler name '" ++ name ++ "' conflicts with '" ++ existing ++ "'"

namespace HandlerRegistry

/-- A handler of type `φ`, or the segments below a segment, sorted. -/
inductive Node (φ : Type)
  | handler (h : φ)
  | group (children : List (String × Node φ))

/-- The segments of a name, if none of them is empty. -/
def segments? (name : String) : Option (List String) :=
  let trimmed := Text.trim name
  let parts := Text.split '.' trimmed
  if trimmed.isEmpty || parts.any String.isEmpty then none else some parts

def dotted (segments : List String) : String := String.intercalate "." segments

/-- What stands in the way of a new handler. -/
inductive Obstacle
  | handlerAt (segments : List String)
  | namespaceAt (segments : List String)
  | noSegments

def Obstacle.toError (name : String) : Obstacle → RegistryError
  | handlerAt segments => .conflict name (dotted segments)
  | namespaceAt segments => .conflict name (dotted segments ++ " (namespace)")
  | noSegments => .invalidName name

variable {φ : Type}

/-- Puts a handler below a level, which the segments walked so far have led to, or tells what stands
in its way. The groups that the segments lead through are made on the way there. -/
def place (h : φ) (walked : List String) :
    List String → List (String × Node φ) → Option Obstacle × List (String × Node φ)
  | [], level => (some .noSegments, level)
  | [last], level =>
    match Keyed.find? last level with
    | some (.group _) => (some (.namespaceAt (walked ++ [last])), level)
    | _ => (none, Keyed.insert last (.handler h) level)
  | segment :: rest, level =>
    match Keyed.find? segment level with
    | some (.handler _) => (some (.handlerAt (walked ++ [segment])), level)
    | some (.group children) =>
      let (obstacle, children) := place h (walked ++ [segment]) rest children
      (obstacle, Keyed.insert segment (.group children) level)
    | none =>
      let (obstacle, children) := place h (walked ++ [segment]) rest []
      (obstacle, Keyed.insert segment (.group children) level)

/-- The handler that segments lead to. -/
def lookup : List String → List (String × Node φ) → Option φ
  | [], _ => none
  | [last], level =>
    match Keyed.find? last level with
    | some (.handler h) => some h
    | _ => none
  | segment :: rest, level =>
    match Keyed.find? segment level with
    | some (.group children) => lookup rest children
    | _ => none

mutual

/-- The paths below a node that segments have led to. -/
def Node.paths (walked : List String) : Node φ → List (List String)
  | .handler _ => [walked]
  | .group children => levelPaths walked children

/-- The paths of all handlers of a level, segment by segment in the order of the level. -/
def levelPaths (walked : List String) : List (String × Node φ) → List (List String)
  | [] => []
  | (segment, node) :: rest => node.paths (walked ++ [segment]) ++ levelPaths walked rest

end

end HandlerRegistry

/-- Handlers of type `φ` by dotted name. -/
structure HandlerRegistry (φ : Type) where
  root : List (String × HandlerRegistry.Node φ)

namespace HandlerRegistry

variable {φ : Type}

def empty : HandlerRegistry φ := ⟨[]⟩

/-- Registers a handler under a name. The registry is told as the attempt leaves it, also where it
fails. -/
def register (r : HandlerRegistry φ) (name : String) (h : φ) :
    Except RegistryError Unit × HandlerRegistry φ :=
  match segments? name with
  | none => (.error (.invalidName name), r)
  | some segments =>
    match place h [] segments r.root with
    | (none, root) => (.ok (), ⟨root⟩)
    | (some obstacle, root) => (.error (obstacle.toError name), ⟨root⟩)

def resolve? (r : HandlerRegistry φ) (name : String) : Option φ :=
  (segments? name).bind fun segments => lookup segments r.root

def contains (r : HandlerRegistry φ) (name : String) : Bool := (r.resolve? name).isSome

/-- The names of all handlers, in the order of the tree. -/
def names (r : HandlerRegistry φ) : List String := (levelPaths [] r.root).map dotted

def size (r : HandlerRegistry φ) : Nat := r.names.length

def isEmpty (r : HandlerRegistry φ) : Bool := r.root.isEmpty

def outline (r : HandlerRegistry φ) : Outline :=
  .record "HandlerRegistry" [("handlers", .list (r.names.map .quoted))] false

end HandlerRegistry

end SchemaRouting
