import SchemaRouting.Json.Basic

/-!
A document as it is written: members and items in their order, members of one key kept
apart. Where the text stops being a document the tree says so at that very place, so that a
reader of typed data that walks the tree in order meets the first problem first, be it one
of form or one of type.
-/

set_option autoImplicit false

namespace SchemaRouting

/-- How an array or object ends. -/
inductive Ending
  /-- Its end was read, and a reader of typed data has to use all that it holds. -/
  | strict
  /-- Its end was read, and a reader may leave what it has no use for. -/
  | lenient
  /-- Its end was not read, or something in it has no place in a document. -/
  | missing
  /-- It lies too deep for anything in it to be read. -/
  | tooDeep
  deriving DecidableEq

def Ending.isRead : Ending → Bool
  | strict | lenient => true
  | missing | tooDeep => false

/-- A document in its written order. `broken` stands where a value was due and none could be
read; a date or time is kept as its text. -/
inductive Tree
  | null
  | bool (b : Bool)
  | number (n : Json.Number)
  | string (s : String)
  | date (s : String)
  | array (items : List Tree) (ending : Ending)
  | object (members : List (String × Tree)) (ending : Ending)
  | broken

namespace Tree

/-- The key under which a date or time is the one member of an object. -/
def dateKey : String := "$__toml_private_datetime"

mutual

/-- The value of a tree in which nothing is broken; of members with one key the last counts.
A number that is not finite has no place among the values and is read as null. -/
def toJson? : Tree → Option Json
  | null => some .null
  | bool b => some (.bool b)
  | number (.float x) => some (if x.isFinite then .number (.float x) else .null)
  | number (.int n) => some (.number (.int n))
  | string s => some (.string s)
  | date s => some (.ofMembers [(dateKey, .string s)])
  | array items ending =>
    if ending.isRead then (itemsToJson? items).map .array else none
  | object members ending =>
    if ending.isRead then (membersToJson? members).map Json.ofMembers else none
  | broken => none

def itemsToJson? : List Tree → Option (List Json)
  | [] => some []
  | x :: xs =>
    match toJson? x, itemsToJson? xs with
    | some y, some ys => some (y :: ys)
    | _, _ => none

def membersToJson? : List (String × Tree) → Option (List (String × Json))
  | [] => some []
  | (key, x) :: xs =>
    match toJson? x, membersToJson? xs with
    | some y, some ys => some ((key, y) :: ys)
    | _, _ => none

end

mutual

/-- The tree of a value, with the members in the order of their keys. -/
def ofJson : Json → Tree
  | .null => null
  | .bool b => bool b
  | .number n => number n
  | .string s => string s
  | .array items => array (itemsOfJson items) .strict
  | .object members => object (membersOfJson members) .strict

def itemsOfJson : List Json → List Tree
  | [] => []
  | x :: xs => ofJson x :: itemsOfJson xs

def membersOfJson : List (String × Json) → List (String × Tree)
  | [] => []
  | (key, x) :: xs => (key, ofJson x) :: membersOfJson xs

end

mutual

/-- The same tree with all of it to be used, and with dates as objects; none where something
in it is broken. -/
def strict? : Tree → Option Tree
  | null => some null
  | bool b => some (bool b)
  | number n => some (number n)
  | string s => some (string s)
  | date s => some (object [(dateKey, string s)] .strict)
  | array items ending =>
    if ending.isRead then (strictItems? items).map (array · .strict) else none
  | object members ending =>
    if ending.isRead then (strictMembers? members).map (object · .strict) else none
  | broken => none

def strictItems? : List Tree → Option (List Tree)
  | [] => some []
  | x :: xs =>
    match strict? x, strictItems? xs with
    | some y, some ys => some (y :: ys)
    | _, _ => none

def strictMembers? : List (String × Tree) → Option (List (String × Tree))
  | [] => some []
  | (key, x) :: xs =>
    match strict? x, strictMembers? xs with
    | some y, some ys => some ((key, y) :: ys)
    | _, _ => none

end

end Tree

end SchemaRouting
