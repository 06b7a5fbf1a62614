import SchemaRouting.Json.Basic

/-!
Values read without complaint: a value of another kind than the reader asks for reads as
nothing, and so does a member that is not there. A call is an array whose first item is a name
and whose other items are its arguments.
-/

set_option autoImplicit false

namespace SchemaRouting.Json

def toText (v : Json) : String := v.asString?.getD ""

def toNat : Json → Nat
  | number (.int n) => n.toNat
  | _ => 0

def toItems (v : Json) : List Json := v.asArray?.getD []

def textAt? (key : String) (v : Json) : Option String := (v.get? key).bind asString?

def textAt (key : String) (v : Json) : String := (v.textAt? key).getD ""

def itemsAt (key : String) (v : Json) : List Json := ((v.get? key).map toItems).getD []

def flagAt (key : String) (v : Json) : Bool := v.get? key = some (bool true)

def valueAt (key : String) (v : Json) : Json := (v.get? key).getD null

/-- The name and the arguments of a call. -/
def toCall : Json → String × List Json
  | array (name :: arguments) => (name.toText, arguments)
  | _ => ("", [])

/-- Pairs of texts, each written as an array of two. -/
def toPairs (v : Json) : List (String × String) :=
  v.toItems.map fun pair =>
    let (key, rest) := pair.toCall
    (key, (rest.head?.map toText).getD "")

/-- Entries with a name and a value, each written as an array of the two. -/
def entriesAt {α : Type} (key : String) (read : Json → α) (v : Json) : List (String × α) :=
  (v.itemsAt key).map fun entry =>
    let (name, rest) := entry.toCall
    (name, read (rest.head?.getD null))

end SchemaRouting.Json
