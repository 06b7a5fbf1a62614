/-!
Path parameters: pairs of a placeholder token and the segment it stands for, in the order in
which they were added. A later pair hides an earlier one under the same key, and a name is
looked up under the key that starts with the placeholder marker.
-/

set_option autoImplicit false

namespace SchemaRouting.Path

/-- The character that a placeholder token starts with. -/
def placeholderMarker : Char := ':'

structure Params where
  pairs : List (String × String) := []
  deriving DecidableEq

namespace Params

def empty : Params := ⟨[]⟩

def push (params : Params) (key value : String) : Params := ⟨params.pairs ++ [(key, value)]⟩

/-- The value last added under a key. -/
def get? (params : Params) (key : String) : Option String :=
  (params.pairs.reverse.find? fun pair => pair.1 = key).map Prod.snd

/-- The key of a placeholder without its marker. -/
def name? (key : String) : Option String :=
  match key.toList with
  | c :: rest => if c = placeholderMarker then some (String.ofList rest) else none
  | [] => none

/-- The value last added for a placeholder name. -/
def named? (params : Params) (name : String) : Option String :=
  (params.pairs.reverse.find? fun pair => name? pair.1 = some name).map Prod.snd

def size (params : Params) : Nat := params.pairs.length

theorem get?_push_self (params : Params) (key value : String) :
    (params.push key value).get? key = some value := by
  simp [get?, push]

theorem get?_push_of_ne {key other : String} (h : other ≠ key) (params : Params)
    (value : String) : (params.push key value).get? other = params.get? other := by
  simp [get?, push, Ne.symm h]

end Params

end SchemaRouting.Path
