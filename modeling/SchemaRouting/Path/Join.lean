import SchemaRouting.Text.Split

/-!
Paths put together from a base and a suffix. The segments of both are read in order onto a
stack: an empty one and `.` are dropped, `..` takes the last one off, and any other is kept.
The result has a leading slash if the base has one, or if the base is empty and the suffix
has one.
-/

set_option autoImplicit false

namespace SchemaRouting.Path

def segments (path : String) : List String := Text.split '/' path

/-- Puts one more segment on the stack of kept ones. -/
def keep (kept : List String) (segment : String) : List String :=
  if segment = "" ∨ segment = "." then kept
  else if segment = ".." then kept.dropLast
  else kept ++ [segment]

/-- The stack of kept segments after reading some more. -/
def resolve (kept : List String) (read : List String) : List String :=
  read.foldl keep kept

def isAbsolute (path : String) : Bool := path.toList.head? = some '/'

/-- The path of a base and a suffix below it. -/
def join (base suffix : String) : String :=
  let joined := String.intercalate "/" (resolve (resolve [] (segments base)) (segments suffix))
  if isAbsolute base || (base.isEmpty && isAbsolute suffix) then "/" ++ joined else joined

theorem resolve_append (kept first second : List String) :
    resolve kept (first ++ second) = resolve (resolve kept first) second := by
  simp [resolve]

end SchemaRouting.Path
