import SchemaRouting.Path.Join
import SchemaRouting.Path.Params

/-!
Route patterns. A path matches a pattern if the two are the same text, or if they have the
same number of segments and every segment of the pattern that is not a placeholder is the
segment of the path at its position. The placeholders then take the segments they stand for,
in pattern order.
-/

set_option autoImplicit false

namespace SchemaRouting.Path

/-- Why a path does not match a pattern. -/
inductive Mismatch
  | emptyPattern
  | segmentCount (expected actual : Nat)
  | literal (position : Nat) (expected actual : String)
  deriving DecidableEq

def Mismatch.message : Mismatch → String
  | emptyPattern => "route pattern is empty"
  | segmentCount expected actual => s!"expected {expected} path segments, got {actual}"
  | literal position expected actual =>
    s!"segment {position} does not match: expected '{expected}', got '{actual}'"

structure Pattern where
  text : String
  deriving DecidableEq

def isPlaceholder (segment : String) : Bool := segment.toList.head? = some placeholderMarker

namespace Pattern

def segments (pattern : Pattern) : List String := Path.segments pattern.text

/-- The number of segments that are placeholders. -/
def placeholderCount (pattern : Pattern) : Nat := pattern.segments.countP isPlaceholder

/-- Goes through a pattern and a path side by side, from a position on. -/
def align (position : Nat) (params : Params) : List String → List String → Except Mismatch Params
  | token :: tokens, segment :: path =>
    if isPlaceholder token then align (position + 1) (params.push token segment) tokens path
    else if token = segment then align (position + 1) params tokens path
    else .error (.literal position token segment)
  | _, _ => .ok params

/-- The parameters of a path that matches, or why it does not. -/
def extract (pattern : Pattern) (path : String) : Except Mismatch Params :=
  if pattern.text = path then .ok .empty
  else if pattern.text.isEmpty then .error .emptyPattern
  else
    let expected := pattern.segments.length
    let actual := (Path.segments path).length
    if expected = actual then align 0 .empty pattern.segments (Path.segments path)
    else .error (.segmentCount expected actual)

def isMatch (pattern : Pattern) (path : String) : Bool :=
  match pattern.extract path with
  | .ok _ => true
  | .error _ => false

end Pattern

end SchemaRouting.Path
