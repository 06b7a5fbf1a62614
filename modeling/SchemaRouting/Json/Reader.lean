import SchemaRouting.Json.Token

/-!
Trees from tokens. The reader keeps the arrays and objects that are open and what may come
next; each token moves it by one step. When the tokens end, or one comes that may not, all
that is open is closed as broken. What is well written but has no value is left out of the
tree: an object takes nothing more after a key that is no text, and arrays and objects inside
127 others take nothing at all.
-/

set_option autoImplicit false

namespace SchemaRouting.Json

/-- How many arrays and objects may be open at once. -/
def depthLimit : Nat := 127

/-- An array or object that is open, with what it holds so far in reverse, or one that takes
nothing more, with the tree it is going to be. -/
inductive Frame
  | items (read : List Tree)
  | members (read : List (String × Tree))
  | member (read : List (String × Tree)) (key : String)
  | full (isArray : Bool) (t : Tree)

namespace Frame

def isArray : Frame → Bool
  | items _ => true
  | members _ | member .. => false
  | full isArray _ => isArray

/-- Puts a finished value where a value was due. -/
def fill (t : Tree) : Frame → Frame
  | items read => items (t :: read)
  | members read => members read
  | member read key => members ((key, t) :: read)
  | full isArray tree => full isArray tree

/-- Puts a key where a key was due. -/
def name (key : Option String) : Frame → Frame
  | members read =>
    match key with
    | some key => member read key
    | none => full false (.object read.reverse .missing)
  | frame => frame

/-- The tree of a frame with the given ending. -/
def close (ending : Ending) : Frame → Tree
  | items read => .array read.reverse ending
  | members read => .object read.reverse ending
  | member read key => .object ((key, .broken) :: read).reverse .missing
  | full _ t => t

end Frame

/-- What may come next. -/
inductive Due
  | value
  | valueOrEnd
  | key
  | keyOrEnd
  | colon
  | commaOrEnd
  deriving DecidableEq

/-- The reader between two tokens: still open, with the innermost frame first, or done with a
tree. After the end of a tree nothing may follow. -/
inductive Reader
  | reading (frames : List Frame) (due : Due)
  | done (t : Tree) (clean : Bool)

namespace Reader

def start : Reader := reading [] .value

/-- A finished value is put into the innermost frame, or is the whole tree. -/
def finish (t : Tree) : List Frame → Reader
  | [] => done t true
  | frame :: frames => reading (frame.fill t :: frames) .commaOrEnd

/-- All that is open is closed as broken. -/
def abandon (due : Due) : List Frame → Tree
  | [] => .broken
  | frame :: frames =>
    let inner := match frame, due with
      | .items read, .value => Frame.close .missing (.items (.broken :: read))
      | frame, _ => frame.close .missing
    frames.foldl (fun t frame => (frame.fill t).close .missing) inner

/-- Opens an array or object, which takes nothing where too many are open already. -/
def openFrame (isArray : Bool) (frames : List Frame) : Reader :=
  let frame :=
    if (frames.drop (depthLimit - 1)).isEmpty then
      if isArray then Frame.items [] else .members []
    else .full isArray (if isArray then .array [] .tooDeep else .object [] .tooDeep)
  reading (frame :: frames) (if isArray then .valueOrEnd else .keyOrEnd)

/-- Closes the innermost frame. -/
def closeFrame (isArray : Bool) (due : Due) (frames : List Frame) : Reader :=
  match frames with
  | frame :: outer =>
    if frame.isArray = isArray then finish (frame.close .strict) outer
    else done (abandon due frames) false
  | [] => done (abandon due frames) false

def step : Reader → Token → Reader
  | done t _, _ => done t false
  | reading frames due, token =>
    match due, token, frames with
    | .value, .scalar t, _ | .valueOrEnd, .scalar t, _ => finish t frames
    | .value, .text s, _ | .valueOrEnd, .text s, _ =>
      finish ((s.map Tree.string).getD .broken) frames
    | .value, .openArray, _ | .valueOrEnd, .openArray, _ => openFrame true frames
    | .value, .openObject, _ | .valueOrEnd, .openObject, _ => openFrame false frames
    | .keyOrEnd, .text key, frame :: outer | .key, .text key, frame :: outer =>
      reading (frame.name key :: outer) .colon
    | .colon, .colon, _ => reading frames .value
    | .commaOrEnd, .comma, frame :: _ =>
      reading frames (if frame.isArray then .value else .key)
    | .valueOrEnd, .closeArray, _ | .commaOrEnd, .closeArray, _ => closeFrame true due frames
    | .keyOrEnd, .closeObject, _ | .commaOrEnd, .closeObject, _ => closeFrame false due frames
    | _, _, _ => done (abandon due frames) false

/-- The tree read so far, and whether the text ended with it. -/
def result : Reader → Tree × Bool
  | done t clean => (t, clean)
  | reading frames due => (abandon due frames, false)

end Reader

/-- The tree of a text, and whether the text is a whole JSON document. -/
def readTree (text : String) : Tree × Bool :=
  ((Token.all text.toList).foldl Reader.step Reader.start).result

/-- The value of a text, if it is a JSON document. -/
def parse (text : String) : Option Json :=
  match readTree text with
  | (t, true) => t.toJson?
  | (_, false) => none

end SchemaRouting.Json
