import SchemaRouting.Text.Case

/-!
Request methods and header fields. A method and the name of a field are tokens, the name one
of limited length; names are kept in lower case and values hold any character but controls
other than the tab. A value can be read as text if all of it is printable ASCII or tab.
-/

set_option autoImplicit false

namespace SchemaRouting.Http

/-- The characters of a token. -/
def isTokenChar (c : Char) : Bool :=
  ('a' ≤ c && c ≤ 'z') || ('A' ≤ c && c ≤ 'Z') || ('0' ≤ c && c ≤ '9') ||
    "!#$%&'*+-.^_|~\x60".toList.contains c

def isToken (s : String) : Bool := !s.isEmpty && s.toList.all isTokenChar

/-- A request method; methods differ if their letters differ in case. -/
structure Method where
  name : String
  deriving DecidableEq

namespace Method

def ofName? (s : String) : Option Method := if isToken s then some ⟨s⟩ else none

def get : Method := ⟨"GET"⟩
def post : Method := ⟨"POST"⟩
def put : Method := ⟨"PUT"⟩
def delete : Method := ⟨"DELETE"⟩
def patch : Method := ⟨"PATCH"⟩
def options : Method := ⟨"OPTIONS"⟩

end Method

def isFieldChar (c : Char) : Bool := c = '\t' || (0x20 ≤ c.toNat && c.toNat ≠ 0x7F)

/-- The most bytes that the name of a header field may have. -/
def longestFieldName : Nat := UInt16.size - 1

/-- Whether a text may be the name of a header field. -/
def isFieldName (s : String) : Bool := isToken s && s.utf8ByteSize ≤ longestFieldName

/-- Whether a text may be the value of a header field. -/
def isFieldValue (s : String) : Bool := s.toList.all isFieldChar

/-- Whether the value of a header field can be read as text. -/
def isReadable (s : String) : Bool :=
  s.toList.all fun c => c = '\t' || (0x20 ≤ c.toNat && c.toNat < 0x7F)

/-- Header fields in the order in which they were added, names in lower case. -/
structure Headers where
  fields : List (String × String)
  deriving DecidableEq

namespace Headers

def empty : Headers := ⟨[]⟩

/-- Adds a field after those of its name; a name or value that may not be one is passed over. -/
def append (h : Headers) (name value : String) : Headers :=
  if isFieldName name && isFieldValue value then ⟨h.fields ++ [(Text.lower name, value)]⟩ else h

/-- Sets a field in place of all of its name. -/
def insert (h : Headers) (name value : String) : Headers :=
  if isFieldName name && isFieldValue value then
    ⟨h.fields.filter (fun field => field.1 ≠ Text.lower name) ++ [(Text.lower name, value)]⟩
  else h

/-- The values of a name in their order. -/
def values (h : Headers) (name : String) : List String :=
  h.fields.filterMap fun field => if field.1 = Text.lower name then some field.2 else none

/-- The first value of a name, if it can be read as text. -/
def text? (h : Headers) (name : String) : Option String :=
  match h.values name with
  | value :: _ => if isReadable value then some value else none
  | [] => none

def contains (h : Headers) (name : String) : Bool := !(h.values name).isEmpty

end Headers

end SchemaRouting.Http
