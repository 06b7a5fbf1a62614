import SchemaRouting.Schema.Definition
import SchemaRouting.Schema.Format

/-!
The shape of a schema: which texts its settings may hold. Ids are identifiers, paths are
relative references, handlers and factories have dotted names, and a method is one of a list.
The whole schema is checked, every route of it in order, and the first fault is reported with
the place where it is.
-/

set_option autoImplicit false

namespace SchemaRouting

namespace Schema.Shape

def isLetter (c : Char) : Bool := ('a' ≤ c && c ≤ 'z') || ('A' ≤ c && c ≤ 'Z')

def isDigit (c : Char) : Bool := '0' ≤ c && c ≤ '9'

/-- Whether a text starts with a character of one class and goes on with those of another. -/
def isWord (first next : Char → Bool) : List Char → Bool
  | [] => false
  | c :: cs => first c && cs.all next

def longestIdentifier : Nat := 64

def isIdentifier (s : String) : Bool :=
  s.utf8ByteSize ≤ longestIdentifier &&
    isWord (fun c => isLetter c || c == '_') (fun c => isLetter c || isDigit c || c == '_') s.toList

/-- The first character of a segment of a handler's name. -/
def startsSegment (c : Char) : Bool := isLetter c || c == '_' || c == '$'

def continuesSegment (c : Char) : Bool := startsSegment c || isDigit c || c == '-'

def isHandlerName (s : String) : Bool :=
  (Text.splitChars '.' s.toList).all (isWord startsSegment continuesSegment)

/-- The first character of a method's name. -/
def startsMethod (c : Char) : Bool :=
  isLetter c || c == '_' || c == '$' || (0xA0 ≤ c.toNat && c.toNat ≤ 0xFFFF)

/-- Whether a text may name a method of a factory. -/
def isMethodName (s : String) : Bool :=
  isWord startsMethod (fun c => startsMethod c || isDigit c) s.toList

/-- Whether a text starts with a scheme and a colon. -/
def hasScheme (s : String) : Bool :=
  match s.toList with
  | [] => false
  | c :: cs =>
    isLetter c && (cs.dropWhile fun d => isLetter d || isDigit d || d == '+' || d == '.' ||
      d == '-').head? == some ':'

/-- Whether a path has neither scheme nor authority, query, fragment or white space. -/
def isRelativePath (s : String) : Bool :=
  s.toList.take 2 != ['/', '/'] && !hasScheme s &&
    !s.toList.any fun c => Text.isBlank c || c == '?' || c == '#'

/-- The methods that a route may name. -/
def routeMethods : List String := ["get", "list", "delete", "put", "post", "option", "head"]

abbrev Check := Except CompileError Unit

def require (holds : Bool) (field reason : String) : Check :=
  if holds then .ok () else .error (.invalidSchema field reason)

def checkIdentifier (field value : String) : Check :=
  require (isIdentifier value) field ("'" ++ value ++ "' is not a valid identifier")

def checkPath (field value : String) : Check :=
  require (isRelativePath value) field ("'" ++ value ++ "' is not a relative path")

/-- A handler's name may have white space around it. -/
def checkHandlerName (field value : String) : Check :=
  require (isHandlerName (Text.trim value)) field ("'" ++ value ++ "' is not a handler name")

def checkMethod (field value : String) : Check :=
  require (routeMethods.contains value) field
    ("must be one of " ++ String.intercalate ", " routeMethods)

def checkMethodName (field value : String) : Check :=
  require (isMethodName value) field "must be a method name"

def checkOptional (check : String → Check) : Option String → Check
  | none => .ok ()
  | some s => check s

variable {σ : Type}

/-- The named middlewares of a list, from an index on. -/
def checkMiddlewares (field : String) : Nat → List (Middleware σ) → Check
  | _, [] => .ok ()
  | index, .step _ :: rest => checkMiddlewares field (index + 1) rest
  | index, .named name :: rest => do
    checkHandlerName s!"{field}[{index}]" name
    checkMiddlewares field (index + 1) rest

def checkRoute (field : String) (r : RouteDefinition σ) : Check := do
  checkOptional (checkIdentifier (field ++ ".id")) r.id
  checkOptional (checkMethod (field ++ ".method")) r.method
  checkOptional (checkPath (field ++ ".path")) r.path
  checkOptional (checkHandlerName (field ++ ".postValidation")) r.postValidation
  checkOptional (checkHandlerName (field ++ ".loadFactory")) r.loadFactory
  checkOptional (checkHandlerName (field ++ ".handler")) r.handler
  checkOptional (checkHandlerName (field ++ ".postHandler")) r.postHandler
  checkOptional (checkHandlerName (field ++ ".useFactory")) r.useFactory
  checkOptional (checkMethodName (field ++ ".useFactoryMethod")) r.useFactoryMethod
  checkMiddlewares (field ++ ".middlewares") 0 r.middlewares

def checkEntry (field : String) : EntryDefinition σ → Check
  | .route r => checkRoute field r
  | .path s => checkPath field s
  | .empty => .ok ()

def checkRoutes : List (String × EntryDefinition σ) → Check
  | [] => .ok ()
  | (id, entry) :: rest => do
    checkIdentifier ("routes." ++ id) id
    checkEntry ("routes." ++ id) entry
    checkRoutes rest

/-- Checks a whole schema. -/
def check (d : Definition σ) : Check := do
  checkOptional (checkIdentifier "id") d.id
  checkOptional (checkPath "path") d.path
  checkOptional (checkHandlerName "useFactory") d.useFactory
  checkOptional (checkHandlerName "loadFactory") d.loadFactory
  checkMiddlewares "middlewares" 0 d.middlewares
  checkRoutes d.routes

end Schema.Shape

end SchemaRouting
