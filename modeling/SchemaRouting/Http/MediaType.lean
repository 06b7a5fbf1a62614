import SchemaRouting.Text.Blank
import SchemaRouting.Text.Case

/-!
Media types: what a content type says before its first semicolon, without the white space
around it and with its ASCII letters in lower case.
-/

set_option autoImplicit false

namespace SchemaRouting.Http

def beforeSemicolon (s : String) : String := String.ofList (s.toList.takeWhile (· ≠ ';'))

def mediaType (contentType : String) : String :=
  Text.lower (Text.trim (beforeSemicolon contentType))

def jsonType : String := "application/json"

def formType : String := "application/x-www-form-urlencoded"

end SchemaRouting.Http
