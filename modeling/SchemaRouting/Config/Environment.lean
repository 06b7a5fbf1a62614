import SchemaRouting.Keyed
import SchemaRouting.Text.Utf8

/-!
The environment of a process. Names and values of variables are bytes. A variable is read by its
name only if its name and its value are texts; one that is not so can be set again.
-/

set_option autoImplicit false

namespace SchemaRouting.Config

/-- A variable. Its name and its value are texts, or one of them is none. -/
inductive Variable
  | text (name value : String)
  | other (name value : List UInt8)
    (noText : Text.ofUtf8? name = none ∨ Text.ofUtf8? value = none)

namespace Variable

def name? : Variable → Option String
  | text name _ => some name
  | other name _ _ => Text.ofUtf8? name

/-- The name and the value, if both are texts. -/
def entry? : Variable → Option (String × String)
  | text name value => some (name, value)
  | other .. => none

def isText (v : Variable) : Bool := v.entry?.isSome

end Variable

/-- The variables that are set, in the order in which they are enumerated. -/
abbrev Environment := List Variable

namespace Environment

/-- The variables with texts. -/
def texts (env : Environment) : List (String × String) := env.filterMap Variable.entry?

/-- Whether all variables have texts, without which it is a panic to go through them. -/
def allTexts (env : Environment) : Bool := env.all Variable.isText

/-- The value that is read of a variable. -/
def valueOf? (env : Environment) (name : String) : Option String := Keyed.find? name env.texts

/-- Sets a variable that no value is read of. -/
def assign (env : Environment) (name value : String) : Environment :=
  env.filter (fun v => v.name? ≠ some name) ++ [.text name value]

end Environment

end SchemaRouting.Config
