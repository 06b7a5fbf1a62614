import SchemaRouting.Rule.Reading

/-!
The document of a rule: its kind, the settings of the kind that are set, whether it is
required, and its default and description if it has them. The bounds of a number rule are
written as binary64 numbers.
-/

set_option autoImplicit false

namespace SchemaRouting.Rule

/-- The member of a setting, if it is set. -/
def setting {α : Type} (s : Setting) (write : α → Tree) (value : Option α) :
    List (String × Tree) :=
  (value.map fun a => (s.name, write a)).toList

def count (n : Nat) : Tree := .number (.int n)

def whole (n : Int) : Tree := .number (.int n)

def binary (x : Float) : Tree := .number (.float x)

def texts (list : List String) : Tree := .array (list.map .string) .strict

mutual

def toTree : Rule → Tree
  | ⟨kind, required, default, description⟩ =>
    let ofKind := match kind with
      | .string ⟨trim, minLength, maxLength, allowed⟩ =>
        [(Setting.trim.name, Tree.bool trim)] ++ setting .minLength count minLength ++
          setting .maxLength count maxLength ++
          setting .allowed texts (if allowed.isEmpty then none else some allowed)
      | .integer minimum maximum =>
        setting .minimum whole minimum ++ setting .maximum whole maximum
      | .number minimum maximum =>
        setting .minimum binary minimum ++ setting .maximum binary maximum
      | .array none minItems maxItems =>
        setting .minItems count minItems ++ setting .maxItems count maxItems
      | .array (some rule) minItems maxItems =>
        [(Setting.items.name, toTree rule)] ++ setting .minItems count minItems ++
          setting .maxItems count maxItems
      | .object properties allowUnknown =>
        [(Setting.properties.name, .object (propertiesToTree properties) .strict),
          (Setting.allowUnknown.name, .bool allowUnknown)]
      | .boolean | .any => []
    .object ([(Setting.type.name, .string kind.name)] ++ ofKind ++
      [(Setting.required.name, .bool required)] ++ setting .default Tree.ofJson default ++
      setting .description .string description) .strict

def propertiesToTree : List (String × Rule) → List (String × Tree)
  | [] => []
  | (name, rule) :: rest => (name, toTree rule) :: propertiesToTree rest

end

/-- The document as a value. -/
def toJson (r : Rule) : Json := r.toTree.toJson?.getD .null

/-- The document as compact text, in the order of declaration. -/
def text (r : Rule) : String := Json.writeTree r.toTree

end SchemaRouting.Rule
