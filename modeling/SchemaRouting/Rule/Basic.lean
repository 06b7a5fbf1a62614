import SchemaRouting.Json.Basic

/-!
Rules for JSON values. A rule has a kind with the settings of that kind, and says besides
whether a value must be there, what stands in for one that is not, and what it is for. Rules
are built from one constructor a kind and from modifiers; a modifier that the kind of a rule
has no setting for leaves the rule as it is.
-/

set_option autoImplicit false

namespace SchemaRouting

/-- The settings of a rule for strings. -/
structure Rule.Text where
  trim : Bool
  minLength : Option Nat
  maxLength : Option Nat
  allowed : List String
  deriving DecidableEq

/-- The kinds of rules, with the rules inside them of type `ρ`. -/
inductive Rule.Kind (ρ : Type)
  | string (settings : Rule.Text)
  | integer (minimum maximum : Option Int)
  | number (minimum maximum : Option Float)
  | boolean
  | array (items : Option ρ) (minItems maxItems : Option Nat)
  | object (properties : List (String × ρ)) (allowUnknown : Bool)
  | any

structure Rule where
  kind : Rule.Kind Rule
  required : Bool
  default : Option Json
  description : Option String

namespace Rule

def ofKind (kind : Kind Rule) : Rule := ⟨kind, false, none, none⟩

def string : Rule := ofKind (.string ⟨false, none, none, []⟩)
def integer : Rule := ofKind (.integer none none)
def number : Rule := ofKind (.number none none)
def boolean : Rule := ofKind .boolean
def array : Rule := ofKind (.array none none none)
def arrayOf (items : Rule) : Rule := ofKind (.array (some items) none none)

/-- A rule for objects; of two properties of one name the later counts, in the place of the
earlier. -/
def object (properties : List (String × Rule)) : Rule :=
  ofKind (.object (Keyed.ofList properties) false)

def any : Rule := ofKind .any

def asRequired (r : Rule) : Rule := { r with required := true }
def withDefault (r : Rule) (v : Json) : Rule := { r with default := some v }
def describe (r : Rule) (s : String) : Rule := { r with description := some s }

private def onText (change : Text → Text) (r : Rule) : Rule :=
  match r.kind with
  | .string settings => { r with kind := .string (change settings) }
  | _ => r

def trimmed (r : Rule) : Rule := r.onText fun t => { t with trim := true }
def withMinLength (r : Rule) (n : Nat) : Rule := r.onText fun t => { t with minLength := some n }
def withMaxLength (r : Rule) (n : Nat) : Rule := r.onText fun t => { t with maxLength := some n }
def oneOf (r : Rule) (texts : List String) : Rule := r.onText fun t => { t with allowed := texts }

def inRange (r : Rule) (minimum maximum : Option Int) : Rule :=
  match r.kind with
  | .integer _ _ => { r with kind := .integer minimum maximum }
  | _ => r

def itemsBetween (r : Rule) (minItems maxItems : Option Nat) : Rule :=
  match r.kind with
  | .array items _ _ => { r with kind := .array items minItems maxItems }
  | _ => r

def allowingUnknown (r : Rule) : Rule :=
  match r.kind with
  | .object properties _ => { r with kind := .object properties true }
  | _ => r

mutual

def decEq : (a b : Rule) → Decidable (a = b)
  | ⟨.string s, q, d, t⟩, ⟨.string s', q', d', t'⟩ =>
    decidable_of_iff (s = s' ∧ q = q' ∧ d = d' ∧ t = t') (by simp)
  | ⟨.integer l h, q, d, t⟩, ⟨.integer l' h', q', d', t'⟩ =>
    decidable_of_iff ((l = l' ∧ h = h') ∧ q = q' ∧ d = d' ∧ t = t') (by simp)
  | ⟨.number l h, q, d, t⟩, ⟨.number l' h', q', d', t'⟩ =>
    decidable_of_iff ((l = l' ∧ h = h') ∧ q = q' ∧ d = d' ∧ t = t') (by simp)
  | ⟨.boolean, q, d, t⟩, ⟨.boolean, q', d', t'⟩ =>
    decidable_of_iff (q = q' ∧ d = d' ∧ t = t') (by simp)
  | ⟨.any, q, d, t⟩, ⟨.any, q', d', t'⟩ =>
    decidable_of_iff (q = q' ∧ d = d' ∧ t = t') (by simp)
  | ⟨.array none l h, q, d, t⟩, ⟨.array none l' h', q', d', t'⟩ =>
    decidable_of_iff ((l = l' ∧ h = h') ∧ q = q' ∧ d = d' ∧ t = t') (by simp)
  | ⟨.array (some r) l h, q, d, t⟩, ⟨.array (some r') l' h', q', d', t'⟩ =>
    have := decEq r r'
    decidable_of_iff ((r = r' ∧ l = l' ∧ h = h') ∧ q = q' ∧ d = d' ∧ t = t') (by simp)
  | ⟨.object p u, q, d, t⟩, ⟨.object p' u', q', d', t'⟩ =>
    have := decEqProperties p p'
    decidable_of_iff ((p = p' ∧ u = u') ∧ q = q' ∧ d = d' ∧ t = t') (by simp)
  | ⟨.array none _ _, _, _, _⟩, ⟨.array (some _) _ _, _, _, _⟩ => isFalse (by simp)
  | ⟨.array (some _) _ _, _, _, _⟩, ⟨.array none _ _, _, _, _⟩ => isFalse (by simp)
  | ⟨.string _, _, _, _⟩, ⟨.integer .., _, _, _⟩ | ⟨.string _, _, _, _⟩, ⟨.number .., _, _, _⟩
  | ⟨.string _, _, _, _⟩, ⟨.boolean, _, _, _⟩ | ⟨.string _, _, _, _⟩, ⟨.array .., _, _, _⟩
  | ⟨.string _, _, _, _⟩, ⟨.object .., _, _, _⟩ | ⟨.string _, _, _, _⟩, ⟨.any, _, _, _⟩
  | ⟨.integer .., _, _, _⟩, ⟨.string _, _, _, _⟩ | ⟨.integer .., _, _, _⟩, ⟨.number .., _, _, _⟩
  | ⟨.integer .., _, _, _⟩, ⟨.boolean, _, _, _⟩ | ⟨.integer .., _, _, _⟩, ⟨.array .., _, _, _⟩
  | ⟨.integer .., _, _, _⟩, ⟨.object .., _, _, _⟩ | ⟨.integer .., _, _, _⟩, ⟨.any, _, _, _⟩
  | ⟨.number .., _, _, _⟩, ⟨.string _, _, _, _⟩ | ⟨.number .., _, _, _⟩, ⟨.integer .., _, _, _⟩
  | ⟨.number .., _, _, _⟩, ⟨.boolean, _, _, _⟩ | ⟨.number .., _, _, _⟩, ⟨.array .., _, _, _⟩
  | ⟨.number .., _, _, _⟩, ⟨.object .., _, _, _⟩ | ⟨.number .., _, _, _⟩, ⟨.any, _, _, _⟩
  | ⟨.boolean, _, _, _⟩, ⟨.string _, _, _, _⟩ | ⟨.boolean, _, _, _⟩, ⟨.integer .., _, _, _⟩
  | ⟨.boolean, _, _, _⟩, ⟨.number .., _, _, _⟩ | ⟨.boolean, _, _, _⟩, ⟨.array .., _, _, _⟩
  | ⟨.boolean, _, _, _⟩, ⟨.object .., _, _, _⟩ | ⟨.boolean, _, _, _⟩, ⟨.any, _, _, _⟩
  | ⟨.array .., _, _, _⟩, ⟨.string _, _, _, _⟩ | ⟨.array .., _, _, _⟩, ⟨.integer .., _, _, _⟩
  | ⟨.array .., _, _, _⟩, ⟨.number .., _, _, _⟩ | ⟨.array .., _, _, _⟩, ⟨.boolean, _, _, _⟩
  | ⟨.array .., _, _, _⟩, ⟨.object .., _, _, _⟩ | ⟨.array .., _, _, _⟩, ⟨.any, _, _, _⟩
  | ⟨.object .., _, _, _⟩, ⟨.string _, _, _, _⟩ | ⟨.object .., _, _, _⟩, ⟨.integer .., _, _, _⟩
  | ⟨.object .., _, _, _⟩, ⟨.number .., _, _, _⟩ | ⟨.object .., _, _, _⟩, ⟨.boolean, _, _, _⟩
  | ⟨.object .., _, _, _⟩, ⟨.array .., _, _, _⟩ | ⟨.object .., _, _, _⟩, ⟨.any, _, _, _⟩
  | ⟨.any, _, _, _⟩, ⟨.string _, _, _, _⟩ | ⟨.any, _, _, _⟩, ⟨.integer .., _, _, _⟩
  | ⟨.any, _, _, _⟩, ⟨.number .., _, _, _⟩ | ⟨.any, _, _, _⟩, ⟨.boolean, _, _, _⟩
  | ⟨.any, _, _, _⟩, ⟨.array .., _, _, _⟩ | ⟨.any, _, _, _⟩, ⟨.object .., _, _, _⟩ =>
    isFalse (by simp)

def decEqProperties : (a b : List (String × Rule)) → Decidable (a = b)
  | [], [] => isTrue rfl
  | (j, x) :: xs, (k, y) :: ys =>
    have := decEq x y
    have := decEqProperties xs ys
    decidable_of_iff ((j = k ∧ x = y) ∧ xs = ys) (by simp)
  | [], _ :: _ => isFalse (by simp)
  | _ :: _, [] => isFalse (by simp)

end

instance : DecidableEq Rule := decEq

/-- The name of the kind in documents. -/
def Kind.name {ρ : Type} : Kind ρ → String
  | .string _ => "string"
  | .integer .. => "integer"
  | .number .. => "number"
  | .boolean => "boolean"
  | .array .. => "array"
  | .object .. => "object"
  | .any => "any"

end Rule

end SchemaRouting
