import SchemaRouting.Factory.Registry

/-!
What routes are served with: the factories, a source that knows more of a principal, and
services of the application that are found by their kind.
-/

set_option autoImplicit false

namespace SchemaRouting

/-- Looks a principal up. -/
abbrev PrincipalSource (σ : Type) := Principal → Action σ Principal

/-- A service of the application. -/
inductive Service
  | number (n : Nat)
  | switch (b : Bool)
  deriving DecidableEq

/-- The kinds of services. -/
inductive Service.Kind
  | number | switch
  deriving DecidableEq

def Service.kind : Service → Service.Kind
  | number _ => .number
  | switch _ => .switch

/-- The name of the type that a service has. -/
def Service.Kind.typeName : Service.Kind → String
  | number => "u32"
  | switch => "bool"

structure Services (σ : Type) where
  factories : FactoryRegistry σ (Factory σ)
  principals : Option (PrincipalSource σ)
  extras : List Service

namespace Services

variable {σ : Type}

/-- Factories without names, each id with a base factory. -/
def baseRegistry : FactoryRegistry σ (Factory σ) := .new fun _ _ app => (.made .base, app)

def new (factories : FactoryRegistry σ (Factory σ)) : Services σ := ⟨factories, none, []⟩

def withPrincipalSource (s : Services σ) (source : PrincipalSource σ) : Services σ :=
  { s with principals := some source }

/-- Sets the service of its kind. -/
def withService (s : Services σ) (service : Service) : Services σ :=
  { s with extras := s.extras.filter (·.kind ≠ service.kind) ++ [service] }

def resolve? (s : Services σ) (kind : Service.Kind) : Option Service :=
  s.extras.find? (·.kind = kind)

/-- The message where a service that is needed is not there. -/
def missingMessage (kind : Service.Kind) : String :=
  "failed to resolve " ++ kind.typeName ++ ": service not registered"

def require (s : Services σ) (kind : Service.Kind) : Except String Service :=
  match s.resolve? kind with
  | some service => .ok service
  | none => .error (missingMessage kind)

def outline (s : Services σ) (defaults : List (String × Factory σ)) : Outline :=
  .record "Services" [("factories", s.factories.outline defaults),
    ("has_principal_source", .bool s.principals.isSome),
    ("service_count", .nat s.extras.length)] false

end Services

end SchemaRouting
