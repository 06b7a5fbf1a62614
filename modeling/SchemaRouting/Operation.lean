import SchemaRouting.Http.Method

/-!
The kinds of operations a route can stand for, each with the request method it is served
under and the call it makes on a factory.
-/

set_option autoImplicit false

namespace SchemaRouting

/-- The calls that every factory knows. -/
inductive FactoryOperation
  | list | get | create | update | remove
  deriving DecidableEq

def FactoryOperation.name : FactoryOperation → String
  | list => "list"
  | get => "get"
  | create => "create"
  | update => "update"
  | remove => "remove"

inductive OperationKind
  | list | get | put | post | delete | patch
  deriving DecidableEq

namespace OperationKind

def all : List OperationKind := [list, get, put, post, delete, patch]

def name : OperationKind → String
  | list => "list"
  | get => "get"
  | put => "put"
  | post => "post"
  | delete => "delete"
  | patch => "patch"

def ofName? (s : String) : Option OperationKind := all.find? fun kind => kind.name = s

def method : OperationKind → Http.Method
  | list | get => .get
  | put => .put
  | post => .post
  | delete => .delete
  | patch => .patch

def factoryOperation : OperationKind → FactoryOperation
  | list => .list
  | get => .get
  | post => .create
  | put | patch => .update
  | delete => .remove

end OperationKind

end SchemaRouting
