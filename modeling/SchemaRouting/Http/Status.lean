/-!
Response status codes: the whole numbers from 100 to 999. A code of four hundred and some
says that the client is at fault.
-/

set_option autoImplicit false

namespace SchemaRouting.Http

structure Status where
  code : Nat
  deriving DecidableEq

namespace Status

def ofNat? (n : Nat) : Option Status := if 100 ≤ n && n ≤ 999 then some ⟨n⟩ else none

def ok : Status := ⟨200⟩
def created : Status := ⟨201⟩
def noContent : Status := ⟨204⟩
def notModified : Status := ⟨304⟩
def badRequest : Status := ⟨400⟩
def forbidden : Status := ⟨403⟩
def notFound : Status := ⟨404⟩
def internalServerError : Status := ⟨500⟩

def isClientError (status : Status) : Bool := 400 ≤ status.code && status.code < 500

end Status

end SchemaRouting.Http
