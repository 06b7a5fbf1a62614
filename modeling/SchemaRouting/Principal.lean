import SchemaRouting.Json.Decode

/-!
Who a request comes from. A principal has four known attributes and any others under their
own keys; a session says for whom it was opened and whether the user is logged in.
-/

set_option autoImplicit false

namespace SchemaRouting

structure Principal where
  id : Option String
  firstName : Option String
  lastName : Option String
  email : Option String
  /-- Further attributes, sorted by key. -/
  extra : List (String × Json)
  deriving DecidableEq

structure Session where
  uid : Option String
  loggedIn : Bool
  firstName : Option String
  lastName : Option String
  email : Option String
  deriving DecidableEq

namespace Principal

def empty : Principal := ⟨none, none, none, none, []⟩

def withId (id : String) : Principal := { empty with id := some id }

/-- The principal of the names and the address of a session. -/
def ofSession (s : Session) : Principal :=
  ⟨none, s.firstName, s.lastName, s.email, []⟩

private def attributeEntry (key : String) (value : Option String) : List (String × Json) :=
  (value.map fun s => (key, Json.string s)).toList

/-- The known attributes that are set, and all others. -/
def toJson (p : Principal) : Json :=
  .ofMembers (attributeEntry "id" p.id ++ attributeEntry "firstName" p.firstName ++
    attributeEntry "lastName" p.lastName ++ attributeEntry "email" p.email ++ p.extra)

/-- Takes one member into a principal and the known keys seen so far. -/
def readMember (draft : List String × Principal) (key : String) (t : Tree) :
    Except ReadError (List String × Principal) := do
  let (seen, p) := draft
  if seen.contains key then throw (.duplicateField key)
  let value := t.readOptional Tree.readString
  match key with
  | "id" => return (key :: seen, { p with id := ← value })
  | "firstName" => return (key :: seen, { p with firstName := ← value })
  | "lastName" => return (key :: seen, { p with lastName := ← value })
  | "email" => return (key :: seen, { p with email := ← value })
  | _ => return (seen, { p with extra := Keyed.insert key (← t.readJson) p.extra })

def read : Tree.Read Principal
  | .object members ending => do
    let (_, p) ← members.foldlM (fun draft (key, t) => readMember draft key t) ([], empty)
    if ending.isRead then return p else throw .malformed
  | .broken => .error .malformed
  | _ => .error .invalidType

end Principal

namespace Session

def anonymous : Session := ⟨none, false, none, none, none⟩

/-- A logged-in session of a user. -/
def forUid (uid : String) : Session := { anonymous with uid := some uid, loggedIn := true }

private def orNull (value : Option String) : Json :=
  match value with
  | some s => .string s
  | none => .null

def toJson (s : Session) : Json :=
  .ofMembers [("uid", orNull s.uid), ("loggedIn", .bool s.loggedIn),
    ("firstName", orNull s.firstName), ("lastName", orNull s.lastName),
    ("email", orNull s.email)]

def readMember (draft : List String × Session) (key : String) (t : Tree) :
    Except ReadError (List String × Session) := do
  let (seen, s) := draft
  if seen.contains key then throw (.duplicateField key)
  let value := t.readOptional Tree.readString
  match key with
  | "uid" => return (key :: seen, { s with uid := ← value })
  | "loggedIn" => return (key :: seen, { s with loggedIn := ← t.readBool })
  | "firstName" => return (key :: seen, { s with firstName := ← value })
  | "lastName" => return (key :: seen, { s with lastName := ← value })
  | "email" => return (key :: seen, { s with email := ← value })
  | _ => return (seen, s)

/-- A session from its document; keys that it does not know are passed over, and what stands
under them is not looked at. -/
def read : Tree.Read Session := fun t =>
  (t.readRecord ([], anonymous) readMember
    ["uid", "loggedIn", "firstName", "lastName", "email"]).map Prod.snd

end Session

end SchemaRouting
