import SchemaRouting.Text.Utf8

/-!
Request targets. A target is a path with an optional query and fragment, an authority alone,
or a scheme, an authority and then a path; only the path and the query are kept. A path that
is empty after a scheme is the root.
-/

set_option autoImplicit false

namespace SchemaRouting.Http

structure Target where
  path : String
  query : Option String
  deriving DecidableEq

namespace Target

def isAsciiLetterOrDigit (b : Nat) : Bool :=
  (0x30 ≤ b && b ≤ 0x39) || (0x41 ≤ b && b ≤ 0x5A) || (0x61 ≤ b && b ≤ 0x7A)

/-- The bytes that may stand in a path: braces, the double quote and all bytes beyond ASCII are
let through, and no control byte is. -/
def isPathByte (b : Nat) : Bool :=
  b = 0x21 || (0x24 ≤ b && b ≤ 0x3B) || b = 0x3D || (0x40 ≤ b && b ≤ 0x5F) ||
    (0x61 ≤ b && b ≤ 0x7A) || b = 0x7C || b = 0x7E || 0x80 ≤ b || b = 0x22 || b = 0x7B || b = 0x7D

def isQueryByte (b : Nat) : Bool :=
  b = 0x21 || (0x24 ≤ b && b ≤ 0x3B) || b = 0x3D || (0x3F ≤ b && b ≠ 0x7F)

/-- A path, with the query after the first question mark and without the fragment. -/
def ofPath? (bytes : List UInt8) : Option Target :=
  let path := bytes.takeWhile fun b => b ≠ 0x3F && b ≠ 0x23
  let rest := bytes.dropWhile fun b => b ≠ 0x3F && b ≠ 0x23
  let query := match rest with
    | 0x3F :: more => some (more.takeWhile (· ≠ 0x23))
    | _ => none
  if path.all (fun b => isPathByte b.toNat) &&
      (query.getD []).all (fun b => isQueryByte b.toNat) then
    some ⟨if path.isEmpty then "/" else Text.ofUtf8Lossy path, query.map Text.ofUtf8Lossy⟩
  else none

/-- What is known of an authority as far as it is read. -/
structure Authority where
  colons : Nat := 0
  opened : Bool := false
  closed : Bool := false
  percent : Bool := false
  /-- Whether the last byte was the sign that ends the user's name. -/
  afterUser : Bool := false

/-- The marks that an authority may hold besides letters and digits. -/
def authorityMarks : List UInt8 := "!$&'()*+,-.;=_~".toUTF8.toList

namespace Authority

def step (a : Authority) (b : UInt8) : Option Authority :=
  if b = 0x3A then
    if 8 ≤ a.colons then none else some { a with colons := a.colons + 1, afterUser := false }
  else if b = 0x5B then
    if a.percent || a.opened then none else some { a with opened := true, afterUser := false }
  else if b = 0x5D then
    if !a.opened || a.closed then none
    else some { a with closed := true, colons := 0, percent := false, afterUser := false }
  else if b = 0x40 then some { a with colons := 0, percent := false, afterUser := true }
  else if b = 0x25 then some { a with percent := true, afterUser := false }
  else if isAsciiLetterOrDigit b.toNat || authorityMarks.contains b then
    some { a with afterUser := false }
  else none

def isWhole (a : Authority) : Bool :=
  a.opened == a.closed && a.colons ≤ 1 && !a.afterUser && !a.percent

/-- Whether some bytes are an authority. -/
def isValid (bytes : List UInt8) : Bool := (bytes.foldlM step {}).any isWhole

end Authority

def isSchemeByte (b : UInt8) : Bool :=
  isAsciiLetterOrDigit b.toNat || b = 0x2B || b = 0x2D || b = 0x2E || b = 0x7E

/-- What follows a scheme and its two slashes: none if the scheme is too long, and the bytes
themselves if there is no scheme. -/
def afterScheme (bytes : List UInt8) : Option (Bool × List UInt8) :=
  let scheme := bytes.takeWhile isSchemeByte
  match bytes.dropWhile isSchemeByte with
  | 0x3A :: 0x2F :: 0x2F :: rest => if 64 < scheme.length then none else some (true, rest)
  | _ => some (false, bytes)

/-- A target as a request line writes it. -/
def ofText? (text : String) : Option Target :=
  let bytes := Text.utf8 text
  if bytes.length > 65534 then none
  else match bytes with
    | [] => none
    | [0x2A] => some ⟨"*", none⟩
    | 0x2F :: _ => ofPath? bytes
    | _ =>
      match afterScheme bytes with
      | none => none
      | some (hasScheme, rest) =>
        let ends (b : UInt8) : Bool := b = 0x2F || b = 0x3F || b = 0x23
        let authority := rest.takeWhile fun b => !ends b
        let path := rest.dropWhile fun b => !ends b
        if !Authority.isValid authority then none
        else if hasScheme then (if authority.isEmpty then none else ofPath? path)
        else if path.isEmpty then some ⟨"", none⟩
        else none

end Target

end SchemaRouting.Http
