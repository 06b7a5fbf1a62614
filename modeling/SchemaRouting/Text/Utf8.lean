/-!
UTF-8 in both directions. Decoding goes through the bytes as a small machine that holds the
bits of an unfinished character; where bytes do not form a character, one replacement
character stands for the longest run that could still have started one.
-/

set_option autoImplicit false

namespace SchemaRouting.Text

/-- The bytes of a text. -/
def utf8 (s : String) : List UInt8 := s.toUTF8.toList

/-- The character that stands for bytes that form none. -/
def replacement : Char := '\uFFFD'

/-- Between two bytes: either nothing is pending, or a character needs more bytes, the next of
which must lie in a range. -/
inductive Pending
  | none
  | more (bits : Nat) (left : Nat) (low high : Nat)

namespace Pending

/-- The start of a character. -/
def start (b : Nat) : Pending × List Char :=
  if b < 0x80 then (none, [Char.ofNat b])
  else if 0xC2 ≤ b && b ≤ 0xDF then (more (b % 0x20) 1 0x80 0xBF, [])
  else if b = 0xE0 then (more 0 2 0xA0 0xBF, [])
  else if b = 0xED then (more 0xD 2 0x80 0x9F, [])
  else if 0xE1 ≤ b && b ≤ 0xEF then (more (b % 0x10) 2 0x80 0xBF, [])
  else if b = 0xF0 then (more 0 3 0x90 0xBF, [])
  else if 0xF1 ≤ b && b ≤ 0xF3 then (more (b % 8) 3 0x80 0xBF, [])
  else if b = 0xF4 then (more 4 3 0x80 0x8F, [])
  else (none, [replacement])

/-- One more byte, and the characters that it completes. -/
def step (p : Pending) (b : Nat) : Pending × List Char :=
  match p with
  | none => start b
  | more bits left low high =>
    if low ≤ b && b ≤ high then
      let bits := bits * 0x40 + b % 0x40
      if left ≤ 1 then (none, [Char.ofNat bits]) else (more bits (left - 1) 0x80 0xBF, [])
    else
      let (p, cs) := start b
      (p, replacement :: cs)

end Pending

def decodeFrom (p : Pending) : List UInt8 → List Char
  | [] =>
    match p with
    | .none => []
    | .more .. => [replacement]
  | b :: rest =>
    let (p, cs) := p.step b.toNat
    cs ++ decodeFrom p rest

/-- The text of some bytes, with replacement characters where they form none. -/
def ofUtf8Lossy (bytes : List UInt8) : String := String.ofList (decodeFrom .none bytes)

/-- The text of some bytes that are its encoding. -/
def ofUtf8? (bytes : List UInt8) : Option String :=
  let s := ofUtf8Lossy bytes
  if utf8 s = bytes then some s else none

end SchemaRouting.Text
