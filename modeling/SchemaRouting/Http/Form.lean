import SchemaRouting.Text.Utf8
import SchemaRouting.Json.Basic

/-!
Pairs of keys and values as queries and form bodies write them: pairs between ampersands, a
key and its value around the first equals sign, a plus for a space, and any byte by its two
hexadecimal digits. Empty pairs are passed over, and no input is refused. A key that occurs
more than once has the list of its values in order.
-/

set_option autoImplicit false

namespace SchemaRouting.Http

/-- The parts of some bytes between a separator. -/
def splitBytes (sep : UInt8) : List UInt8 → List (List UInt8)
  | [] => [[]]
  | b :: rest =>
    if b = sep then [] :: splitBytes sep rest
    else match splitBytes sep rest with
      | [] => [[b]]
      | part :: parts => (b :: part) :: parts

def hexByte? (b : UInt8) : Option UInt8 :=
  if 0x30 ≤ b && b ≤ 0x39 then some (b - 0x30)
  else if 0x41 ≤ b && b ≤ 0x46 then some (b - 0x37)
  else if 0x61 ≤ b && b ≤ 0x66 then some (b - 0x57)
  else none

/-- The bytes that a key or value stands for; a percent sign that two hexadecimal digits do
not follow stands for itself. -/
def unescape : List UInt8 → List UInt8
  | 0x25 :: a :: b :: rest =>
    match hexByte? a, hexByte? b with
    | some high, some low => (high * 16 + low) :: unescape rest
    | _, _ => 0x25 :: unescape (a :: b :: rest)
  | 0x2B :: rest => 0x20 :: unescape rest
  | b :: rest => b :: unescape rest
  | [] => []

def decodeText (bytes : List UInt8) : String := Text.ofUtf8Lossy (unescape bytes)

/-- One pair; without an equals sign the value is empty. -/
def decodePair (bytes : List UInt8) : String × String :=
  (decodeText (bytes.takeWhile (· ≠ 0x3D)), decodeText ((bytes.dropWhile (· ≠ 0x3D)).drop 1))

def pairs (bytes : List UInt8) : List (String × String) :=
  ((splitBytes 0x26 bytes).filter fun part => !part.isEmpty).map decodePair

/-- Adds a value to those of its key: alone as a text, with others as a list. -/
def addPair (members : List (String × Json)) (pair : String × String) : List (String × Json) :=
  let (key, value) := pair
  match Keyed.find? key members with
  | some (.array values) => Keyed.insert key (.array (values ++ [.string value])) members
  | some first => Keyed.insert key (.array [first, .string value]) members
  | none => Keyed.insert key (.string value) members

/-- The members that pairs make, sorted by key. -/
def collect (pairs : List (String × String)) : List (String × Json) := pairs.foldl addPair []

/-- The members that the bytes of a query or a form body stand for. -/
def decodeForm (bytes : List UInt8) : List (String × Json) := collect (pairs bytes)

end SchemaRouting.Http
