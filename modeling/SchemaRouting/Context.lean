import SchemaRouting.Json.Token
import SchemaRouting.Json.Writer
import SchemaRouting.Text.Outline

/-!
What is kept beside a request while it is handled: its id, the factory that serves it, the
object that a handler answered with, and at most one extension of each kind.
-/

set_option autoImplicit false

namespace SchemaRouting

/-- The id of a request, a number of 128 bits. -/
structure RequestId where
  value : Nat
  deriving DecidableEq

namespace RequestId

private def ofHex? (digits : List Char) : Option RequestId :=
  (digits.foldlM (fun n c => (Json.Token.hexValue? c).map (n * 16 + ·)) 0).map RequestId.mk

/-- The digits of the five groups with hyphens between them. -/
private def ofGroups? (cs : List Char) : Option RequestId :=
  let hyphens := [8, 13, 18, 23]
  if cs.length = 36 && hyphens.all (fun i => cs[i]? = some '-') then
    ofHex? (cs.take 8 ++ (cs.drop 9).take 4 ++ (cs.drop 14).take 4 ++ (cs.drop 19).take 4 ++
      cs.drop 24)
  else none

/-- An id as plain digits, in groups, in groups within braces, or in groups as a name. The case
of its letters does not matter. -/
def ofText? (s : String) : Option RequestId :=
  let cs := s.toList
  let name := "urn:uuid:".toList
  if cs.length = 32 then ofHex? cs
  else if cs.length = 36 then ofGroups? cs
  else if cs.length = 38 && cs.head? = some '\x7b' && cs.getLast? = some '\x7d' then
    ofGroups? ((cs.drop 1).dropLast)
  else if cs.length = 45 && (cs.take 9).map Char.toLower = name then ofGroups? (cs.drop 9)
  else none

def text (id : RequestId) : String :=
  let digits := Nat.toDigits 16 id.value
  let padded := List.replicate (32 - digits.length) '0' ++ digits
  let groups := [padded.take 8, (padded.drop 8).take 4, (padded.drop 12).take 4,
    (padded.drop 16).take 4, padded.drop 20]
  String.intercalate "-" (groups.map String.ofList)

/-- The id of requests that were given none. -/
def zero : RequestId := ⟨0⟩

end RequestId

/-- Data that steps leave for later steps. -/
inductive Extension
  | text (s : String)
  | number (n : Int)
  | items (values : List Json)
  deriving DecidableEq

/-- The kinds of extensions. -/
inductive Extension.Kind
  | text | number | items
  deriving DecidableEq

def Extension.kind : Extension → Extension.Kind
  | text _ => .text
  | number _ => .number
  | items _ => .items

/-- What is kept beside a request, with factories of type `φ`. -/
structure Context (φ : Type) where
  requestId : RequestId
  factory : Option φ
  responseObject : Option Json
  extensions : List Extension

namespace Context

variable {φ : Type}

def new (id : RequestId) : Context φ := ⟨id, none, none, []⟩

/-- Leaves an extension in place of the one of its kind. -/
def setExtension (c : Context φ) (e : Extension) : Context φ :=
  { c with extensions := c.extensions.filter (·.kind ≠ e.kind) ++ [e] }

def extension? (c : Context φ) (kind : Extension.Kind) : Option Extension :=
  c.extensions.find? (·.kind = kind)

def dropExtension (c : Context φ) (kind : Extension.Kind) : Context φ :=
  { c with extensions := c.extensions.filter (·.kind ≠ kind) }

end Context

mutual

/-- A value as a description shows it. -/
def Json.outline : Json → Outline
  | .null => .word "Null"
  | .bool b => .call "Bool" [.bool b]
  | .number n => .call "Number" [.word n.text]
  | .string s => .call "String" [.quoted s]
  | .array items => .word ("Array " ++ (Outline.list (Json.outlines items)).text)
  | .object members => .word ("Object " ++ (Outline.map (Json.memberOutlines members)).text)

def Json.outlines : List Json → List Outline
  | [] => []
  | x :: xs => Json.outline x :: Json.outlines xs

def Json.memberOutlines : List (String × Json) → List (Outline × Outline)
  | [] => []
  | (key, x) :: xs => (.quoted key, Json.outline x) :: Json.memberOutlines xs

end

def Context.outline {φ : Type} (c : Context φ) : Outline :=
  .record "RequestContext" [("request_id", .call "RequestId" [.word c.requestId.text]),
    ("has_factory", .bool c.factory.isSome),
    ("response_object", .option Json.outline c.responseObject),
    ("extension_count", .nat c.extensions.length)] true

end SchemaRouting
