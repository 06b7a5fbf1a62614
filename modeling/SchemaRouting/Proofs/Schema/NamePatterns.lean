import Mathlib.Computability.Language
import SchemaRouting.Proofs.Text.Joining
import SchemaRouting.Schema.Shape

/-!
# The patterns of identifiers and names

Identifiers, the names of handlers and the names of methods are the texts that whole patterns match.
A pattern has a text, which is how it is written as a regular expression, and a language. The texts
that pass each of the three checks are the language of its pattern (`isIdentifier_iff_mem`,
`isHandlerName_iff_mem`, `isMethodName_iff_mem`).
-/

set_option autoImplicit false
set_option relaxedAutoImplicit false

namespace SchemaRouting.Schema.Shape

open scoped Computability

/-- A pattern of texts. -/
inductive Pattern
  /-- A character of one of some ranges, the ends of which belong to them. -/
  | oneOf (ranges : List (Char × Char))
  | point
  | many (inner : Pattern)
  | followed (first second : Pattern)

namespace Pattern

variable {ranges first next : List (Char × Char)} {c d : Char} {cs : List Char}

/-- The texts that match from the first character to the last one. -/
def language : Pattern → Language Char
  | oneOf ranges => {cs | ∃ c, cs = [c] ∧ ∃ r ∈ ranges, r.1 ≤ c ∧ c ≤ r.2}
  | point => {['.']}
  | many inner => inner.language∗
  | followed first second => first.language * second.language

/-! ### How patterns are written -/

/-- A character, by its number if it is not one of ASCII. -/
def writtenChar (c : Char) : String :=
  if c.toNat < 0x80 then c.toString
  else "\\x\x7b" ++ String.ofList ((Nat.toDigits 16 c.toNat).map Char.toUpper) ++ "\x7d"

def writtenRange (r : Char × Char) : String :=
  if r.1 = r.2 then writtenChar r.1 else writtenChar r.1 ++ "-" ++ writtenChar r.2

/-- A pattern as a regular expression; only a set may be repeated without round brackets. -/
def written : Pattern → String
  | oneOf ranges => "[" ++ String.join (ranges.map writtenRange) ++ "]"
  | point => "\\."
  | many (oneOf ranges) => written (oneOf ranges) ++ "*"
  | many inner => "(" ++ written inner ++ ")*"
  | followed first second => written first ++ written second

/-- The regular expression that holds a whole text to a pattern. -/
def whole (p : Pattern) : String := "^" ++ p.written ++ "$"

/-! ### Words -/

/-- A character of one set, and after it any number of characters of another. -/
def word (first next : List (Char × Char)) : Pattern :=
  followed (oneOf first) (many (oneOf next))

def within (ranges : List (Char × Char)) (c : Char) : Bool :=
  ranges.any fun r ↦ r.1 ≤ c && c ≤ r.2

/-- The range of one character. -/
def only (c : Char) : Char × Char := (c, c)

@[simp] theorem within_nil : within [] c = false := rfl

theorem within_cons {r : Char × Char} :
    within (r :: ranges) c = true ↔ (r.1 ≤ c ∧ c ≤ r.2) ∨ within ranges c = true := by
  simp [within]

theorem within_eq {accepts : Char → Bool} (h : ∀ c, within ranges c = true ↔ accepts c = true) :
    within ranges = accepts :=
  funext fun c ↦ Bool.eq_iff_iff.mpr (h c)

theorem mem_only : (only d).1 ≤ c ∧ c ≤ (only d).2 ↔ c = d := by
  constructor
  · rintro ⟨hle, hge⟩
    exact Char.le_antisymm hge hle
  · rintro rfl
    exact ⟨Char.le_refl c, Char.le_refl c⟩

theorem mem_oneOf : cs ∈ (oneOf ranges).language ↔ ∃ c, cs = [c] ∧ within ranges c = true := by
  have hwithin (c : Char) : within ranges c = true ↔ ∃ r ∈ ranges, r.1 ≤ c ∧ c ≤ r.2 := by
    simp [within]
  simp only [hwithin]
  rfl

theorem mem_many_oneOf : cs ∈ (many (oneOf ranges)).language ↔ cs.all (within ranges) = true := by
  rw [language, Language.mem_kstar, List.all_eq_true]
  constructor
  · rintro ⟨parts, rfl, hparts⟩ c hc
    obtain ⟨part, hpart, hc⟩ := List.mem_flatten.mp hc
    obtain ⟨d, rfl, hd⟩ := mem_oneOf.mp (hparts part hpart)
    rw [List.mem_singleton.mp hc]
    exact hd
  · intro hall
    refine ⟨cs.map fun c ↦ [c], ?_, fun part hpart ↦ ?_⟩
    · rw [← List.flatMap_def, List.flatMap_singleton']
    · obtain ⟨c, hc, rfl⟩ := List.mem_map.mp hpart
      exact mem_oneOf.mpr ⟨c, rfl, hall c hc⟩

theorem mem_word_iff :
    cs ∈ (word first next).language ↔ isWord (within first) (within next) cs = true := by
  rw [word, language, Language.mem_mul]
  constructor
  · rintro ⟨_, hfirst, ds, hnext, rfl⟩
    obtain ⟨c, rfl, hc⟩ := mem_oneOf.mp hfirst
    exact Bool.and_eq_true_iff.mpr ⟨hc, mem_many_oneOf.mp hnext⟩
  · intro hword
    cases cs with
    | nil => exact absurd hword Bool.false_ne_true
    | cons c ds =>
      obtain ⟨hc, hds⟩ := Bool.and_eq_true_iff.mp hword
      exact ⟨[c], mem_oneOf.mpr ⟨c, rfl, hc⟩, ds, mem_many_oneOf.mpr hds, rfl⟩

/-! ### Words with points between them -/

/-- What a pattern matches, once or more often, with points in between. -/
def dotted (p : Pattern) : Pattern := followed p (many (followed point p))

/-- A first part and others, each after a separator. -/
theorem append_flatten_map_cons (sep : Char) (part : List Char) (parts : List (List Char)) :
    part ++ (parts.map (sep :: ·)).flatten = [sep].intercalate (part :: parts) := by
  induction parts generalizing part with
  | nil => simp
  | cons second parts ih =>
    rw [List.intercalate_cons_cons, ← ih second, List.append_assoc]
    rfl

theorem mem_followed_point {p : Pattern} :
    cs ∈ (followed point p).language ↔ ∃ part ∈ p.language, '.' :: part = cs := by
  rw [language, Language.mem_mul]
  constructor
  · rintro ⟨_, rfl, part, hpart, rfl⟩
    exact ⟨part, hpart, rfl⟩
  · rintro ⟨part, hpart, rfl⟩
    exact ⟨['.'], rfl, part, hpart, rfl⟩

/-- The language of dotted texts. -/
theorem mem_dotted_iff_exists {p : Pattern} : cs ∈ p.dotted.language ↔
    ∃ parts, parts ≠ [] ∧ cs = ['.'].intercalate parts ∧ ∀ part ∈ parts, part ∈ p.language := by
  rw [dotted, language, Language.mem_mul]
  constructor
  · rintro ⟨part, hpart, _, hothers, rfl⟩
    obtain ⟨chunks, rfl, hchunks⟩ := Language.mem_kstar.mp hothers
    -- Each chunk is a point and a part, so the parts are the chunks without their points.
    have hpoints : ∀ chunk ∈ chunks, chunk = '.' :: chunk.tail ∧ chunk.tail ∈ p.language := by
      intro chunk hchunk
      obtain ⟨other, hother, rfl⟩ := mem_followed_point.mp (hchunks chunk hchunk)
      exact ⟨rfl, hother⟩
    have hmap : (chunks.map List.tail).map ('.' :: ·) = chunks := by
      rw [List.map_map]
      exact (List.map_congr_left fun chunk hchunk ↦ (hpoints chunk hchunk).1.symm).trans
        (List.map_id chunks)
    refine ⟨part :: chunks.map List.tail, List.cons_ne_nil _ _, ?_, ?_⟩
    · rw [← append_flatten_map_cons, hmap]
    · refine List.forall_mem_cons.mpr ⟨hpart, fun other hother ↦ ?_⟩
      obtain ⟨chunk, hchunk, rfl⟩ := List.mem_map.mp hother
      exact (hpoints chunk hchunk).2
  · rintro ⟨parts, hne, rfl, hparts⟩
    cases parts with
    | nil => exact absurd rfl hne
    | cons part others =>
      obtain ⟨hpart, hothers⟩ := List.forall_mem_cons.mp hparts
      refine ⟨part, hpart, (others.map ('.' :: ·)).flatten, ?_, append_flatten_map_cons ..⟩
      refine Language.join_mem_kstar fun chunk hchunk ↦ ?_
      obtain ⟨other, hother, rfl⟩ := List.mem_map.mp hchunk
      exact mem_followed_point.mpr ⟨other, hothers other hother, rfl⟩

/-- Assumes: that no text that the pattern matches has a point in it. -/
theorem mem_dotted_iff {p : Pattern} (hfree : ∀ part ∈ p.language, '.' ∉ part) :
    cs ∈ p.dotted.language ↔ ∀ part ∈ Text.splitChars '.' cs, part ∈ p.language := by
  rw [mem_dotted_iff_exists, Text.splitChars_eq_splitOn]
  constructor
  · rintro ⟨parts, hne, rfl, hparts⟩
    rw [List.splitOn_intercalate '.' (fun part hpart ↦ hfree part (hparts part hpart)) hne]
    exact hparts
  · intro hparts
    exact ⟨cs.splitOn '.', List.splitOn_ne_nil '.' cs, (List.intercalate_splitOn '.').symm,
      hparts⟩

/-! ### The three patterns -/

def identifier : Pattern :=
  word [('A', 'Z'), ('a', 'z'), only '_'] [('A', 'Z'), ('a', 'z'), ('0', '9'), only '_']

example : identifier.whole = "^[A-Za-z_][A-Za-z0-9_]*$" := by decide

/-- A part of a handler's name. -/
def namePart : Pattern :=
  word [('A', 'Z'), ('a', 'z'), only '_', only '$']
    [('A', 'Z'), ('a', 'z'), ('0', '9'), only '_', only '$', only '-']

def handlerName : Pattern := namePart.dotted

example : handlerName.whole =
    "^[A-Za-z_$][A-Za-z0-9_$-]*(\\.[A-Za-z_$][A-Za-z0-9_$-]*)*$" := by decide

/-- The characters after those of ASCII and its control characters, up to three bytes long. -/
def foreign : Char × Char := (Char.ofNat 0xA0, Char.ofNat 0xFFFF)

def methodName : Pattern :=
  word [only '_', only '$', ('a', 'z'), ('A', 'Z'), foreign]
    [only '_', only '$', ('a', 'z'), ('A', 'Z'), ('0', '9'), foreign]

example : methodName.whole = "^[_$a-zA-Z\\x\x7bA0\x7d-\\x\x7bFFFF\x7d]" ++
    "[_$a-zA-Z0-9\\x\x7bA0\x7d-\\x\x7bFFFF\x7d]*$" := by decide

end Pattern

/-! ### The checks and their patterns -/

variable {s : String} {c : Char}

open Pattern

theorem isLetter_iff : isLetter c = true ↔ ('A' ≤ c ∧ c ≤ 'Z') ∨ ('a' ≤ c ∧ c ≤ 'z') := by
  simp [isLetter, or_comm]

theorem isDigit_iff : isDigit c = true ↔ '0' ≤ c ∧ c ≤ '9' := by
  simp [isDigit]

theorem isIdentifier_iff_mem : isIdentifier s = true ↔
    s.utf8ByteSize ≤ longestIdentifier ∧ s.toList ∈ identifier.language := by
  have hstarts : within [('A', 'Z'), ('a', 'z'), only '_'] =
      fun c ↦ isLetter c || c == '_' := by
    refine within_eq fun c ↦ ?_
    simp [within_cons, mem_only, isLetter_iff, or_assoc]
  have hcontinues : within [('A', 'Z'), ('a', 'z'), ('0', '9'), only '_'] =
      fun c ↦ isLetter c || isDigit c || c == '_' := by
    refine within_eq fun c ↦ ?_
    simp [within_cons, mem_only, isLetter_iff, isDigit_iff, or_assoc]
  rw [isIdentifier, Bool.and_eq_true, decide_eq_true_iff, identifier, mem_word_iff, hstarts,
    hcontinues]

theorem mem_namePart_iff {cs : List Char} :
    cs ∈ namePart.language ↔ isWord startsSegment continuesSegment cs = true := by
  have hstarts : within [('A', 'Z'), ('a', 'z'), only '_', only '$'] = startsSegment := by
    refine within_eq fun c ↦ ?_
    simp [within_cons, mem_only, startsSegment, isLetter_iff, or_assoc]
  have hcontinues : within [('A', 'Z'), ('a', 'z'), ('0', '9'), only '_', only '$', only '-'] =
      continuesSegment := by
    refine within_eq fun c ↦ ?_
    simp only [continuesSegment, ← hstarts, within_cons, mem_only, within_nil, isDigit_iff,
      Bool.or_eq_true, beq_iff_eq, Bool.false_eq_true, false_or, or_assoc, or_left_comm, or_comm]
  rw [namePart, mem_word_iff, hstarts, hcontinues]

theorem point_notMem_of_mem_namePart {part : List Char} (h : part ∈ namePart.language) :
    '.' ∉ part := by
  have hword := mem_namePart_iff.mp h
  cases part with
  | nil => exact List.not_mem_nil
  | cons c cs =>
    obtain ⟨hfirst, hothers⟩ := Bool.and_eq_true_iff.mp hword
    rw [List.mem_cons]
    rintro (rfl | hpoint)
    · exact absurd hfirst (by decide)
    · exact absurd (List.all_eq_true.mp hothers '.' hpoint) (by decide)

/-- The texts that may name a handler are those that match the pattern of such names. -/
theorem isHandlerName_iff_mem : isHandlerName s = true ↔ s.toList ∈ handlerName.language := by
  rw [isHandlerName, List.all_eq_true, handlerName,
    mem_dotted_iff fun _ ↦ point_notMem_of_mem_namePart]
  simp only [mem_namePart_iff]

theorem isMethodName_iff_mem : isMethodName s = true ↔ s.toList ∈ methodName.language := by
  have hforeign (c : Char) : (0xA0 ≤ c.toNat && c.toNat ≤ 0xFFFF) = true ↔
      foreign.1 ≤ c ∧ c ≤ foreign.2 := by
    rw [Bool.and_eq_true, decide_eq_true_iff, decide_eq_true_iff]
    rfl
  have hstarts : within [only '_', only '$', ('a', 'z'), ('A', 'Z'), foreign] = startsMethod := by
    refine within_eq fun c ↦ ?_
    simp only [within_cons, mem_only, within_nil, startsMethod, isLetter_iff, hforeign,
      Bool.or_eq_true, beq_iff_eq, Bool.false_eq_true, false_or, or_assoc, or_left_comm, or_comm]
  have hcontinues : within [only '_', only '$', ('a', 'z'), ('A', 'Z'), ('0', '9'), foreign] =
      fun c ↦ startsMethod c || isDigit c := by
    refine within_eq fun c ↦ ?_
    simp only [← hstarts, within_cons, within_nil, isDigit_iff, Bool.or_eq_true,
      Bool.false_eq_true, false_or, or_assoc, or_left_comm, or_comm]
  rw [isMethodName, methodName, mem_word_iff, hstarts, hcontinues]

end SchemaRouting.Schema.Shape
