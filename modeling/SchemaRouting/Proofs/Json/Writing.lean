import SchemaRouting.Json.Writer
import SchemaRouting.Proofs.Json.Texts

/-!
# Values that are written

What is written of a value is a text of it, if every number in it is spelled by its own text
(`Json.isText_writeTree`). So a value that is written is read back as it was
(`Json.readTree_writeTree`).
-/

set_option autoImplicit false
set_option relaxedAutoImplicit false

namespace SchemaRouting.Json

open Token (Spells Spelled Writes EndsNumber)

variable {tokens : List Token} {cs : List Char}

/-! ### Strings -/

theorem unit?_hexDigit : ∀ n < 0x20,
    Token.unit? '0' '0' (hexDigit (n / 16)) (hexDigit (n % 16)) = some n := by
  decide

theorem spelled_escapeChar (c : Char) {s : List Char} (h : Spelled s cs) :
    Spelled (c :: s) (escapeChar c ++ cs) := by
  rw [escapeChar]
  split_ifs with hquote hslash hback hfeed hline hreturn htab hlow
  · exact .escape (by rw [hquote]; rfl) h
  · exact .escape (by rw [hslash]; rfl) h
  · exact .escape (by rw [hback]; rfl) h
  · exact .escape (by rw [hfeed]; rfl) h
  · exact .escape (by rw [hline]; rfl) h
  · exact .escape (by rw [hreturn]; rfl) h
  · exact .escape (by rw [htab]; rfl) h
  · have hunit := Spelled.unit (unit?_hexDigit c.toNat hlow) (Token.isFirstOfPair_toNat c)
      (Token.isSecondOfPair_toNat c) h
    rwa [Char.ofNat_toNat] at hunit
  · exact .plain (Nat.not_lt.mp hlow) hquote hslash h

theorem spelled_escaped (s : List Char) : Spelled s (s.flatMap escapeChar) := by
  induction s with
  | nil => exact .nil
  | cons c s ih => exact spelled_escapeChar c ih

theorem spells_quote (s : String) : Spells (.text (some s)) (quote s).toList := by
  have hchars : (quote s).toList = '"' :: (s.toList.flatMap escapeChar ++ ['"']) := by
    simp [quote]
  rw [hchars]
  simpa using Spells.text (spelled_escaped s.toList)

/-! ### Texts one after the other -/

theorem Token.EndsNumber.append {rest : List Char} (h : EndsNumber cs) (h' : EndsNumber rest) :
    EndsNumber (cs ++ rest) := by
  cases cs with
  | nil => exact h'
  | cons c cs => exact h

theorem Token.endsNumber_cons {c : Char} (h : isDigit c = false ∧ c ≠ '.' ∧ c ≠ 'e' ∧ c ≠ 'E')
    (cs : List Char) : EndsNumber (c :: cs) := by
  rintro _ ⟨⟩
  exact h

theorem Token.Spells.writes {token : Token} (h : Spells token cs) : Writes [token] cs := by
  have hwrites : Writes [token] ([] ++ (cs ++ [])) := .cons nofun h (fun _ _ ↦ nofun) (.nil nofun)
  simpa using hwrites

/-- Assumes: a token that is no number. -/
theorem Token.Spells.writes_cons {token : Token} {rest : List Char} (h : Spells token cs)
    (hnumber : ∀ n, token ≠ .scalar (.number n)) (hrest : Writes tokens rest) :
    Writes (token :: tokens) (cs ++ rest) := by
  have hwrites : Writes (token :: tokens) ([] ++ (cs ++ rest)) :=
    .cons nofun h (fun n hn ↦ absurd hn (hnumber n)) hrest
  exact hwrites

theorem Token.Writes.space {space : List Char} (h : Writes tokens cs)
    (hspace : ∀ c ∈ space, isSpace c = true) : Writes tokens (space ++ cs) := by
  cases h with
  | nil hend => exact .nil fun c hc ↦ (List.mem_append.mp hc).elim (hspace c) (hend c)
  | cons hspace' hspells hrest hwrites =>
    rw [← List.append_assoc]
    exact .cons (fun c hc ↦ (List.mem_append.mp hc).elim (hspace c) (hspace' c)) hspells hrest
      hwrites

/-- Assumes: what follows does not go on with a number. -/
theorem Token.Writes.append {tokens' : List Token} {cs' : List Char} (h : Writes tokens cs)
    (h' : Writes tokens' cs') (hends : EndsNumber cs') :
    Writes (tokens ++ tokens') (cs ++ cs') := by
  induction h with
  | nil hspace => exact h'.space hspace
  | cons hspace hspells hrest _ ih =>
    rw [List.append_assoc, List.append_assoc]
    exact .cons hspace hspells (fun n hn ↦ (hrest n hn).append hends) ih

/-- Entries with commas between them. -/
theorem Token.writes_intercalate {α : Type} {tokens : α → List Token} {chars : α → List Char}
    {entries : List α} (h : ∀ a ∈ entries, Writes (tokens a) (chars a)) :
    Writes ([Token.comma].intercalate (entries.map tokens))
      ([','].intercalate (entries.map chars)) := by
  induction entries with
  | nil => exact .nil nofun
  | cons a rest ih =>
    have hfirst := h a List.mem_cons_self
    have hrest := ih fun b hb ↦ h b (List.mem_cons_of_mem a hb)
    cases rest with
    | nil => simpa using hfirst
    | cons b more =>
      have hall := hfirst.append (Spells.comma.writes_cons nofun hrest)
        (endsNumber_cons (by decide) _)
      simpa [List.intercalate_cons_cons] using hall

/-- Assumes: brackets around a text. -/
theorem Token.writes_between {first last : Token} {c d : Char} (hfirst : Spells first [c])
    (hlast : Spells last [d]) (hends : isDigit d = false ∧ d ≠ '.' ∧ d ≠ 'e' ∧ d ≠ 'E')
    (hnumber : ∀ n, first ≠ .scalar (.number n)) (h : Writes tokens cs) :
    Writes (first :: tokens ++ [last]) (c :: cs ++ [d]) := by
  have hinside := h.append hlast.writes (endsNumber_cons hends [])
  simpa using hfirst.writes_cons hnumber hinside

/-! ### Values -/

/-- Every number in a value is spelled by its text. -/
inductive Legible : Tree → Prop
  | null : Legible .null
  | bool (b : Bool) : Legible (.bool b)
  | number {n : Number} : Spells (.scalar (.number n)) n.text.toList → Legible (.number n)
  | string (s : String) : Legible (.string s)
  | array {items : List Tree} : (∀ t ∈ items, Legible t) → Legible (.array items .strict)
  | object {members : List (String × Tree)} : (∀ key t, (key, t) ∈ members → Legible t) →
    Legible (.object members .strict)

theorem legible_array_iff {items : List Tree} :
    Legible (.array items .strict) ↔ ∀ t ∈ items, Legible t := by
  refine ⟨fun h ↦ ?_, .array⟩
  cases h with
  | array hitems => exact hitems

theorem legible_object_iff {members : List (String × Tree)} :
    Legible (.object members .strict) ↔ ∀ key t, (key, t) ∈ members → Legible t := by
  refine ⟨fun h ↦ ?_, .object⟩
  cases h with
  | object hmembers => exact hmembers

theorem writeItems_eq_map (items : List Tree) : writeItems items = items.map writeTree := by
  induction items with
  | nil => rfl
  | cons t rest ih => rw [writeItems, ih, List.map_cons]

theorem writeMembers_eq_map (members : List (String × Tree)) : writeMembers members =
    members.map fun member ↦ quote member.1 ++ ":" ++ writeTree member.2 := by
  induction members with
  | nil => rfl
  | cons member rest ih => rw [writeMembers, ih, List.map_cons]

/-- What is written of a value is a text of it. -/
theorem isText_writeTree {t : Tree} (h : Legible t) : IsText t (writeTree t) := by
  induction h with
  | null => exact Spells.null.writes
  | bool b =>
    cases b with
    | false => exact Spells.isFalse.writes
    | true => exact Spells.isTrue.writes
  | number hn =>
    rw [IsText, writeTree]
    exact hn.writes
  | string s =>
    rw [IsText, writeTree]
    exact (spells_quote s).writes
  | @array items _ ih =>
    have hitems := Token.writes_intercalate ih
    have hall := Token.writes_between .openArray .closeArray (by decide) (by simp) hitems
    rw [IsText, writeTree, Tree.tokens, Tree.itemTokens_eq_map, writeItems_eq_map]
    simpa [String.toList_intercalate, Function.comp_def] using hall
  | @object members _ ih =>
    have hmember : ∀ member ∈ members, Writes (.text (some member.1) :: .colon :: member.2.tokens)
        ((quote member.1).toList ++ ':' :: (writeTree member.2).toList) := by
      rintro ⟨key, t⟩ hmem
      have hcolon := Spells.colon.writes_cons (by simp) (ih key t hmem)
      simpa using (spells_quote key).writes_cons (by simp) hcolon
    have hmembers := Token.writes_intercalate hmember
    have hall := Token.writes_between .openObject .closeObject (by decide) (by simp) hmembers
    rw [IsText, writeTree, Tree.tokens, Tree.memberTokens_eq_map, writeMembers_eq_map]
    simpa [String.toList_intercalate, Function.comp_def] using hall

/-- A value that is written is read back as it was, if it is not nested too deep. -/
theorem readTree_writeTree {t : Tree} (h : t.IsJson) (hlegible : Legible t)
    (hdepth : t.depth ≤ depthLimit) : readTree (writeTree t) = (t, true) :=
  readTree_of_isText h hdepth (isText_writeTree hlegible)

end SchemaRouting.Json
