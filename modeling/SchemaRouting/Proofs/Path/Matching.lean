import Mathlib.Data.List.Forall2
import SchemaRouting.Path.Pattern
import SchemaRouting.Proofs.Path.Joining

/-!
# The paths that a pattern matches

A pattern matches a path exactly if the two are the same text, or the pattern is not empty and every
segment of the path stands for the segment of the pattern at its place (`isMatch_iff`,
`StandsFor`). The path of a request begins with a slash. A pattern matches such a path exactly if it
begins with a slash itself, or with a placeholder that is not its only segment: that placeholder
takes the empty segment before the slash (`matchesAbsolute_iff`).
-/

set_option autoImplicit false
set_option relaxedAutoImplicit false

namespace SchemaRouting.Path

/-- A segment of a path may stand at the place of a segment of a pattern. -/
def StandsFor (token segment : String) : Prop := isPlaceholder token = true ∨ token = segment

namespace Pattern

variable {p : Pattern} {path : String}

theorem exists_align_eq_ok_iff {tokens read : List String} (hlength : tokens.length = read.length)
    (position : Nat) (params : Params) :
    (∃ found, align position params tokens read = .ok found) ↔
      List.Forall₂ StandsFor tokens read := by
  induction tokens generalizing position params read with
  | nil =>
    cases read with
    | nil => exact ⟨fun _ ↦ .nil, fun _ ↦ ⟨params, rfl⟩⟩
    | cons segment read => cases hlength
  | cons token tokens ih =>
    cases read with
    | nil => cases hlength
    | cons segment read =>
      have hrest : tokens.length = read.length := Nat.succ.inj hlength
      rw [align, List.forall₂_cons, StandsFor]
      split_ifs with hplaceholder hsame
      · rw [ih hrest]
        exact ⟨fun h ↦ ⟨.inl hplaceholder, h⟩, And.right⟩
      · rw [ih hrest]
        exact ⟨fun h ↦ ⟨.inr hsame, h⟩, And.right⟩
      · constructor
        · rintro ⟨found, hfound⟩
          cases hfound
        · rintro ⟨hplaceholder' | hsame', -⟩
          · exact absurd hplaceholder' hplaceholder
          · exact absurd hsame' hsame

theorem exists_extract_eq_ok_iff :
    (∃ params, p.extract path = .ok params) ↔ p.text = path ∨
      p.text ≠ "" ∧ List.Forall₂ StandsFor p.segments (Path.segments path) := by
  rw [extract]
  by_cases hsame : p.text = path
  · simp [hsame]
  · rw [if_neg hsame]
    by_cases hempty : p.text = ""
    · rw [if_pos (String.isEmpty_iff.mpr hempty)]
      simp [hempty, Ne.symm (hempty ▸ hsame)]
    · rw [if_neg (fun h ↦ hempty (String.isEmpty_iff.mp h))]
      by_cases hlength : p.segments.length = (Path.segments path).length
      · rw [if_pos hlength, exists_align_eq_ok_iff hlength]
        simp [hsame, hempty]
      · rw [if_neg hlength]
        constructor
        · rintro ⟨params, hparams⟩
          cases hparams
        · rintro (hsame' | ⟨-, hall⟩)
          · exact absurd hsame' hsame
          · exact absurd hall.length_eq hlength

theorem isMatch_iff_extract : p.isMatch path = true ↔ ∃ params, p.extract path = .ok params := by
  rw [isMatch]
  cases p.extract path <;> simp

/-- A pattern matches itself, and other than that the paths whose segments stand for its own. -/
theorem isMatch_iff : p.isMatch path = true ↔ p.text = path ∨
    p.text ≠ "" ∧ List.Forall₂ StandsFor p.segments (Path.segments path) := by
  rw [isMatch_iff_extract, exists_extract_eq_ok_iff]

/-! ### Paths that begin with a slash -/

/-- A pattern matches some path that begins with a slash. -/
def MatchesAbsolute (p : Pattern) : Prop :=
  ∃ path, isAbsolute path = true ∧ p.isMatch path = true

/-- A pattern begins with a placeholder and goes on after it. -/
def LeadsWithPlaceholder (p : Pattern) : Prop :=
  ∃ token rest, p.segments = token :: rest ∧ isPlaceholder token = true ∧ rest ≠ []

theorem isMatch_self (p : Pattern) : p.isMatch p.text = true := isMatch_iff.mpr (.inl rfl)

/-- The path that leaves out the placeholder which a pattern begins with. -/
theorem LeadsWithPlaceholder.matchesAbsolute (h : p.LeadsWithPlaceholder) : p.MatchesAbsolute := by
  obtain ⟨token, rest, hsegments, hplaceholder, hrest⟩ := h
  have hfree : ∀ part ∈ "" :: rest, '/' ∉ part.toList := by
    intro part hpart
    rcases List.mem_cons.mp hpart with rfl | hpart
    · simp
    · have hmem : part ∈ p.segments := by
        rw [hsegments]
        exact List.mem_cons_of_mem token hpart
      exact slash_notMem_of_mem_segments hmem
  have hread : Path.segments (String.intercalate "/" ("" :: rest)) = "" :: rest :=
    segments_intercalate (List.cons_ne_nil _ _) hfree
  refine ⟨String.intercalate "/" ("" :: rest), ?_, ?_⟩
  · exact isAbsolute_iff_segments.mpr ⟨rest, hread, hrest⟩
  · refine isMatch_iff.mpr (.inr ⟨?_, ?_⟩)
    · intro hempty
      rw [segments, hempty] at hsegments
      cases hsegments
      cases hplaceholder
    · rw [hread, hsegments]
      exact .cons (.inl hplaceholder) (List.forall₂_same.mpr fun _ _ ↦ .inr rfl)

/-- A pattern matches a path that begins with a slash exactly if it begins with one, or with a
placeholder that is followed by more. -/
theorem matchesAbsolute_iff :
    p.MatchesAbsolute ↔ isAbsolute p.text = true ∨ p.LeadsWithPlaceholder := by
  constructor
  · rintro ⟨path, habsolute, hmatch⟩
    rcases isMatch_iff.mp hmatch with hsame | ⟨hne, hall⟩
    · rw [hsame]
      exact .inl habsolute
    · obtain ⟨rest, hread, hrest⟩ := isAbsolute_iff_segments.mp habsolute
      rw [hread] at hall
      cases hsegments : p.segments with
      | nil =>
        rw [hsegments] at hall
        cases hall
      | cons token tokens =>
        rw [hsegments] at hall
        obtain ⟨hfirst, htokens⟩ := List.forall₂_cons.mp hall
        have hmore : tokens ≠ [] := by
          rintro rfl
          cases htokens
          exact hrest rfl
        rcases hfirst with hplaceholder | rfl
        · exact .inr ⟨token, tokens, hsegments, hplaceholder, hmore⟩
        · exact .inl (isAbsolute_iff_segments.mpr ⟨tokens, hsegments, hmore⟩)
  · rintro (habsolute | hleads)
    · exact ⟨p.text, habsolute, p.isMatch_self⟩
    · exact hleads.matchesAbsolute

end Pattern

end SchemaRouting.Path
