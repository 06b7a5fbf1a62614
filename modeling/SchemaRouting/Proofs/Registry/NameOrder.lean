import SchemaRouting.Proofs.Registry.PathMap
import SchemaRouting.Proofs.Text.Order

/-!
# The order of the names in a handler registry

The names are listed in the order of the tree, which compares them segment by segment, and so they
are sorted by their bytes exactly if no name ends a segment where another one goes on with a
character below the point (`names_by_segments_sorted_iff`). Names of letters and digits never do
(`pairwise_bytes_of_no_lesser`), but names with a hyphen may (`names_not_sorted`).
-/

set_option autoImplicit false
set_option relaxedAutoImplicit false

namespace SchemaRouting.HandlerRegistry

variable {φ : Type} {r : HandlerRegistry φ}

/-- Split again, the names are the paths of the tree. -/
theorem map_split_names (hr : LevelGrown r.root) : r.names.map (Text.split '.') = r.paths := by
  have hsplit : ∀ path ∈ r.paths, Text.split '.' (dotted path) = path := by
    intro path hpath
    have hlookup := (mem_paths_iff hr path).mp hpath
    apply Text.split_intercalate (ne_nil_of_lookup hlookup)
    intro segment hsegment
    exact (hr.isSegment_of_lookup hlookup segment hsegment).2
  show (r.paths.map dotted).map (Text.split '.') = r.paths
  rw [List.map_map]
  exact (List.map_congr_left hsplit).trans (List.map_id _)

theorem pairwise_split_names (hr : LevelGrown r.root) :
    (r.names.map (Text.split '.')).Pairwise (· < ·) := by
  rw [map_split_names hr]
  exact hr.pairwise_levelPaths

/-- The two orders of the names. -/
theorem pairwise_bytes_names_iff (hr : LevelGrown r.root) :
    (r.names.map Text.bytes).Pairwise (· < ·) ↔
      ∀ x ∈ r.names, ∀ y ∈ r.names, ¬ Text.CutShort '.' x.toList y.toList := by
  have hsegments := List.pairwise_map.mp (pairwise_split_names hr)
  rw [List.pairwise_map]
  simp only [← Text.lt_iff_bytes_lt]
  constructor
  · intro hsorted
    -- Names that are sorted in both ways come in one order.
    have hsame : ∀ x ∈ r.names, ∀ y ∈ r.names, Text.split '.' x < Text.split '.' y → x < y := by
      apply List.Pairwise.forall_of_forall_of_flip
      · intro x _ hlt
        exact absurd hlt (List.lt_irrefl _)
      · apply hsorted.imp
        intro x y hlt _
        exact hlt
      · apply hsegments.imp
        intro x y hlt hgt
        exact absurd hgt (List.lt_asymm hlt)
    intro x hx y hy hcut
    obtain ⟨hgt, hlt⟩ := hcut.lt
    exact List.lt_asymm hgt (String.lt_iff.mp (hsame x hx y hy (Text.split_lt_iff.mpr hlt)))
  · intro hnever
    refine hsegments.imp_of_mem fun {x y} hx hy hlt ↦ ?_
    rw [Text.split_lt_iff] at hlt
    rw [String.lt_iff]
    exact (Text.lt_or_cutShort hlt).resolve_right (hnever x hx y hy)

/-- Assumes: names of characters that are not below the point, as letters, digits and underscores
are. They are in the order of their bytes. -/
theorem pairwise_bytes_of_no_lesser (history : List (String × φ))
    (hnames : ∀ name ∈ (after history).names, ∀ c ∈ name.toList, ¬ c < '.') :
    ((after history).names.map Text.bytes).Pairwise (· < ·) := by
  rw [pairwise_bytes_names_iff (holds_after history).grown]
  intro x _ y hy hcut
  obtain ⟨c, hmem, hlt⟩ := hcut.exists_lt
  exact hnames y hy c hmem hlt

/-- After any attempts to register, the names are listed in the order of their segments. They are in
the order of their bytes exactly if no name ends a segment where another one goes on with a
character below the point. -/
theorem names_by_segments_sorted_iff (history : List (String × φ)) :
    ((after history).names.map (Text.split '.')).Pairwise (· < ·) ∧
    (((after history).names.map Text.bytes).Pairwise (· < ·) ↔
      ∀ x ∈ (after history).names, ∀ y ∈ (after history).names,
        ¬ Text.CutShort '.' x.toList y.toList) :=
  ⟨pairwise_split_names (holds_after history).grown,
    pairwise_bytes_names_iff (holds_after history).grown⟩

/-- It is not so that the names are always in the order of their bytes: a hyphen is below the
point. -/
theorem names_not_sorted : ¬ ∀ history : List (String × Unit),
    ((after history).names.map Text.bytes).Pairwise (· < ·) := by
  intro h
  have hsorted := h [("a.c", ()), ("a-b", ())]
  revert hsorted
  decide

end SchemaRouting.HandlerRegistry
