import Mathlib.Tactic.SplitIfs
import SchemaRouting.Config.Basic
import SchemaRouting.Proofs.Success

/-!
# Which configurations are valid

A configuration passes its check exactly if its service has a name, the schemas that it lists have
ids and none is listed twice, and logging that is on has a level (`validate_eq_ok_iff`, `Valid`).
-/

set_option autoImplicit false
set_option relaxedAutoImplicit false

namespace SchemaRouting.Config

variable {c : Config}

/-- A configuration whose service has a name, whose schemas have ids and are listed once each, and
whose logging has a level if it is on. White space alone is no name, no id and no level. -/
structure Valid (c : Config) : Prop where
  serviceName : Text.trim c.server.serviceName ≠ ""
  schemaIds : ∀ id ∈ c.server.schemas, Text.trim id ≠ ""
  listedOnce : c.server.schemas.Nodup
  level : c.logging.enabled = true → Text.trim c.logging.level ≠ ""

/-- Ids pass after some others exactly if they have characters and are new, among the others and
among themselves. -/
theorem checkSchemas_eq_ok_iff {seen ids : List String} : checkSchemas seen ids = .ok () ↔
    (∀ id ∈ ids, Text.trim id ≠ "") ∧ ids.Nodup ∧ ∀ id ∈ ids, id ∉ seen := by
  induction ids generalizing seen with
  | nil => simp [checkSchemas]
  | cons id rest ih =>
    rw [checkSchemas]
    split_ifs with hvoid hseen
    · have hempty : Text.trim id = "" := String.isEmpty_iff.mp hvoid
      simp [hempty]
    · have hmem : id ∈ seen := List.contains_iff_mem.mp hseen
      simp [hmem]
    · have hne : Text.trim id ≠ "" := fun hempty ↦ hvoid (String.isEmpty_iff.mpr hempty)
      have hfresh : id ∉ seen := fun hmem ↦ hseen (List.contains_iff_mem.mpr hmem)
      rw [ih, List.nodup_cons, List.forall_mem_cons, List.forall_mem_cons]
      constructor
      · rintro ⟨hnames, hnodup, hnew⟩
        have hother : id ∉ rest := fun hmem ↦ hnew id hmem List.mem_cons_self
        exact ⟨⟨hne, hnames⟩, ⟨hother, hnodup⟩, hfresh,
          fun other hmem hold ↦ hnew other hmem (List.mem_cons_of_mem id hold)⟩
      · rintro ⟨⟨-, hnames⟩, ⟨hother, hnodup⟩, -, hnew⟩
        refine ⟨hnames, hnodup, fun other hmem hold ↦ ?_⟩
        rcases List.mem_cons.mp hold with rfl | hold
        · exact hother hmem
        · exact hnew other hmem hold

theorem validate_eq_ok_iff : c.validate = .ok () ↔ Valid c := by
  rw [validate]
  split_ifs with hvoid hlevel
  · have hempty : Text.trim c.server.serviceName = "" := String.isEmpty_iff.mp hvoid
    refine ⟨fun h ↦ ?_, fun h ↦ absurd hempty h.serviceName⟩
    cases h
  · obtain ⟨henabled, hvoid⟩ := Bool.and_eq_true_iff.mp hlevel
    have hempty : Text.trim c.logging.level = "" := String.isEmpty_iff.mp hvoid
    refine ⟨fun h ↦ ?_, fun h ↦ absurd hempty (h.level henabled)⟩
    obtain ⟨-, -, hthrown⟩ := bind_eq_ok_iff.mp h
    cases hthrown
  · have hname : Text.trim c.server.serviceName ≠ "" :=
      fun hempty ↦ hvoid (String.isEmpty_iff.mpr hempty)
    rw [bind_eq_ok_iff]
    constructor
    · rintro ⟨⟨⟩, hschemas, -⟩
      obtain ⟨hids, hnodup, -⟩ := checkSchemas_eq_ok_iff.mp hschemas
      exact ⟨hname, hids, hnodup, fun henabled hempty ↦
        hlevel (Bool.and_eq_true_iff.mpr ⟨henabled, String.isEmpty_iff.mpr hempty⟩)⟩
    · intro h
      exact ⟨(), checkSchemas_eq_ok_iff.mpr ⟨h.schemaIds, h.listedOnce, fun _ _ ↦ nofun⟩, rfl⟩

end SchemaRouting.Config
