import SchemaRouting.Schema.Definition
import SchemaRouting.Schema.Format
import SchemaRouting.Proofs.Json.Records

/-!
# Catalogs in which every id stands once

A catalog has each of its schemas under an id of its own, and so has a schema its routes
(`DistinctIds`). What is read from a document is of that kind (`distinctIds_of_readCatalogFile`),
since of a key that is written twice the last value replaces the first. Setting another route keeps
the ids of a schema distinct (`Settings.nodup_routeIds_withRoute`).
-/

set_option autoImplicit false
set_option relaxedAutoImplicit false

namespace SchemaRouting

namespace Schema

variable {ν μ : Type}

/-- Every schema of a catalog has an id of its own, and every route of a schema has. -/
structure DistinctIds (catalog : Catalog ν μ) : Prop where
  schemas : (Keyed.keys catalog).Nodup
  routes : ∀ id d, (id, d) ∈ catalog → d.routeIds.Nodup

theorem Settings.nodup_routeIds_withRoute {d : Settings ν μ} (h : d.routeIds.Nodup) (id : String)
    (entry : Entry ν μ) : (d.withRoute id entry).routeIds.Nodup :=
  Keyed.nodup_keys_put h id entry

/-! ### Documents -/

section Documents

/-- Of the members of a schema only one says which routes it has, and it says of each once. -/
theorem nodup_routeIds_of_readMember {draft draft' : List String × Document} {key : String}
    {t : Tree} (hdraft : draft.2.routeIds.Nodup) (h : readMember draft key t = .ok draft') :
    draft'.2.routeIds.Nodup := by
  obtain ⟨seen, d⟩ := draft
  obtain ⟨-, -, h⟩ := Tree.take_eq_ok_iff.mp h
  split at h <;> obtain ⟨d', hd', h⟩ := bind_eq_ok_iff.mp h <;> cases h <;>
    obtain ⟨value, hvalue, rfl⟩ := map_eq_ok_iff.mp hd'
  case h_6 => exact Tree.nodup_keys_of_readKeyed hvalue
  all_goals exact hdraft

theorem nodup_routeIds_of_read {t : Tree} {d : Document} (h : read t = .ok d) :
    d.routeIds.Nodup := by
  obtain ⟨draft, hdraft, rfl⟩ := map_eq_ok_iff.mp h
  exact Tree.readRecord_invariant (motive := fun draft ↦ draft.2.routeIds.Nodup) List.nodup_nil
    (fun _ _ _ _ ↦ nodup_routeIds_of_readMember) hdraft

theorem distinctIds_of_readCatalog {t : Tree} {catalog : CatalogDocument}
    (h : readCatalog t = .ok catalog) : DistinctIds catalog := by
  refine ⟨Tree.nodup_keys_of_readKeyed h, fun id d hmem ↦ ?_⟩
  obtain ⟨t, hread⟩ := Tree.exists_read_of_mem_readKeyed h hmem
  exact nodup_routeIds_of_read hread

theorem Format.readCatalog_eq_ok_iff {format : Format} {text : String}
    {catalog : CatalogDocument} : format.readCatalog text = .ok catalog ↔
      format.readText Schema.readCatalog text = .ok catalog := by
  rw [readCatalog, readDocument]
  cases format.readText Schema.readCatalog text <;> simp

theorem distinctIds_of_readCatalogFile {folder : Folder} {path : String}
    {catalog : CatalogDocument} (h : readCatalogFile folder path = .ok catalog) :
    DistinctIds catalog := by
  obtain ⟨format, -, h⟩ := bind_eq_ok_iff.mp h
  split at h
  · rename_i text htext
    obtain ⟨t, -, hread⟩ := Format.readText_eq_ok_iff.mp (Format.readCatalog_eq_ok_iff.mp h)
    exact distinctIds_of_readCatalog hread
  · cases h

/-! The definitions that documents write down have their ids. -/

theorem Settings.routeIds_toDefinition {σ : Type} (d : Document) :
    (d.toDefinition : Definition σ).routeIds = d.routeIds := by
  simp [toDefinition, map, routeIds, Keyed.keys, Function.comp_def]

theorem DistinctIds.toCatalogDefinition {σ : Type} {catalog : CatalogDocument}
    (h : DistinctIds catalog) :
    DistinctIds (toCatalogDefinition catalog : CatalogDefinition σ) := by
  constructor
  · have hkeys : Keyed.keys (Schema.toCatalogDefinition catalog : CatalogDefinition σ) =
        Keyed.keys catalog := by
      simp [Schema.toCatalogDefinition, Keyed.keys, Function.comp_def]
    exact hkeys ▸ h.schemas
  · intro id d hmem
    obtain ⟨⟨id', document⟩, hdocument, heq⟩ := List.mem_map.mp hmem
    cases heq
    rw [Settings.routeIds_toDefinition]
    exact h.routes id document hdocument

end Documents

end Schema

end SchemaRouting
