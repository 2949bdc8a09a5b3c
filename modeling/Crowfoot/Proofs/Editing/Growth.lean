import Crowfoot.Proofs.Outcome
import Crowfoot.Proofs.Schema.Junction
import Crowfoot.Action.Apply
import Crowfoot.Editing.Operation

/-
What edits and actions do to ids, whatever they do otherwise. Each draws some ids and leaves a schema that has no ids
but these and those it had.

- `Operation.apply_grows`: one edit, with one case for each kind.
- `Action.apply_grows`: one action. A link by names may draw the id of a column before that of a relationship.
- `Action.idsAfter_draws`: an action that fails on the way draws ids too, and leaves the schema.

Nothing is asked of the schema or of the source: that ids differ is what follows, not what is needed.
-/

namespace Crowfoot

open IdSupply
open Schema (Grows)

variable {κ σ : Type} [IdSupply σ] {s : Schema κ} {ids : σ}

/-! ## Edits -/

section Operations

variable [Coordinate κ]

theorem Schema.relayout_allIds {s s' : Schema κ} (h : s.relayout = .ok s') : s'.allIds = s.allIds := by
  obtain ⟨places, -, hs'⟩ := except_bind_eq_ok.1 h
  cases hs'
  exact s.applyPositions_allIds _

theorem Operation.apply_grows {o : Operation κ} {after : Schema κ × σ} (h : o.apply s ids = .ok after) :
    Grows (s, ids) after := by
  cases o with
  | addTable name position columns => cases h; exact s.addTable_grows name position columns ids
  | updateTable tableId update => cases h; exact Grows.of_subperm (s.updateTable_allIds tableId update)
  | removeTable tableId => cases h; exact Grows.of_subperm (s.removeTable_allIds tableId)
  | addColumn tableId column => cases h; exact s.addColumn_grows tableId column ids
  | updateColumn tableId columnId update =>
    cases h
    exact Grows.of_subperm (s.updateColumn_allIds tableId columnId update)
  | removeColumn tableId columnId => cases h; exact Grows.of_subperm (s.removeColumn_allIds tableId columnId)
  | reorderColumns tableId source target =>
    cases h
    exact Grows.of_subperm (s.reorderColumns_allIds tableId source target)
  | addRelationship relationship => cases h; exact s.addRelationship_grows relationship ids
  | updateRelationship relationshipId update =>
    cases h
    exact Grows.of_subperm (s.updateRelationship_allIds relationshipId update ▸ List.Subperm.refl _)
  | removeRelationship relationshipId =>
    cases h
    exact Grows.of_subperm (s.removeRelationship_allIds relationshipId)
  | removeAllRelationships => cases h; exact Grows.of_subperm s.removeAllRelationships_allIds
  | applyPositions positions => cases h; exact Grows.of_subperm (s.applyPositions_allIds positions ▸ List.Subperm.refl _)
  | relayout =>
    obtain ⟨s', hs', rfl⟩ := except_map_eq_ok.1 h
    exact Grows.of_subperm (Schema.relayout_allIds hs' ▸ List.Subperm.refl _)
  | junction tableIdA tableIdB => cases h; exact s.junction_grows tableIdA tableIdB ids

end Operations

/-! ## Links by name -/

namespace Schema

theorem sourceOfLink_grows {link : NamedLink} {target : Column} {found : Applied κ σ}
    {source : Option (Table κ × Column)} (h : s.sourceOfLink link target ids = (found, source)) :
    Grows (s, ids) (found.schema, found.ids) := by
  unfold sourceOfLink at h
  split at h
  · split_ifs at h <;> cases h
    · exact Grows.refl _
    · exact Grows.of_subperm (s.updateColumn_allIds _ _ _)
  · split at h
    · cases h
      exact Grows.refl _
    · rename_i t _
      have hcolumn := s.addColumn_grows t.id ⟨link.sourceColumn, target.type, [.foreignKey, .notNull]⟩ ids
      dsimp only at h
      split at h <;> cases h <;> exact hcolumn

theorem addNamedLink_grows (s : Schema κ) (link : NamedLink) (ids : σ) :
    Grows (s, ids) ((s.addNamedLink link ids).schema, (s.addNamedLink link ids).ids) := by
  unfold addNamedLink
  split
  · exact Grows.refl _
  · split
    · rename_i found hfound
      exact sourceOfLink_grows hfound
    · rename_i found _ _ hfound
      exact (sourceOfLink_grows hfound).trans (found.schema.addRelationship_grows _ found.ids)

theorem addNamedLinks_grows (s : Schema κ) (links : List NamedLink) (ids : σ) :
    Grows (s, ids) ((s.addNamedLinks links ids).schema, (s.addNamedLinks links ids).ids) := by
  have hfold : ∀ (links : List NamedLink) (a : Applied κ σ),
      let after := links.foldl (fun a link =>
        let next := a.schema.addNamedLink link a.ids
        { next with warnings := a.warnings ++ next.warnings }) a
      Grows (a.schema, a.ids) (after.schema, after.ids) := by
    intro links
    induction links with
    | nil => exact fun a => Grows.refl _
    | cons link links ih =>
      intro a
      let next := a.schema.addNamedLink link a.ids
      have hrest := ih { next with warnings := a.warnings ++ next.warnings }
      exact (a.schema.addNamedLink_grows link a.ids).trans hrest
  exact hfold links ⟨s, ids, []⟩

theorem addPlacedTables_grows {place : Placer κ} (ts : List NewTable) {after : Schema κ × σ}
    (h : addPlacedTables place ts s ids = .ok after) : Grows (s, ids) after := by
  induction ts generalizing s ids with
  | nil => cases h; exact Grows.refl _
  | cons t ts ih =>
    obtain ⟨position, -, hrest⟩ := except_bind_eq_ok.1 h
    exact (s.addTable_grows t.name position t.columns ids).trans (ih hrest)

/-- tables that are added before one finds no place have drawn their ids -/
theorem idsAfterTables_draws (place : Placer κ) (ts : List NewTable) (s : Schema κ) (ids : σ) :
    ∃ drawn, Draws ids drawn (idsAfterTables place ts s ids) := by
  induction ts generalizing s ids with
  | nil => exact ⟨[], Draws.none ids⟩
  | cons t ts ih =>
    unfold idsAfterTables
    cases place s with
    | error e => exact ⟨[], Draws.none ids⟩
    | ok position =>
      obtain ⟨drawn, hdraws, -⟩ := s.addTable_grows t.name position t.columns ids
      obtain ⟨drawn', hdraws'⟩ := ih _ _
      exact ⟨drawn ++ drawn', hdraws.trans hdraws'⟩

end Schema

/-! ## Actions -/

variable [Coordinate κ]

theorem Action.apply_grows {place : Placer κ} {a : Action} {after : Applied κ σ}
    (h : a.apply place s ids = .ok after) : Grows (s, ids) (after.schema, after.ids) := by
  cases a with
  | createTable name =>
    obtain ⟨made, hmade, rfl⟩ := except_map_eq_ok.1 h
    exact Schema.addPlacedTables_grows _ hmade
  | createTableWithColumns t =>
    obtain ⟨made, hmade, rfl⟩ := except_map_eq_ok.1 h
    exact Schema.addPlacedTables_grows _ hmade
  | createMultipleTables ts =>
    obtain ⟨made, hmade, rfl⟩ := except_map_eq_ok.1 h
    exact Schema.addPlacedTables_grows _ hmade
  | renameTable table newName =>
    simp only [apply] at h
    split at h <;> cases h
    · exact Grows.refl _
    · exact Grows.of_subperm (s.updateTable_allIds _ _)
  | deleteTable table =>
    simp only [apply] at h
    split at h <;> cases h
    · exact Grows.refl _
    · exact Grows.of_subperm (s.removeTable_allIds _)
  | addColumn table column =>
    simp only [apply] at h
    split at h <;> cases h
    · exact Grows.refl _
    · exact s.addColumn_grows _ _ ids
  | updateColumn table column update =>
    simp only [apply] at h
    split at h <;> cases h
    · exact Grows.refl _
    · exact Grows.of_subperm (s.updateColumn_allIds _ _ _)
  | deleteColumn table column =>
    simp only [apply] at h
    split at h <;> cases h
    · exact Grows.refl _
    · exact Grows.of_subperm (s.removeColumn_allIds _ _)
  | addRelationship link => cases h; exact s.addNamedLink_grows link ids
  | addMultipleRelationships links => cases h; exact s.addNamedLinks_grows links ids
  | updateRelationship relationshipId update =>
    cases h
    exact Grows.of_subperm (s.updateRelationship_allIds relationshipId update ▸ List.Subperm.refl _)
  | deleteRelationship relationshipId => cases h; exact Grows.of_subperm (s.removeRelationship_allIds relationshipId)
  | deleteAllRelationships => cases h; exact Grows.of_subperm s.removeAllRelationships_allIds
  | generateJunctionTable source target =>
    simp only [apply] at h
    split at h <;> cases h
    · exact s.junction_grows _ _ ids
    · exact Grows.refl _
  | resetSchema => cases h; exact Grows.of_subperm List.nil_subperm
  | undo steps => cases h; exact Grows.refl _
  | redo steps => cases h; exact Grows.refl _

/-- an action draws ids, whether it succeeds or not -/
theorem Action.idsAfter_draws (place : Placer κ) (s : Schema κ) (ids : σ) (a : Action) :
    ∃ drawn, Draws ids drawn (a.idsAfter place s ids) := by
  unfold idsAfter
  cases happly : a.apply place s ids with
  | ok after =>
    obtain ⟨drawn, hdraws, -⟩ := apply_grows happly
    exact ⟨drawn, hdraws⟩
  | error e => exact Schema.idsAfterTables_draws place a.newTables s ids

end Crowfoot
