import Crowfoot.Proofs.Schema.Issuing
import Crowfoot.Proofs.Schema.Lookup

/-
The ids of a schema under edits. Edits draw the ids of what they create, and change no other id; so a source that is
ahead of the ids of a schema is, after every edit, ahead of the ids of what the edit left.

- `removeTable_allIds`, `mapTable_allIds_subperm` and others: an edit that creates nothing leaves no id more than
  there were.
- `Grows`: some ids are drawn, and what is left has no ids but these and those there were. `addTable_grows`,
  `addColumn_grows`, `addRelationship_grows`: what is created has ids that are drawn for it.
- `Ahead.grows`, and with it `Ahead.addTable` and others: different ids stay different.
-/

namespace Crowfoot

open scoped List
open IdSupply

variable {κ σ : Type}

/-! ## The ids of the columns of one table -/

@[simp] theorem ColumnUpdate.apply_id (u : ColumnUpdate) (c : Column) : (u.apply c).id = c.id := rfl

@[simp] theorem RelationshipUpdate.apply_id (u : RelationshipUpdate) (r : Relationship) : (u.apply r).id = r.id := rfl

@[simp] theorem stripPrimaryKey_ids (keep : String) (cs : List Column) :
    (stripPrimaryKey keep cs).map (·.id) = cs.map (·.id) := by
  rw [stripPrimaryKey, List.map_map]
  refine List.map_congr_left fun c _ => ?_
  simp only [Function.comp_apply]
  split_ifs <;> rfl

@[simp] theorem appendColumn_ids (cs : List Column) (c : Column) :
    (appendColumn cs c).map (·.id) = cs.map (·.id) ++ [c.id] := by
  unfold appendColumn
  split_ifs <;> simp

@[simp] theorem tableColumns_ids (standard extra : List Column) :
    (tableColumns standard extra).map (·.id) = (standard.take 1 ++ extra ++ standard.drop 1).map (·.id) := by
  unfold tableColumns
  split
  · rw [stripPrimaryKey_ids]
  · rfl

/-- the ids of a new table's columns are those of the standard columns and of the caller's -/
theorem tableColumns_ids_perm (standard extra : List Column) :
    (tableColumns standard extra).map (·.id) ~ extra.map (·.id) ++ standard.map (·.id) := by
  rw [tableColumns_ids, ← List.map_append]
  refine List.Perm.map _ ?_
  conv_rhs => rw [← List.take_append_drop 1 standard, ← List.append_assoc]
  exact List.perm_append_comm.append_right _

namespace Table

@[simp] theorem updateColumn_id (t : Table κ) (columnId : String) (u : ColumnUpdate) :
    (t.updateColumn columnId u).id = t.id := by
  unfold updateColumn
  split <;> rfl

@[simp] theorem updateColumn_ids (t : Table κ) (columnId : String) (u : ColumnUpdate) :
    (t.updateColumn columnId u).columns.map (·.id) = t.columns.map (·.id) := by
  have happly : ∀ cs : List Column,
      (cs.map fun c => if c.id = columnId then u.apply c else c).map (·.id) = cs.map (·.id) := by
    intro cs
    rw [List.map_map]
    refine List.map_congr_left fun c _ => ?_
    simp only [Function.comp_apply]
    split_ifs <;> rfl
  unfold updateColumn
  split
  · rfl
  · dsimp only
    split_ifs
    · rw [stripPrimaryKey_ids, happly]
    · exact happly _

@[simp] theorem reorderColumns_id (t : Table κ) (source target : Int) : (t.reorderColumns source target).id = t.id := by
  unfold reorderColumns
  split_ifs <;> rfl

/-- reordering loses and adds no column -/
theorem reorderColumns_perm (t : Table κ) (source target : Int) :
    (t.reorderColumns source target).columns ~ t.columns := by
  unfold reorderColumns
  split_ifs with h
  · exact moveItem_perm _ _ (by omega)
  · exact List.Perm.refl _

@[simp] theorem moved_id [Coordinate κ] (positions : List (String × Position κ)) (t : Table κ) :
    (t.moved positions).id = t.id := by
  unfold moved
  split
  · split_ifs <;> rfl
  · rfl

@[simp] theorem moved_columns [Coordinate κ] (positions : List (String × Position κ)) (t : Table κ) :
    (t.moved positions).columns = t.columns := by
  unfold moved
  split
  · split_ifs <;> rfl
  · rfl

end Table

/-! ## The ids of a schema -/

namespace Schema

@[simp] theorem tableIds_eq (t : Table κ) : tableIds t = t.id :: t.columns.map (·.id) := rfl

theorem tableIds_nodup {s : Schema κ} (h : s.allIds.Nodup) {t : Table κ} (ht : t ∈ s.tables) : (tableIds t).Nodup :=
  (List.nodup_flatMap.1 (List.nodup_append.1 h).1).1 t ht

theorem columnIds_nodup {s : Schema κ} (h : s.allIds.Nodup) {t : Table κ} (ht : t ∈ s.tables) :
    (t.columns.map (·.id)).Nodup :=
  (List.nodup_cons.1 (tableIds_nodup h ht)).2

theorem tableIds_subset_allIds {s : Schema κ} {t : Table κ} (ht : t ∈ s.tables) : tableIds t ⊆ s.allIds :=
  fun _ hid => List.mem_append_left _ (List.mem_flatMap.2 ⟨t, ht, hid⟩)

/-- distinct ids are distinct ids of tables -/
theorem tables_nodup {s : Schema κ} (h : s.allIds.Nodup) : (s.tables.map (·.id)).Nodup := by
  refine List.Nodup.sublist ?_ (List.nodup_append.1 h).1
  induction s.tables with
  | nil => exact List.Sublist.refl _
  | cons t ts ih =>
    rw [List.map_cons, List.flatMap_cons, tableIds_eq, List.cons_append]
    exact (ih.trans (List.sublist_append_right _ _)).cons_cons _

theorem mapTable_allIds_subperm (s : Schema κ) (tableId : String) {f : Table κ → Table κ}
    (h : ∀ t ∈ s.tables, tableIds (f t) <+~ tableIds t) : (s.mapTable tableId f).allIds <+~ s.allIds :=
  (List.subperm_append_right _).2 (flatMap_mapFirst_subperm fun t ht _ => h t ht)

/-- a change that gives a table one id more gives the schema this one more -/
theorem mapTable_allIds_cons {s : Schema κ} {tableId id : String} {t : Table κ} {f : Table κ → Table κ}
    (hfind : s.table? tableId = some t) (h : tableIds (f t) ~ id :: tableIds t) :
    (s.mapTable tableId f).allIds ~ id :: s.allIds := by
  obtain ⟨before, after, hs, -, hmap⟩ := mapFirst_of_find? f hfind
  simp only [allIds, mapTable]
  rw [hmap, hs, ← List.cons_append]
  refine List.Perm.append_right _ ?_
  simp only [List.flatMap_append, List.flatMap_cons]
  calc before.flatMap tableIds ++ (tableIds (f t) ++ after.flatMap tableIds)
      ~ before.flatMap tableIds ++ (id :: tableIds t ++ after.flatMap tableIds) := (h.append_right _).append_left _
    _ ~ id :: (before.flatMap tableIds ++ (tableIds t ++ after.flatMap tableIds)) := List.perm_middle

theorem appendTable_allIds (s : Schema κ) (t : Table κ) :
    allIds { s with tables := s.tables ++ [t] } ~ tableIds t ++ s.allIds := by
  simp only [allIds, List.flatMap_append, List.flatMap_cons, List.flatMap_nil, List.append_nil]
  rw [← List.append_assoc]
  exact List.perm_append_comm.append_right _

theorem updateTable_allIds (s : Schema κ) (tableId : String) (u : TableUpdate κ) :
    (s.updateTable tableId u).allIds <+~ s.allIds :=
  mapTable_allIds_subperm s tableId fun _ _ => List.Subperm.refl _

theorem removeTable_allIds (s : Schema κ) (tableId : String) : (s.removeTable tableId).allIds <+~ s.allIds := by
  unfold removeTable
  split
  · exact List.Subperm.refl _
  · exact ((List.filter_sublist.flatMap _).append (List.filter_sublist.map _)).subperm

theorem updateColumn_allIds (s : Schema κ) (tableId columnId : String) (u : ColumnUpdate) :
    (s.updateColumn tableId columnId u).allIds <+~ s.allIds := by
  refine mapTable_allIds_subperm s tableId fun t _ => ?_
  rw [tableIds_eq, tableIds_eq, Table.updateColumn_id, Table.updateColumn_ids]

theorem removeColumn_allIds (s : Schema κ) (tableId columnId : String) :
    (s.removeColumn tableId columnId).allIds <+~ s.allIds := by
  unfold removeColumn
  split
  · exact List.Subperm.refl _
  · refine List.Subperm.trans ?_ (mapTable_allIds_subperm s tableId (f := fun t =>
      { t with columns := t.columns.filter (·.id ≠ columnId) }) fun t _ => ?_)
    · exact (List.subperm_append_left _).2 (List.filter_sublist.map _).subperm
    · exact ((List.filter_sublist.map _).cons_cons _).subperm

theorem reorderColumns_allIds (s : Schema κ) (tableId : String) (source target : Int) :
    (s.reorderColumns tableId source target).allIds <+~ s.allIds := by
  refine mapTable_allIds_subperm s tableId fun t _ => ?_
  rw [tableIds_eq, tableIds_eq, Table.reorderColumns_id, List.subperm_cons]
  exact ((t.reorderColumns_perm source target).map _).subperm

theorem updateRelationship_allIds (s : Schema κ) (relationshipId : String) (u : RelationshipUpdate) :
    (s.updateRelationship relationshipId u).allIds = s.allIds := by
  simp only [allIds, updateRelationship, List.map_map]
  congr 1
  refine List.map_congr_left fun r _ => ?_
  simp only [Function.comp_apply]
  split_ifs <;> rfl

theorem removeRelationship_allIds (s : Schema κ) (relationshipId : String) :
    (s.removeRelationship relationshipId).allIds <+~ s.allIds :=
  (List.subperm_append_left _).2 (List.filter_sublist.map _).subperm

theorem removeAllRelationships_allIds (s : Schema κ) : s.removeAllRelationships.allIds <+~ s.allIds :=
  (List.subperm_append_left _).2 (List.nil_sublist _).subperm

theorem applyPositions_allIds [Coordinate κ] (s : Schema κ) (positions : List (String × Position κ)) :
    (s.applyPositions positions).allIds = s.allIds := by
  have hids : (fun t : Table κ => tableIds (t.moved positions)) = tableIds := by
    funext t
    simp
  rw [allIds, applyPositions, List.flatMap_map, hids]
  rfl

end Schema

/-! ## Creating -/

variable [IdSupply σ] {s : Schema κ} {ids : σ}

namespace Schema

/-- some ids are drawn, and no other id comes to those of the schema -/
def Grows (before after : Schema κ × σ) : Prop :=
  ∃ drawn, Draws before.2 drawn after.2 ∧ after.1.allIds <+~ drawn ++ before.1.allIds

/-- an edit that creates nothing -/
theorem Grows.of_subperm {s' : Schema κ} (h : s'.allIds <+~ s.allIds) : Grows (s, ids) (s', ids) :=
  ⟨[], Draws.none ids, h⟩

theorem Grows.refl (x : Schema κ × σ) : Grows x x := Grows.of_subperm (List.Subperm.refl _)

theorem Grows.trans {x y z : Schema κ × σ} (h : Grows x y) (h' : Grows y z) : Grows x z := by
  obtain ⟨drawn, hdraws, hids⟩ := h
  obtain ⟨drawn', hdraws', hids'⟩ := h'
  refine ⟨drawn ++ drawn', hdraws.trans hdraws', hids'.trans ?_⟩
  refine ((List.subperm_append_left drawn').2 hids).trans ?_
  rw [← List.append_assoc]
  exact (List.perm_append_comm.append_right _).subperm

variable (s)

theorem addTable_grows (name : String) (position : Position κ) (specs : List ColumnSpec) (ids : σ) :
    Grows (s, ids) (s.addTable name position specs ids) := by
  refine ⟨_, Draws.next tableLetter ((drawColumns_draws (keySpec :: timestampSpecs) _).trans
    (drawColumns_draws specs _)), ?_⟩
  refine ((appendTable_allIds s _).trans (List.Perm.append_right _ ?_)).subperm
  rw [tableIds_eq]
  exact ((tableColumns_ids_perm _ _).trans List.perm_append_comm).cons _

theorem addColumn_grows (tableId : String) (spec : ColumnSpec) (ids : σ) :
    Grows (s, ids) (s.addColumn tableId spec ids) := by
  unfold addColumn
  split
  · exact Grows.refl _
  · rename_i t hfind
    refine ⟨_, Draws.one columnLetter ids, (mapTable_allIds_cons hfind ?_).subperm⟩
    rw [tableIds_eq, tableIds_eq, appendColumn_ids, ColumnSpec.build_id]
    exact ((List.perm_append_singleton _ _).cons _).trans (List.Perm.swap _ _ _)

theorem addRelationship_grows (spec : RelationshipSpec) (ids : σ) : Grows (s, ids) (s.addRelationship spec ids) := by
  refine ⟨_, Draws.one relationshipLetter ids, List.Perm.subperm ?_⟩
  simp only [addRelationship, allIds, List.map_append, List.map_cons, List.map_nil]
  rw [← List.append_assoc]
  exact List.perm_append_singleton _ _

end Schema

open Schema (Grows)

theorem IdSupply.Ahead.grows {before after : Schema κ × σ} (h : Ahead before.1.allIds before.2)
    (hgrows : Grows before after) : Ahead after.1.allIds after.2 := by
  obtain ⟨drawn, hdraws, hids⟩ := hgrows
  exact (h.draws hdraws).subperm hids

theorem IdSupply.Ahead.addTable (h : Ahead s.allIds ids) (name : String) (position : Position κ)
    (specs : List ColumnSpec) :
    Ahead (s.addTable name position specs ids).1.allIds (s.addTable name position specs ids).2 :=
  h.grows (s.addTable_grows name position specs ids)

theorem IdSupply.Ahead.addColumn (h : Ahead s.allIds ids) (tableId : String) (spec : ColumnSpec) :
    Ahead (s.addColumn tableId spec ids).1.allIds (s.addColumn tableId spec ids).2 :=
  h.grows (s.addColumn_grows tableId spec ids)

theorem IdSupply.Ahead.addRelationship (h : Ahead s.allIds ids) (spec : RelationshipSpec) :
    Ahead (s.addRelationship spec ids).1.allIds (s.addRelationship spec ids).2 :=
  h.grows (s.addRelationship_grows spec ids)

end Crowfoot
