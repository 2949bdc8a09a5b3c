import Crowfoot.Proofs.Schema.WellFormed
import Crowfoot.Proofs.Schema.Junction
import Crowfoot.Proofs.Schema.Counting
import Crowfoot.Editing.Operation

/-
Runs of edits keep a schema well-formed.

- `Validated`: what is asked of the parts of an operation. Only constraints can be wrong in themselves; ids may name
  nothing and indices lie outside.
- `Inv`: the schema is well-formed and the source of ids is ahead of it. `step_inv` keeps it over one operation, with
  one case for each kind; `run_inv` over a run.
- `run_wellFormed`: after every number of operations the schema is well-formed.

Neither half of the invariant holds without the other: a key is taken from the other columns by their ids, and new
ids must differ from those in the schema.
-/

namespace Crowfoot.Operation

open IdSupply

variable {κ σ : Type} [IdSupply σ]

/-- no part of the operation lists a constraint twice -/
def Validated : Operation κ → Prop
  | addTable _ _ columns => ∀ spec ∈ columns, spec.Validated
  | addColumn _ column => column.Validated
  | updateColumn _ _ update => update.Validated
  | _ => True

/-- a well-formed schema beside a source that will hand out none of its ids -/
structure Inv (s : Schema κ) (ids : σ) : Prop where
  ahead : Ahead s.allIds ids
  tidy : ∀ t ∈ s.tables, Tidy t.columns

variable {s : Schema κ} {ids : σ}

theorem Inv.wellFormed (h : Inv s ids) : s.WellFormed := ⟨h.ahead.nodup, h.tidy⟩

/-- an edit that draws no ids: the ids left are some of those before, and every table left is tidy -/
theorem Inv.of_subperm {s' : Schema κ} (h : Inv s ids) (hids : List.Subperm s'.allIds s.allIds)
    (htidy : ∀ t ∈ s'.tables, Tidy t.columns) : Inv s' ids :=
  ⟨h.ahead.subperm hids, htidy⟩

theorem drawColumns_constraints {specs : List ColumnSpec} (h : ∀ spec ∈ specs, spec.Validated) (ids : σ) :
    ∀ c ∈ (drawColumns specs ids).1, c.constraints.Nodup := by
  induction specs generalizing ids with
  | nil => simp [drawColumns]
  | cons spec specs ih =>
    simp only [List.mem_cons, forall_eq_or_imp] at h
    simp only [drawColumns, List.mem_cons, forall_eq_or_imp]
    exact ⟨h.1, ih h.2 _⟩

/-- the standard columns have one key, the first of them -/
theorem standard_tidy (ids : σ) : Tidy (drawColumns (keySpec :: timestampSpecs) ids).1 := by
  constructor
  · simp [drawColumns, keySpec, timestampSpecs, ColumnSpec.build, Column.isPrimaryKey, Column.has]
  · exact drawColumns_constraints (by simp [keySpec, timestampSpecs, ColumnSpec.Validated]) ids

theorem Inv.addTable (h : Inv s ids) (name : String) (position : Position κ) {specs : List ColumnSpec}
    (hspecs : ∀ spec ∈ specs, spec.Validated) :
    Inv (s.addTable name position specs ids).1 (s.addTable name position specs ids).2 := by
  have hahead := h.ahead.addTable name position specs
  refine ⟨hahead, fun t ht => ?_⟩
  have hids := Schema.columnIds_nodup hahead.nodup ht
  simp only [Schema.addTable, List.mem_append, List.mem_singleton] at ht
  rcases ht with ht | rfl
  · exact h.tidy t ht
  · rw [tableColumns_ids] at hids
    exact tableColumns_tidy (standard_tidy _) hids (drawColumns_constraints hspecs _)

theorem Inv.addColumn (h : Inv s ids) (tableId : String) {spec : ColumnSpec} (hspec : spec.Validated) :
    Inv (s.addColumn tableId spec ids).1 (s.addColumn tableId spec ids).2 := by
  have hahead := h.ahead.addColumn tableId spec
  refine ⟨hahead, fun t ht => ?_⟩
  have hids := Schema.columnIds_nodup hahead.nodup ht
  unfold Schema.addColumn at ht
  split at ht
  · exact h.tidy t ht
  · rcases mem_mapFirst ht with ht | ⟨u, hu, -, rfl⟩
    · exact h.tidy t ht
    · rw [appendColumn_ids] at hids
      exact appendColumn_tidy (h.tidy u hu) (by rw [List.map_append]; exact hids) hspec

theorem Inv.addRelationship (h : Inv s ids) (spec : RelationshipSpec) :
    Inv (s.addRelationship spec ids).1 (s.addRelationship spec ids).2 :=
  ⟨h.ahead.addRelationship spec, h.tidy⟩

theorem Inv.updateTable (h : Inv s ids) (tableId : String) (u : TableUpdate κ) : Inv (s.updateTable tableId u) ids :=
  h.of_subperm (s.updateTable_allIds tableId u) (h.wellFormed.mapTable tableId fun _ _ ht _ => ht)

theorem Inv.removeTable (h : Inv s ids) (tableId : String) : Inv (s.removeTable tableId) ids := by
  refine h.of_subperm (s.removeTable_allIds tableId) fun t ht => ?_
  unfold Schema.removeTable at ht
  split at ht
  · exact h.tidy t ht
  · exact h.tidy t (List.mem_filter.1 ht).1

theorem Inv.updateColumn (h : Inv s ids) (tableId columnId : String) {u : ColumnUpdate} (hu : u.Validated) :
    Inv (s.updateColumn tableId columnId u) ids :=
  h.of_subperm (s.updateColumn_allIds tableId columnId u)
    (h.wellFormed.mapTable tableId fun _ _ ht hids => Table.updateColumn_tidy ht hids columnId hu)

theorem Inv.removeColumn (h : Inv s ids) (tableId columnId : String) : Inv (s.removeColumn tableId columnId) ids := by
  refine h.of_subperm (s.removeColumn_allIds tableId columnId) ?_
  unfold Schema.removeColumn
  split
  · exact h.tidy
  · exact h.wellFormed.mapTable tableId fun t _ ht _ => ht.subperm List.filter_sublist.subperm

theorem Inv.reorderColumns (h : Inv s ids) (tableId : String) (source target : Int) :
    Inv (s.reorderColumns tableId source target) ids :=
  h.of_subperm (s.reorderColumns_allIds tableId source target)
    (h.wellFormed.mapTable tableId fun t _ ht _ => ht.subperm (t.reorderColumns_perm source target).subperm)

variable [Coordinate κ]

theorem Inv.applyPositions (h : Inv s ids) (positions : List (String × Position κ)) :
    Inv (s.applyPositions positions) ids := by
  refine h.of_subperm (by rw [Schema.applyPositions_allIds]) fun t ht => ?_
  obtain ⟨u, hu, rfl⟩ := List.mem_map.1 ht
  rw [Table.moved_columns]
  exact h.tidy u hu

theorem Inv.relayout {s' : Schema κ} (h : Inv s ids) (hs : s.relayout = .ok s') : Inv s' ids := by
  unfold Schema.relayout at hs
  cases hd : s.drawing with
  | error e => rw [hd] at hs; cases hs
  | ok places =>
    rw [hd] at hs
    cases hs
    exact h.applyPositions _

theorem Inv.junction (h : Inv s ids) (idA idB : String) :
    Inv (s.junction idA idB ids).1 (s.junction idA idB ids).2 := by
  rcases s.junction_cases idA idB ids with heq | ⟨a, b, keyA, keyB, -, -, -, -, heq⟩
  · rw [heq]; exact h
  · rw [heq]
    have hcolumn : ∀ (parent : Table κ) (key : Column), (junctionColumn parent key).Validated := by
      simp [ColumnSpec.Validated, junctionColumn]
    have hspecs : ∀ spec ∈ ([] : List ColumnSpec), spec.Validated := List.forall_mem_nil _
    have hbase : Inv _ _ := h.addTable (a.name ++ "_" ++ b.name) (junctionPosition a b) hspecs
    unfold Schema.addJunction Schema.linkLast
    dsimp only
    exact (((hbase.addColumn _ (hcolumn a keyA)).addColumn _ (hcolumn b keyB)).addRelationship _).addRelationship _

/-! ## Runs -/

theorem step_inv (h : Inv s ids) (o : Operation κ) (ho : o.Validated) :
    Inv (step (s, ids) o).1 (step (s, ids) o).2 := by
  cases o with
  | addTable name position columns => exact h.addTable name position ho
  | updateTable tableId update => exact h.updateTable tableId update
  | removeTable tableId => exact h.removeTable tableId
  | addColumn tableId column => exact h.addColumn tableId ho
  | updateColumn tableId columnId update => exact h.updateColumn tableId columnId ho
  | removeColumn tableId columnId => exact h.removeColumn tableId columnId
  | reorderColumns tableId source target => exact h.reorderColumns tableId source target
  | addRelationship relationship => exact h.addRelationship relationship
  | updateRelationship relationshipId update =>
    exact h.of_subperm (s.updateRelationship_allIds relationshipId update ▸ List.Subperm.refl _) h.tidy
  | removeRelationship relationshipId => exact h.of_subperm (s.removeRelationship_allIds relationshipId) h.tidy
  | removeAllRelationships => exact h.of_subperm s.removeAllRelationships_allIds h.tidy
  | applyPositions positions => exact h.applyPositions positions
  | relayout =>
    simp only [step, apply]
    cases hs : s.relayout with
    | error e => exact h
    | ok s' => exact h.relayout hs
  | junction tableIdA tableIdB => exact h.junction tableIdA tableIdB

theorem run_inv (h : Inv s ids) (os : List (Operation κ)) (hos : ∀ o ∈ os, o.Validated) :
    Inv (run (s, ids) os).1 (run (s, ids) os).2 := by
  induction os generalizing s ids with
  | nil => exact h
  | cons o os ih =>
    exact ih (step_inv h o (hos o List.mem_cons_self)) fun o' ho' => hos o' (List.mem_cons_of_mem o ho')

/-- **Edits keep a schema well-formed.** From a well-formed schema, with a source that hands out different ids and none
of the schema's, the schema is well-formed after every number of operations of a run, whatever ids and indices the
operations name. -/
theorem run_wellFormed (s : Schema κ) (ids : σ) (hs : s.WellFormed) (hids : Fresh s.allIds ids)
    (os : List (Operation κ)) (hos : ∀ o ∈ os, o.Validated) (n : ℕ) :
    (run (s, ids) (os.take n)).1.WellFormed :=
  (run_inv ⟨⟨hs.ids, hids⟩, hs.tables⟩ (os.take n) fun o ho => hos o (List.mem_of_mem_take ho)).wellFormed

/-- people with a key, who may have a superior -/
def staff : Schema ℚ :=
  ⟨1, [⟨"t_1", "people", ⟨0, 0⟩, [⟨"c_2", "id", .integer, [.primaryKey, .notNull]⟩,
    ⟨"c_3", "superior", .integer, [.foreignKey]⟩]⟩], [⟨"r_4", ⟨"t_1", "c_3"⟩, ⟨"t_1", "c_2"⟩, .oneToMany⟩]⟩

/-- a source that knows the ids of `staff` -/
def staffIds : Counting := ⟨"", 0, staff.allIds⟩

/-- another column takes the key, a table is joined with itself, and what is not there is asked for -/
def staffEdits : List (Operation ℚ) :=
  [addColumn "t_1" ⟨"number", .text, [.unique, .primaryKey]⟩, junction "t_1" "t_1", removeColumn "t_1" "c_9",
    reorderColumns "t_1" (-1) 7, updateColumn "t_1" "c_3" ⟨none, none, some [.primaryKey]⟩]

theorem run_wellFormed_staff :
    staff.WellFormed ∧ Fresh staff.allIds staffIds ∧ (∀ o ∈ staffEdits, o.Validated) ∧
      (run (staff, staffIds) (staffEdits.take 5)).1.WellFormed := by
  have hs : staff.WellFormed := by
    refine ⟨by decide, fun t ht => ?_⟩
    rw [List.mem_singleton.1 ht]
    exact ⟨by decide, by decide⟩
  have hids : Fresh staff.allIds staffIds := Counting.fresh_of_subset (List.Subset.refl _)
  have hos : ∀ o ∈ staffEdits, o.Validated := by
    simp [staffEdits, Validated, ColumnSpec.Validated, ColumnUpdate.Validated]
  exact ⟨hs, hids, hos, run_wellFormed staff staffIds hs hids staffEdits hos 5⟩

end Crowfoot.Operation
