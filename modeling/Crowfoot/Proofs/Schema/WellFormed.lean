import Crowfoot.Proofs.Schema.Identity

/-
Well-formed schemas: ids that are pairwise different, at most one primary key in a table, and no constraint listed
twice in a column.

- `Tidy`: what is asked of the columns of one table. It holds of fewer columns and of other orders (`Tidy.subperm`).
- `stripPrimaryKey_tidy`: taking the key from all columns but those with one id leaves one key at most, because that
  id belongs to one column. Everything that sets a key goes through this lemma, and so needs different ids.
- `WellFormed.mapTable`: a change of one table that keeps its columns tidy keeps the schema well-formed.
-/

namespace Crowfoot

open scoped List
open IdSupply

variable {κ σ : Type}

/-! ## Columns of one table -/

/-- at most one primary key among some columns, and no constraint twice in one of them -/
structure Tidy (cs : List Column) : Prop where
  key : (cs.filter Column.isPrimaryKey).length ≤ 1
  constraints : ∀ c ∈ cs, c.constraints.Nodup

theorem Tidy.subperm {cs cs' : List Column} (h : Tidy cs) (hsub : cs' <+~ cs) : Tidy cs' := by
  refine ⟨?_, fun c hc => h.constraints c (hsub.subset hc)⟩
  rw [← List.countP_eq_length_filter]
  refine (hsub.countP_le _).trans ?_
  rw [List.countP_eq_length_filter]
  exact h.key

/-- columns with different ids of which only those with one id may be keys have one key at most -/
theorem filter_isPrimaryKey_length_le_one {cs : List Column} (keep : String) (hids : (cs.map (·.id)).Nodup)
    (hkey : ∀ c ∈ cs, c.isPrimaryKey = true → c.id = keep) : (cs.filter Column.isPrimaryKey).length ≤ 1 := by
  have hnodup : ((cs.filter Column.isPrimaryKey).map (·.id)).Nodup := hids.sublist (List.filter_sublist.map _)
  have hall : ∀ id ∈ (cs.filter Column.isPrimaryKey).map (·.id), id = keep := by
    intro id hid
    obtain ⟨c, hc, rfl⟩ := List.mem_map.1 hid
    exact hkey c (List.mem_filter.1 hc).1 (List.mem_filter.1 hc).2
  rw [List.eq_replicate_of_mem hall, List.nodup_replicate, List.length_map] at hnodup
  exact hnodup

theorem isPrimaryKey_without_primaryKey (c : Column) : (c.without .primaryKey).isPrimaryKey = false := by
  simp [Column.isPrimaryKey, Column.has, Column.without]

theorem stripPrimaryKey_tidy {cs : List Column} (keep : String) (hids : (cs.map (·.id)).Nodup)
    (hcs : ∀ c ∈ cs, c.constraints.Nodup) : Tidy (stripPrimaryKey keep cs) := by
  constructor
  · refine filter_isPrimaryKey_length_le_one keep (by rw [stripPrimaryKey_ids]; exact hids) ?_
    intro c hc hkey
    obtain ⟨d, -, rfl⟩ := List.mem_map.1 hc
    split_ifs at hkey ⊢ with hid
    · exact hid
    · rw [isPrimaryKey_without_primaryKey] at hkey
      cases hkey
  · intro c hc
    obtain ⟨d, hd, rfl⟩ := List.mem_map.1 hc
    split_ifs
    · exact hcs d hd
    · exact (hcs d hd).filter _

/-- appending a column that is no key, or one that takes the key from the others -/
theorem appendColumn_tidy {cs : List Column} {c : Column} (h : Tidy cs) (hids : ((cs ++ [c]).map (·.id)).Nodup)
    (hc : c.constraints.Nodup) : Tidy (appendColumn cs c) := by
  have hall : ∀ d ∈ cs ++ [c], d.constraints.Nodup := by
    intro d hd
    rcases List.mem_append.1 hd with hd | hd
    · exact h.constraints d hd
    · rw [List.mem_singleton.1 hd]; exact hc
  unfold appendColumn
  split_ifs with hkey
  · exact stripPrimaryKey_tidy c.id hids hall
  · refine ⟨?_, hall⟩
    rw [List.filter_append, List.filter_cons_of_neg hkey, List.filter_nil, List.append_nil]
    exact h.key

/-- the columns of a new table: the key among the caller's columns is the only one, or else that of the standard -/
theorem tableColumns_tidy {standard extra : List Column} (h : Tidy standard)
    (hids : ((standard.take 1 ++ extra ++ standard.drop 1).map (·.id)).Nodup)
    (hextra : ∀ c ∈ extra, c.constraints.Nodup) : Tidy (tableColumns standard extra) := by
  have hall : ∀ c ∈ standard.take 1 ++ extra ++ standard.drop 1, c.constraints.Nodup := by
    intro c hc
    simp only [List.mem_append] at hc
    rcases hc with (hc | hc) | hc
    · exact h.constraints c (List.mem_of_mem_take hc)
    · exact hextra c hc
    · exact h.constraints c (List.mem_of_mem_drop hc)
  unfold tableColumns
  split
  · exact stripPrimaryKey_tidy _ hids hall
  · rename_i hnone
    refine ⟨?_, hall⟩
    rw [List.getLast?_eq_none_iff] at hnone
    rw [List.filter_append, List.filter_append, hnone, List.append_nil, ← List.filter_append, List.take_append_drop]
    exact h.key

/-- what is said of constraints that may be given to a column: none of them is listed twice -/
def ColumnSpec.Validated (spec : ColumnSpec) : Prop := spec.constraints.Nodup

/-- the same for constraints that replace those of a column -/
def ColumnUpdate.Validated (u : ColumnUpdate) : Prop := ∀ cs, u.constraints = some cs → cs.Nodup

theorem ColumnUpdate.apply_constraints_nodup {u : ColumnUpdate} (hu : u.Validated) {c : Column}
    (hc : c.constraints.Nodup) : (u.apply c).constraints.Nodup := by
  cases hcs : u.constraints with
  | none => simpa [ColumnUpdate.apply, hcs] using hc
  | some cs => simpa [ColumnUpdate.apply, hcs] using hu cs hcs

/-- an update that does not make its column the primary key makes no column one -/
theorem ColumnUpdate.isPrimaryKey_of_apply {u : ColumnUpdate} (hu : u.setsPrimaryKey = false) {c : Column}
    (h : (u.apply c).isPrimaryKey = true) : c.isPrimaryKey = true := by
  cases hcs : u.constraints with
  | none => simpa [ColumnUpdate.apply, Column.isPrimaryKey, Column.has, hcs] using h
  | some cs =>
    simp only [ColumnUpdate.setsPrimaryKey, hcs, Option.getD_some] at hu
    simp only [ColumnUpdate.apply, Column.isPrimaryKey, Column.has, hcs, Option.getD_some, hu] at h
    cases h

theorem Table.updateColumn_tidy {t : Table κ} (h : Tidy t.columns) (hids : (t.columns.map (·.id)).Nodup)
    (columnId : String) {u : ColumnUpdate} (hu : u.Validated) : Tidy (t.updateColumn columnId u).columns := by
  have hupdated := t.updateColumn_ids columnId u
  unfold updateColumn at hupdated ⊢
  split
  · exact h
  · rename_i hfind
    dsimp only
    have hall : ∀ c ∈ t.columns.map fun c => if c.id = columnId then u.apply c else c, c.constraints.Nodup := by
      intro c hc
      obtain ⟨d, hd, rfl⟩ := List.mem_map.1 hc
      split_ifs
      · exact ColumnUpdate.apply_constraints_nodup hu (h.constraints d hd)
      · exact h.constraints d hd
    simp only [hfind] at hupdated
    split_ifs at hupdated ⊢ with hkey
    · refine stripPrimaryKey_tidy columnId ?_ hall
      rw [stripPrimaryKey_ids] at hupdated
      rw [hupdated]
      exact hids
    · refine ⟨le_trans ?_ h.key, hall⟩
      rw [← List.countP_eq_length_filter, ← List.countP_eq_length_filter, List.countP_map]
      refine List.countP_mono_left fun c _ hc => ?_
      simp only [Function.comp_apply] at hc
      split_ifs at hc
      · exact ColumnUpdate.isPrimaryKey_of_apply (by simpa using hkey) hc
      · exact hc

/-! ## Schemas -/

namespace Schema

/-- ids are pairwise different, and the columns of every table are tidy -/
structure WellFormed (s : Schema κ) : Prop where
  ids : s.allIds.Nodup
  tables : ∀ t ∈ s.tables, Tidy t.columns

/-- a change of one table that keeps its columns tidy keeps the columns of all tables tidy -/
theorem WellFormed.mapTable {s : Schema κ} (h : s.WellFormed) (tableId : String) {f : Table κ → Table κ}
    (hf : ∀ t ∈ s.tables, Tidy t.columns → (t.columns.map (·.id)).Nodup → Tidy (f t).columns) :
    ∀ t ∈ (s.mapTable tableId f).tables, Tidy t.columns := by
  intro t ht
  rcases mem_mapFirst ht with ht | ⟨u, hu, -, rfl⟩
  · exact h.tables t ht
  · exact hf u hu (h.tables u hu) (columnIds_nodup h.ids hu)

end Schema

end Crowfoot
