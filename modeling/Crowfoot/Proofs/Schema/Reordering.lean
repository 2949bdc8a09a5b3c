import Crowfoot.Proofs.Schema.Key

/-
Moving a column. It is taken out of its table and put in again at another place, so that the others keep their order;
and moving it from there to where it stood restores the schema.

- `Table.reorderColumns_of_lt`, `Table.reorderColumns_of_outside`: what reordering does to a table.
- `Table.reorderColumns_reorderColumns`: reordering it back.
- `Schema.reorderColumns_moves`: the whole effect on a schema.
-/

namespace Crowfoot

open scoped List

variable {κ : Type}

/-! ## One table -/

namespace Table

variable {t : Table κ} {i k : ℕ}

/-- from a place outside the columns nothing is moved -/
theorem reorderColumns_of_outside {source : ℤ} (h : source < 0 ∨ (t.columns.length : ℤ) ≤ source) (target : ℤ) :
    t.reorderColumns source target = t := by
  have hnot : ¬ (0 ≤ source ∧ source < t.columns.length) := by omega
  rw [reorderColumns, if_neg hnot]

/-- the column at a place is moved to the place nearest to the target -/
theorem reorderColumns_of_lt (hi : i < t.columns.length) {target : ℤ}
    (hk : (k : ℤ) = min (max target 0) (t.columns.length - 1)) :
    t.reorderColumns i target = { t with columns := moveItem t.columns i k } := by
  have hinside : 0 ≤ (i : ℤ) ∧ (i : ℤ) < t.columns.length := by omega
  rw [reorderColumns, if_pos hinside, ← hk, Int.toNat_natCast, Int.toNat_natCast]

theorem reorderColumns_reorderColumns (hi : i < t.columns.length) {target : ℤ}
    (hk : (k : ℤ) = min (max target 0) (t.columns.length - 1)) :
    (t.reorderColumns i target).reorderColumns k i = t := by
  have hklt : k < t.columns.length := by omega
  have hlength : (moveItem t.columns i k).length = t.columns.length :=
    (moveItem_perm t.columns i (by omega)).length_eq
  have hback : ({ t with columns := moveItem t.columns i k } : Table κ).reorderColumns k i =
      { t with columns := moveItem (moveItem t.columns i k) k i } := by
    refine reorderColumns_of_lt (t := { t with columns := moveItem t.columns i k }) ?_ ?_
    · show k < (moveItem t.columns i k).length
      rw [hlength]
      exact hklt
    · show (i : ℤ) = min (max (i : ℤ) 0) ((moveItem t.columns i k).length - 1)
      rw [hlength]
      omega
  rw [reorderColumns_of_lt hi hk, hback, moveItem_moveItem hi hklt]

end Table

/-! ## Schemas -/

namespace Schema

variable {s : Schema κ} {tableId : String}

theorem mapTable_eq_self {f : Table κ → Table κ} (h : ∀ t, s.table? tableId = some t → f t = t) :
    s.mapTable tableId f = s := by
  rw [mapTable, mapFirst_eq_self h]

theorem mapTable_mapTable {f g : Table κ → Table κ} (hf : ∀ t, (f t).id = t.id) :
    (s.mapTable tableId f).mapTable tableId g = s.mapTable tableId (g ∘ f) := by
  unfold mapTable
  dsimp only
  rw [mapFirst_mapFirst fun t ht => by rw [hf t]; exact ht]

/-- **Columns are moved.** Where there is no table with the id, or the first one has no column at the place, nothing
changes. Otherwise the column stands at the place nearest to the target, the other columns of the table follow each
other as before, none is lost or added, and nothing else in the schema is changed; and moving the column back to its
place restores the schema. -/
theorem reorderColumns_moves (s : Schema κ) (tableId : String) (source target : ℤ) :
    (s.table? tableId = none → s.reorderColumns tableId source target = s) ∧
    ∀ t, s.table? tableId = some t →
      (source < 0 ∨ (t.columns.length : ℤ) ≤ source → s.reorderColumns tableId source target = s) ∧
      ∀ i : ℕ, (i : ℤ) = source → i < t.columns.length →
        ∃ (k : ℕ) (columns : List Column),
          (k : ℤ) = min (max target 0) (t.columns.length - 1) ∧ k < t.columns.length ∧
          s.WithColumns t columns (s.reorderColumns tableId source target) ∧
          columns[k]? = t.columns[i]? ∧ columns.eraseIdx k = t.columns.eraseIdx i ∧ columns ~ t.columns ∧
          (s.reorderColumns tableId source target).reorderColumns tableId k source = s := by
  refine ⟨fun hnone => ?_, fun t ht => ⟨fun houtside => ?_, ?_⟩⟩
  · exact mapTable_eq_self fun t ht => by rw [hnone] at ht; cases ht
  · refine mapTable_eq_self fun u hu => ?_
    obtain rfl : t = u := Option.some.inj (ht.symm.trans hu)
    exact Table.reorderColumns_of_outside houtside target
  · rintro i rfl hi
    obtain ⟨k, hk⟩ : ∃ k : ℕ, (k : ℤ) = min (max target 0) (t.columns.length - 1) :=
      ⟨_, Int.toNat_of_nonneg (by omega)⟩
    have hklt : k < t.columns.length := by omega
    have hx : t.columns[i]? = some t.columns[i] := List.getElem?_eq_getElem hi
    refine ⟨k, moveItem t.columns i k, hk, hklt, ?_, ?_, eraseIdx_moveItem hx k, ?_, ?_⟩
    · exact mapTable_withColumns ht (Table.reorderColumns_of_lt hi hk)
    · rw [getElem?_moveItem hx hklt, hx]
    · exact moveItem_perm t.columns i (by omega)
    · unfold reorderColumns
      rw [mapTable_mapTable fun u => u.reorderColumns_id i target]
      refine mapTable_eq_self fun u hu => ?_
      obtain rfl : t = u := Option.some.inj (ht.symm.trans hu)
      exact Table.reorderColumns_reorderColumns hi hk

end Schema

theorem Schema.reorderColumns_moves_ledger :
    ledger.table? "t_9" = none ∧ ledger.reorderColumns "t_9" 0 1 = ledger ∧
      ledger.table? "t_1" = some ledgerEntries ∧ ledger.reorderColumns "t_1" 3 0 = ledger ∧
      ∃ columns, ledger.WithColumns ledgerEntries columns (ledger.reorderColumns "t_1" 0 7) ∧
        columns[2]? = some ⟨"c_2", "id", .integer, [.primaryKey, .notNull]⟩ ∧
        columns.eraseIdx 2 = ledgerEntries.columns.drop 1 ∧
        (ledger.reorderColumns "t_1" 0 7).reorderColumns "t_1" 2 0 = ledger := by
  have hnone : ledger.table? "t_9" = none := by decide
  have hfind : ledger.table? "t_1" = some ledgerEntries := by decide
  have hoff := (Schema.reorderColumns_moves ledger "t_9" 0 1).1 hnone
  have houtside := ((Schema.reorderColumns_moves ledger "t_1" 3 0).2 ledgerEntries hfind).1 (by decide)
  obtain ⟨k, columns, hk, -, hwith, hmoved, hothers, -, hback⟩ :=
    ((Schema.reorderColumns_moves ledger "t_1" 0 7).2 ledgerEntries hfind).2 0 rfl (by decide)
  obtain rfl : k = 2 := Int.ofNat.inj (hk.trans (by decide))
  exact ⟨hnone, hoff, hfind, houtside, columns, hwith, hmoved, hothers, hback⟩

end Crowfoot
