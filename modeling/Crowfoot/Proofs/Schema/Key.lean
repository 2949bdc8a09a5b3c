import Crowfoot.Proofs.Items
import Crowfoot.Proofs.Schema.Counting
import Crowfoot.Proofs.Schema.WellFormed

/-
Moving the primary key. Everything that sets a key takes it from the columns whose ids are not that of the new one, and
with different ids these are the columns before it and behind it.

- `keyedAt`: columns around a key, from which it was taken. `keyedAt_onlyKey`: the key is the only one.
- `map_around`: what is done to the column with one id and to the others, place by place.
- `appendColumn_keyed`, `Table.updateColumn_around`, `tableColumns_keyed`: the three edits that set a key, on columns.
- `Schema.WithColumns`: a schema in which one table has other columns, and nothing else is changed.
- `Schema.key_moves`: the three edits on a schema.
-/

namespace Crowfoot

open IdSupply

variable {κ σ : Type}

/-! ## Columns around a key -/

/-- a key among columns that are none, those before it and those behind it -/
def keyedAt (left : List Column) (key : Column) (right : List Column) : List Column :=
  left.map (·.without .primaryKey) ++ key :: right.map (·.without .primaryKey)

/-- of some columns exactly this one is a key -/
def OnlyKey (key : Column) (cs : List Column) : Prop := cs.filter Column.isPrimaryKey = [key]

theorem filter_isPrimaryKey_eq_nil {cs : List Column} :
    cs.filter Column.isPrimaryKey = [] ↔ ∀ c ∈ cs, c.isPrimaryKey = false := by
  simp [List.filter_eq_nil_iff]

theorem filter_isPrimaryKey_without (cs : List Column) :
    (cs.map (·.without .primaryKey)).filter Column.isPrimaryKey = [] := by
  rw [filter_isPrimaryKey_eq_nil]
  intro c hc
  obtain ⟨d, -, rfl⟩ := List.mem_map.1 hc
  exact isPrimaryKey_without_primaryKey d

theorem keyedAt_onlyKey {key : Column} (h : key.isPrimaryKey = true) (left right : List Column) :
    OnlyKey key (keyedAt left key right) := by
  rw [OnlyKey, keyedAt, List.filter_append, List.filter_cons_of_pos h, filter_isPrimaryKey_without,
    filter_isPrimaryKey_without]
  rfl

theorem without_primaryKey_eq_self {c : Column} (h : c.isPrimaryKey = false) : c.without .primaryKey = c := by
  have hkept : c.constraints.filter (· ≠ .primaryKey) = c.constraints := by
    refine List.filter_eq_self.2 fun k hk => decide_eq_true fun heq => ?_
    subst heq
    simp [Column.isPrimaryKey, Column.has, hk] at h
  rw [Column.without, hkept]

theorem map_without_eq_self {cs : List Column} (h : ∀ c ∈ cs, c.isPrimaryKey = false) :
    cs.map (·.without .primaryKey) = cs :=
  (List.map_congr_left fun c hc => without_primaryKey_eq_self (h c hc)).trans cs.map_id

/-- where ids are different, a change of the column with one id is a change at one place -/
theorem map_around {left right : List Column} {c : Column} (hids : ((left ++ c :: right).map (·.id)).Nodup)
    (f g : Column → Column) :
    ((left ++ c :: right).map fun d => if d.id = c.id then f d else g d) = left.map g ++ f c :: right.map g := by
  obtain ⟨hleft, hright⟩ := around_ne hids
  rw [List.map_append, List.map_cons, if_pos rfl]
  congr 1
  · exact List.map_congr_left fun d hd => if_neg (hleft d hd)
  · congr 1
    exact List.map_congr_left fun d hd => if_neg (hright d hd)

theorem stripPrimaryKey_keyed {left right : List Column} {key : Column}
    (hids : ((left ++ key :: right).map (·.id)).Nodup) :
    stripPrimaryKey key.id (left ++ key :: right) = keyedAt left key right :=
  map_around hids id _

/-! ## The three edits that set a key -/

theorem appendColumn_keyed {cs : List Column} {c : Column} (hkey : c.isPrimaryKey = true)
    (hids : ((cs ++ [c]).map (·.id)).Nodup) : appendColumn cs c = keyedAt cs c [] := by
  rw [appendColumn, if_pos hkey, stripPrimaryKey_keyed hids]

theorem ColumnUpdate.apply_isPrimaryKey {u : ColumnUpdate} (hkey : u.setsPrimaryKey = true) (c : Column) :
    (u.apply c).isPrimaryKey = true := by
  cases hconstraints : u.constraints with
  | none => simp [setsPrimaryKey, hconstraints] at hkey
  | some cs => simpa [setsPrimaryKey, hconstraints, Column.isPrimaryKey, Column.has, apply] using hkey

/-- an update of a column stays at its place, and touches the others only if it sets a key -/
theorem Table.updateColumn_around {t : Table κ} {columnId : String} {c : Column}
    (hids : (t.columns.map (·.id)).Nodup) (hfind : t.column? columnId = some c) (u : ColumnUpdate) :
    ∃ left right, t.columns = left ++ c :: right ∧ t.updateColumn columnId u = { t with
      columns := if u.setsPrimaryKey then keyedAt left (u.apply c) right else left ++ u.apply c :: right } := by
  obtain ⟨hid, left, right, hcolumns, -⟩ := List.find?_eq_some_iff_append.1 hfind
  obtain rfl : c.id = columnId := of_decide_eq_true hid
  refine ⟨left, right, hcolumns, ?_⟩
  rw [hcolumns] at hids
  have hupdated : (t.columns.map fun d => if d.id = c.id then u.apply d else d) = left ++ u.apply c :: right := by
    rw [hcolumns, map_around hids u.apply fun d => d, List.map_id', List.map_id']
  have hids' : ((left ++ u.apply c :: right).map (·.id)).Nodup := by simpa using hids
  simp only [updateColumn, hfind, hupdated]
  rw [← stripPrimaryKey_keyed hids', ColumnUpdate.apply_id]

/-- of the first column of a new table and the caller's, the last one that is a key is the key -/
theorem tableColumns_keyed {first : Column} {times extra : List Column} (hfirst : first.isPrimaryKey = true)
    (htimes : ∀ c ∈ times, c.isPrimaryKey = false) (hids : ((first :: extra ++ times).map (·.id)).Nodup) :
    ∃ left key right, first :: extra = left ++ key :: right ∧ key.isPrimaryKey = true ∧
      (∀ c ∈ right, c.isPrimaryKey = false) ∧
      tableColumns (first :: times) extra = keyedAt left key (right ++ times) := by
  obtain ⟨left, key, right, hsplit, hkey, hright⟩ := exists_last (p := Column.isPrimaryKey)
    ⟨first, List.mem_cons_self (l := extra), hfirst⟩
  refine ⟨left, key, right, hsplit, hkey, hright, ?_⟩
  have hnone := filter_isPrimaryKey_eq_nil.2 hright
  have hall : [first] ++ extra ++ times = left ++ key :: (right ++ times) := by
    rw [List.singleton_append, hsplit, List.append_assoc, List.cons_append]
  cases left with
  | nil =>
    -- no column of the caller's is a key, and none loses anything
    obtain ⟨rfl, rfl⟩ := List.cons_eq_cons.1 hsplit
    have hothers : ∀ c ∈ extra ++ times, c.isPrimaryKey = false := fun c hc =>
      (List.mem_append.1 hc).elim (hright c) (htimes c)
    simp only [tableColumns, hnone, List.getLast?_nil, List.take_succ_cons, List.take_zero, List.drop_succ_cons,
      List.drop_zero]
    rw [hall, keyedAt, map_without_eq_self hothers]
    rfl
  | cons c left =>
    rw [List.cons_append, List.cons.injEq] at hsplit
    obtain ⟨rfl, rfl⟩ := hsplit
    have hlast : ((left ++ key :: right).filter Column.isPrimaryKey).getLast? = some key := by
      rw [List.filter_append, List.filter_cons_of_pos hkey, hnone, List.getLast?_concat]
    simp only [tableColumns, hlast, List.take_succ_cons, List.take_zero, List.drop_succ_cons, List.drop_zero]
    rw [hall]
    refine stripPrimaryKey_keyed ?_
    rw [← hall]
    exact hids

/-! ## Schemas -/

namespace Schema

/-- the first table with some id has other columns, and nothing else is changed -/
def WithColumns (s : Schema κ) (t : Table κ) (columns : List Column) (s' : Schema κ) : Prop :=
  ∃ before after, s.tables = before ++ t :: after ∧ (∀ u ∈ before, u.id ≠ t.id) ∧
    s' = { s with tables := before ++ { t with columns := columns } :: after }

theorem WithColumns.relationships {s s' : Schema κ} {t : Table κ} {columns : List Column}
    (h : s.WithColumns t columns s') : s'.relationships = s.relationships := by
  obtain ⟨_, _, -, -, rfl⟩ := h
  rfl

theorem mapTable_withColumns {s : Schema κ} {tableId : String} {t : Table κ} {f : Table κ → Table κ}
    {columns : List Column} (hfind : s.table? tableId = some t) (hf : f t = { t with columns := columns }) :
    s.WithColumns t columns (s.mapTable tableId f) := by
  obtain rfl : t.id = tableId := by simpa using List.find?_some hfind
  obtain ⟨before, after, htables, hbefore, hmap⟩ := mapFirst_of_find? f hfind
  refine ⟨before, after, htables, fun u hu => by simpa using hbefore u hu, ?_⟩
  rw [mapTable, hmap, hf]

variable [IdSupply σ]

theorem addColumn_eq {s : Schema κ} {tableId : String} {t : Table κ} (hfind : s.table? tableId = some t)
    (spec : ColumnSpec) (ids : σ) :
    s.WithColumns t (appendColumn t.columns (spec.build (newId columnLetter ids).1)) (s.addColumn tableId spec ids).1 ∧
      (s.addColumn tableId spec ids).2 = (newId columnLetter ids).2 := by
  unfold addColumn
  rw [hfind]
  exact ⟨mapTable_withColumns hfind rfl, rfl⟩

end Schema

theorem ColumnSpec.build_isPrimaryKey (spec : ColumnSpec) (id : String) :
    (spec.build id).isPrimaryKey = spec.constraints.contains .primaryKey := rfl

variable [IdSupply σ]

theorem drawColumns_eq (specs : List ColumnSpec) (ids : σ) :
    (drawColumns specs ids).1 = List.zipWith ColumnSpec.build specs ((drawColumns specs ids).1.map (·.id)) := by
  induction specs generalizing ids with
  | nil => rfl
  | cons spec specs ih => exact congrArg _ (ih _)

theorem drawColumns_length (specs : List ColumnSpec) (ids : σ) : (drawColumns specs ids).1.length = specs.length := by
  induction specs generalizing ids with
  | nil => rfl
  | cons spec specs ih => exact congrArg (· + 1) (ih _)

namespace Schema

theorem addColumn_keyed {s : Schema κ} {ids : σ} (hids : Fresh s.allIds ids) {tableId : String} {t : Table κ}
    (hcolumns : (t.columns.map (·.id)).Nodup) (hfind : s.table? tableId = some t) {spec : ColumnSpec}
    (hkey : .primaryKey ∈ spec.constraints) :
    s.WithColumns t (keyedAt t.columns (spec.build (newId columnLetter ids).1) [])
      (s.addColumn tableId spec ids).1 := by
  have hnew : (newId columnLetter ids).1 ∉ t.columns.map (·.id) := by
    intro hmem
    refine hids.newId_notMem columnLetter (List.mem_append_left _ ?_)
    exact List.mem_flatMap.2 ⟨t, List.mem_of_find?_eq_some hfind, List.mem_cons_of_mem _ hmem⟩
  have hdistinct : ((t.columns ++ [spec.build (newId columnLetter ids).1]).map (·.id)).Nodup := by
    rw [List.map_append, List.map_singleton, ColumnSpec.build_id, ← List.concat_eq_append]
    exact hcolumns.concat hnew
  rw [← appendColumn_keyed (by simpa [ColumnSpec.build_isPrimaryKey] using hkey) hdistinct]
  exact (addColumn_eq hfind spec ids).1

theorem updateColumn_keyed {s : Schema κ} {tableId columnId : String} {t : Table κ} {c : Column} {u : ColumnUpdate}
    (hcolumns : (t.columns.map (·.id)).Nodup) (hfind : s.table? tableId = some t) (hc : t.column? columnId = some c)
    (hkey : u.setsPrimaryKey = true) :
    ∃ left right, t.columns = left ++ c :: right ∧
      s.WithColumns t (keyedAt left (u.apply c) right) (s.updateColumn tableId columnId u) := by
  obtain ⟨left, right, hsplit, hupdate⟩ := Table.updateColumn_around hcolumns hc u
  rw [if_pos hkey] at hupdate
  exact ⟨left, right, hsplit, mapTable_withColumns hfind hupdate⟩

/-- the id of a new table is drawn first, then those of its standard columns, then those of the caller's -/
theorem addTable_eq (s : Schema κ) (name : String) (position : Position κ) (specs : List ColumnSpec) (ids : σ) :
    ∃ tableId keyId createdId updatedId callers,
      Draws ids (tableId :: keyId :: createdId :: updatedId :: callers.map (·.id))
        (s.addTable name position specs ids).2 ∧
      callers.length = specs.length ∧ callers = List.zipWith ColumnSpec.build specs (callers.map (·.id)) ∧
      (s.addTable name position specs ids).1 =
        { s with tables := s.tables ++ [⟨tableId, name, position,
            tableColumns (keySpec.build keyId :: List.zipWith ColumnSpec.build timestampSpecs [createdId, updatedId])
              callers⟩] } := by
  let ids₁ := (newId tableLetter ids).2
  let ids₂ := (newId columnLetter ids₁).2
  let ids₃ := (newId columnLetter ids₂).2
  let ids₄ := (newId columnLetter ids₃).2
  have hdraws := Draws.next columnLetter (Draws.next columnLetter (Draws.next columnLetter
    (drawColumns_draws specs ids₄)))
  exact ⟨_, _, _, _, _, Draws.next tableLetter hdraws, drawColumns_length specs ids₄, drawColumns_eq specs ids₄, rfl⟩

/-- the key of a new table is the last key among its first column and the caller's -/
theorem addTable_keyed {ids : σ} (hids : Fresh [] ids) (s : Schema κ) (name : String) (position : Position κ)
    (specs : List ColumnSpec) :
    ∃ tableId keyId createdId updatedId callerIds,
      Draws ids (tableId :: keyId :: createdId :: updatedId :: callerIds) (s.addTable name position specs ids).2 ∧
      callerIds.length = specs.length ∧
      ∃ left key right,
        List.zipWith ColumnSpec.build (keySpec :: specs) (keyId :: callerIds) = left ++ key :: right ∧
        key.isPrimaryKey = true ∧ (∀ c ∈ right, c.isPrimaryKey = false) ∧
        (s.addTable name position specs ids).1 =
          { s with tables := s.tables ++ [⟨tableId, name, position,
              keyedAt left key (right ++ List.zipWith ColumnSpec.build timestampSpecs [createdId, updatedId])⟩] } := by
  obtain ⟨tableId, keyId, createdId, updatedId, callers, hdraws, hlength, hcallers, hadded⟩ :=
    s.addTable_eq name position specs ids
  refine ⟨tableId, keyId, createdId, updatedId, _, hdraws, by rw [List.length_map, hlength], ?_⟩
  have htimes : ∀ c ∈ List.zipWith ColumnSpec.build timestampSpecs [createdId, updatedId], c.isPrimaryKey = false := by
    simp [timestampSpecs, ColumnSpec.build_isPrimaryKey]
  have hdistinct : ((keySpec.build keyId :: callers ++
      List.zipWith ColumnSpec.build timestampSpecs [createdId, updatedId]).map (·.id)).Nodup := by
    obtain ⟨-, hcolumns⟩ := List.nodup_cons.1 (hids.draws hdraws).1
    rw [List.cons_append, List.map_cons, List.map_append]
    exact (List.perm_append_comm.cons _).nodup_iff.1 hcolumns
  obtain ⟨left, key, right, hsplit, hkey, hright, hcolumns⟩ := tableColumns_keyed rfl htimes hdistinct
  refine ⟨left, key, right, ?_, hkey, hright, hcolumns ▸ hadded⟩
  rw [List.zipWith_cons_cons, ← hcallers]
  exact hsplit

/-- **The key moves.** If the columns of every table have different ids, however many of them are keys, and the source
hands out new ids: a key that is added to a table, or set on one of its columns, is the only key of the table; the other
columns are as they were but for the constraint, and so is the rest of the schema. A new table has its `id`, the
caller's columns and the two times, and the last key among `id` and the caller's is its only key. -/
theorem key_moves (s : Schema κ) (ids : σ) (hcolumns : ∀ t ∈ s.tables, (t.columns.map (·.id)).Nodup)
    (hids : Fresh s.allIds ids) :
    (∀ tableId t spec, s.table? tableId = some t → .primaryKey ∈ spec.constraints →
      ∃ column, column = spec.build (newId columnLetter ids).1 ∧ OnlyKey column (keyedAt t.columns column []) ∧
        s.WithColumns t (keyedAt t.columns column []) (s.addColumn tableId spec ids).1) ∧
    (∀ tableId columnId t c u, s.table? tableId = some t → t.column? columnId = some c → u.setsPrimaryKey = true →
      ∃ left right, t.columns = left ++ c :: right ∧ OnlyKey (u.apply c) (keyedAt left (u.apply c) right) ∧
        s.WithColumns t (keyedAt left (u.apply c) right) (s.updateColumn tableId columnId u)) ∧
    ∀ name position specs, ∃ tableId keyId createdId updatedId callerIds,
      Draws ids (tableId :: keyId :: createdId :: updatedId :: callerIds) (s.addTable name position specs ids).2 ∧
      callerIds.length = specs.length ∧
      ∃ left key right columns,
        List.zipWith ColumnSpec.build (keySpec :: specs) (keyId :: callerIds) = left ++ key :: right ∧
        key.isPrimaryKey = true ∧ (∀ c ∈ right, c.isPrimaryKey = false) ∧
        columns = keyedAt left key (right ++ List.zipWith ColumnSpec.build timestampSpecs [createdId, updatedId]) ∧
        OnlyKey key columns ∧
        (s.addTable name position specs ids).1 =
          { s with tables := s.tables ++ [⟨tableId, name, position, columns⟩] } := by
  refine ⟨fun tableId t spec hfind hkey => ?_, fun tableId columnId t c u hfind hc hkey => ?_,
    fun name position specs => ?_⟩
  · have hbuilt : (spec.build (newId columnLetter ids).1).isPrimaryKey = true := by
      simpa [ColumnSpec.build_isPrimaryKey] using hkey
    have hkeyed := addColumn_keyed hids (hcolumns t (List.mem_of_find?_eq_some hfind)) hfind hkey
    exact ⟨_, rfl, keyedAt_onlyKey hbuilt _ _, hkeyed⟩
  · obtain ⟨left, right, hsplit, hkeyed⟩ :=
      updateColumn_keyed (hcolumns t (List.mem_of_find?_eq_some hfind)) hfind hc hkey
    exact ⟨left, right, hsplit, keyedAt_onlyKey (ColumnUpdate.apply_isPrimaryKey hkey c) _ _, hkeyed⟩
  · obtain ⟨tableId, keyId, createdId, updatedId, callerIds, hdraws, hlength, left, key, right, hsplit, hkey, hright,
      hadded⟩ := addTable_keyed (hids.mono (List.nil_subset _)) s name position specs
    exact ⟨tableId, keyId, createdId, updatedId, callerIds, hdraws, hlength, left, key, right, _, hsplit, hkey, hright,
      rfl, keyedAt_onlyKey hkey _ _, hadded⟩

end Schema

/-- entries of a ledger, with two keys -/
def ledgerEntries : Table ℚ :=
  ⟨"t_1", "entries", ⟨0, 0⟩, [⟨"c_2", "id", .integer, [.primaryKey, .notNull]⟩,
    ⟨"c_3", "day", .timestamp, [.primaryKey]⟩, ⟨"c_4", "amount", .integer, [.notNull, .unique]⟩]⟩

/-- accounts and their entries -/
def ledger : Schema ℚ :=
  ⟨1, [⟨"t_5", "accounts", ⟨0, 0⟩, [⟨"c_6", "id", .integer, [.primaryKey]⟩]⟩, ledgerEntries], []⟩

/-- a source that knows the ids of `ledger` -/
def ledgerIds : Counting := ⟨"", 0, ledger.allIds⟩

theorem Schema.key_moves_ledger :
    (∀ t ∈ ledger.tables, (t.columns.map (·.id)).Nodup) ∧ Fresh ledger.allIds ledgerIds ∧
      ledger.table? "t_1" = some ledgerEntries ∧
      (∃ column, column = ⟨"c_1", "number", .integer, [.unique, .primaryKey]⟩ ∧
        ledger.WithColumns ledgerEntries
          [⟨"c_2", "id", .integer, [.notNull]⟩, ⟨"c_3", "day", .timestamp, []⟩,
            ⟨"c_4", "amount", .integer, [.notNull, .unique]⟩, column]
          (ledger.addColumn "t_1" ⟨"number", .integer, [.unique, .primaryKey]⟩ ledgerIds).1) ∧
      ∃ left right, ledgerEntries.columns = left ++ ⟨"c_4", "amount", .integer, [.notNull, .unique]⟩ :: right ∧
        OnlyKey ⟨"c_4", "amount", .integer, [.primaryKey]⟩
          (keyedAt left ⟨"c_4", "amount", .integer, [.primaryKey]⟩ right) := by
  have hcolumns : ∀ t ∈ ledger.tables, (t.columns.map (·.id)).Nodup := by decide
  have hids : Fresh ledger.allIds ledgerIds := Counting.fresh_of_subset (List.Subset.refl _)
  have hfind : ledger.table? "t_1" = some ledgerEntries := by decide
  obtain ⟨hadd, hupdate, -⟩ := Schema.key_moves ledger ledgerIds hcolumns hids
  obtain ⟨column, hcolumn, -, hadded⟩ :=
    hadd "t_1" ledgerEntries ⟨"number", .integer, [.unique, .primaryKey]⟩ hfind (by decide)
  obtain ⟨left, right, hsplit, honly, -⟩ :=
    hupdate "t_1" "c_4" ledgerEntries _ ⟨none, none, some [.primaryKey]⟩ hfind rfl rfl
  have hid : (newId columnLetter ledgerIds).1 = "c_1" := by decide
  rw [hid] at hcolumn
  subst hcolumn
  exact ⟨hcolumns, hids, hfind, ⟨_, rfl, hadded⟩, left, right, hsplit, honly⟩

end Crowfoot
