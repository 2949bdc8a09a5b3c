import Crowfoot.Proofs.Action.Integrity
import Crowfoot.Proofs.Schema.Key

/-
Links between columns that are given by their names. A link is made as a whole or not at all: where a name means
nothing it is refused before anything is done, and after that nothing is in its way.

- `Table.updateColumn_alone`: where no other column is a key, an update changes its column only.
- `Schema.WithColumns.tableNamed?`, `Table.columnNamed?_append`: a table is found by its name again when it has other
  columns, and so is a column that was added because there was none of its name.
- `Schema.sourceOfLink_marked`, `Schema.sourceOfLink_created`: the column that a link starts from, found or made.
- `Schema.addNamedLink_whole`: what becomes of a schema.
-/

namespace Crowfoot

open IdSupply
open Crowfoot.Action (orders ordersIds)

variable {κ σ : Type}

/-! ## Columns -/

/-- of columns with one key at most, the others beside a key are none -/
theorem others_of_key {left right : List Column} {c : Column} (hc : c.isPrimaryKey = true)
    (h : ((left ++ c :: right).filter Column.isPrimaryKey).length ≤ 1) :
    (∀ d ∈ left, d.isPrimaryKey = false) ∧ ∀ d ∈ right, d.isPrimaryKey = false := by
  rw [List.filter_append, List.filter_cons_of_pos hc, List.length_append, List.length_cons] at h
  have hleft : left.filter Column.isPrimaryKey = [] := List.eq_nil_of_length_eq_zero (by omega)
  have hright : right.filter Column.isPrimaryKey = [] := List.eq_nil_of_length_eq_zero (by omega)
  exact ⟨filter_isPrimaryKey_eq_nil.1 hleft, filter_isPrimaryKey_eq_nil.1 hright⟩

/-- an update that sets no key which its column was not before is an update of this column only -/
theorem Table.updateColumn_alone {t : Table κ} {columnId : String} {c : Column} {u : ColumnUpdate}
    (hids : (t.columns.map (·.id)).Nodup) (hkeys : t.primaryKeys.length ≤ 1) (hfind : t.column? columnId = some c)
    (hkey : u.setsPrimaryKey = true → c.isPrimaryKey = true) :
    ∃ left right, t.columns = left ++ c :: right ∧
      t.updateColumn columnId u = { t with columns := left ++ u.apply c :: right } := by
  obtain ⟨left, right, hsplit, hupdate⟩ := Table.updateColumn_around hids hfind u
  refine ⟨left, right, hsplit, ?_⟩
  split_ifs at hupdate with hset
  · rw [Table.primaryKeys, hsplit] at hkeys
    obtain ⟨hleft, hright⟩ := others_of_key (hkey hset) hkeys
    rw [hupdate, keyedAt, map_without_eq_self hleft, map_without_eq_self hright]
  · exact hupdate

/-- the column as a foreign key; one that is a foreign key stays as it is -/
def Column.asForeignKey (c : Column) : Column :=
  if c.has .foreignKey then c else { c with constraints := c.constraints ++ [.foreignKey] }

/-! ## Names -/

/-- a new column is found by its name, if no other column was -/
theorem Table.columnNamed?_append {t : Table κ} {name : String} (h : t.columnNamed? name = none) {c : Column}
    (hc : c.name = name) : Table.columnNamed? { t with columns := t.columns ++ [c] } name = some c := by
  rw [columnNamed?] at h ⊢
  rw [List.find?_append, h, Option.none_or]
  exact List.find?_cons_of_pos (by simp [hc])

namespace Schema

variable {s s' : Schema κ} {t : Table κ}

theorem columnNamed?_of_table {tableName : String} (h : s.tableNamed? tableName = some t) (columnName : String) :
    s.columnNamed? tableName columnName = (t.columnNamed? columnName).map fun c => (t, c) := by
  simp only [columnNamed?, h, Option.bind_eq_bind, Option.bind_some]
  cases t.columnNamed? columnName <;> rfl

/-- a table is found by its name again when it has other columns -/
theorem WithColumns.tableNamed? {columns : List Column} {name : String} (h : s.WithColumns t columns s')
    (hnamed : s.tableNamed? name = some t) : s'.tableNamed? name = some { t with columns := columns } := by
  obtain ⟨before, after, htables, hbefore, rfl⟩ := h
  have hname : decide (Text.lower t.name = Text.lower name) = true :=
    List.find?_some (p := fun u : Table κ => Text.lower u.name = Text.lower name) hnamed
  rw [Schema.tableNamed?, htables, List.find?_append] at hnamed
  have hnone : before.find? (fun u => Text.lower u.name = Text.lower name) = none := by
    cases hfirst : before.find? (fun u => Text.lower u.name = Text.lower name) with
    | none => rfl
    | some u =>
      rw [hfirst] at hnamed
      obtain rfl : u = t := Option.some.inj hnamed
      exact absurd rfl (hbefore u (List.mem_of_find?_eq_some hfirst))
  rw [Schema.tableNamed?, List.find?_append, hnone, Option.none_or]
  exact List.find?_cons_of_pos hname

/-! ## Where a link starts -/

variable [IdSupply σ] {link : NamedLink}

/-- a link that finds a column of the name starts from it, and makes it a foreign key -/
theorem sourceOfLink_marked (hs : s.Identified) (hkeys : ∀ t ∈ s.tables, t.primaryKeys.length ≤ 1)
    (ht : s.tableNamed? link.sourceTable = some t) {c : Column} (hc : t.columnNamed? link.sourceColumn = some c)
    (target : Column) (ids : σ) :
    ∃ left right s', t.columns = left ++ c :: right ∧ s.WithColumns t (left ++ c.asForeignKey :: right) s' ∧
      s.sourceOfLink link target ids = (⟨s', ids, []⟩, some (t, c)) := by
  have htmem : t ∈ s.tables := List.mem_of_find?_eq_some ht
  have hcmem : c ∈ t.columns := List.mem_of_find?_eq_some hc
  have hfind := hs.table? htmem
  unfold sourceOfLink
  rw [columnNamed?_of_table ht, hc]
  by_cases hmarked : c.has .foreignKey = true
  · obtain ⟨left, right, hsplit⟩ := List.append_of_mem hcmem
    have hsame : s.WithColumns t (left ++ c.asForeignKey :: right) s := by
      obtain ⟨before, after, htables, hbefore, -⟩ := mapTable_withColumns (f := fun u => u) hfind rfl
      refine ⟨before, after, htables, hbefore, ?_⟩
      rw [Column.asForeignKey, if_pos hmarked, ← hsplit, ← htables]
    exact ⟨left, right, s, hsplit, hsame, by simp [hmarked]⟩
  · have hkey : (ColumnUpdate.mk none none (some (c.constraints ++ [.foreignKey]))).setsPrimaryKey = true →
        c.isPrimaryKey = true := by
      simp [ColumnUpdate.setsPrimaryKey, Column.isPrimaryKey, Column.has]
    obtain ⟨left, right, hsplit, hupdate⟩ :=
      Table.updateColumn_alone (hs.columnIds t htmem) (hkeys t htmem) (hs.column? htmem hcmem) hkey
    refine ⟨left, right, _, hsplit, mapTable_withColumns hfind ?_, by simp only [Option.map_some, hmarked]; rfl⟩
    rw [hupdate, Column.asForeignKey, if_neg hmarked]
    rfl

/-- a link that finds a table but no column of the name makes the column, and finds it there -/
theorem sourceOfLink_created (hs : s.Identified) (ht : s.tableNamed? link.sourceTable = some t)
    (hnone : t.columnNamed? link.sourceColumn = none) (target : Column) (ids : σ) :
    ∃ made s', made = ⟨(newId columnLetter ids).1, link.sourceColumn, target.type, [.foreignKey, .notNull]⟩ ∧
      s.WithColumns t (t.columns ++ [made]) s' ∧
      s.sourceOfLink link target ids =
        (⟨s', (newId columnLetter ids).2, []⟩, some ({ t with columns := t.columns ++ [made] }, made)) := by
  obtain ⟨hwith, hids⟩ := addColumn_eq (hs.table? (List.mem_of_find?_eq_some ht))
    ⟨link.sourceColumn, target.type, [.foreignKey, .notNull]⟩ ids
  generalize hadded : s.addColumn t.id ⟨link.sourceColumn, target.type, [.foreignKey, .notNull]⟩ ids = added
    at hwith hids
  obtain ⟨s', ids'⟩ := added
  obtain rfl : ids' = _ := hids
  generalize hmade : ColumnSpec.build _ _ = made at hwith
  rw [appendColumn, if_neg (by simp [← hmade, ColumnSpec.build_isPrimaryKey])] at hwith
  refine ⟨made, s', hmade.symm, hwith, ?_⟩
  -- the name is looked up again, and means the new column
  have hname : made.name = link.sourceColumn := by rw [← hmade, ColumnSpec.build]
  have hfound := columnNamed?_of_table (hwith.tableNamed? ht) link.sourceColumn
  rw [Table.columnNamed?_append hnone hname] at hfound
  simp only [sourceOfLink, columnNamed?_of_table ht, hnone, Option.map_none, ht, hadded, hfound, Option.map_some]

/-! ## Links -/

/-- a link without a target is refused -/
theorem addNamedLink_untargeted (h : s.columnNamed? link.targetTable link.targetColumn = none) (ids : σ) :
    s.addNamedLink link ids = ⟨s, ids, [.targetColumnNotFound link.targetTable link.targetColumn]⟩ := by
  simp only [addNamedLink, h]

/-- a link without a table to start from is refused -/
theorem addNamedLink_unsourced {target : Table κ × Column}
    (htarget : s.columnNamed? link.targetTable link.targetColumn = some target)
    (ht : s.tableNamed? link.sourceTable = none) (ids : σ) :
    s.addNamedLink link ids = ⟨s, ids, [.sourceTableNotFound link.sourceTable]⟩ := by
  have hnone : s.columnNamed? link.sourceTable link.sourceColumn = none := by simp [columnNamed?, ht]
  simp only [addNamedLink, htarget, sourceOfLink, hnone, ht]

/-- a link with both ends is made -/
theorem addNamedLink_made {targetTable sourceTable : Table κ} {target source : Column} {ids : σ} {found : Applied κ σ}
    (htarget : s.columnNamed? link.targetTable link.targetColumn = some (targetTable, target))
    (hsource : s.sourceOfLink link target ids = (found, some (sourceTable, source))) :
    s.addNamedLink link ids =
      ⟨{ found.schema with relationships := found.schema.relationships ++
          [⟨(newId relationshipLetter found.ids).1, ⟨sourceTable.id, source.id⟩, ⟨targetTable.id, target.id⟩,
            link.type⟩] },
        (newId relationshipLetter found.ids).2, found.warnings⟩ := by
  simp only [addNamedLink, htarget, hsource, addRelationship]

theorem addNamedLink_marked (hs : s.Identified) (hkeys : ∀ t ∈ s.tables, t.primaryKeys.length ≤ 1)
    {targetTable : Table κ} {target c : Column}
    (htarget : s.columnNamed? link.targetTable link.targetColumn = some (targetTable, target))
    (ht : s.tableNamed? link.sourceTable = some t) (hc : t.columnNamed? link.sourceColumn = some c) (ids : σ) :
    ∃ left right s', t.columns = left ++ c :: right ∧ s.WithColumns t (left ++ c.asForeignKey :: right) s' ∧
      s.addNamedLink link ids =
        ⟨{ s' with relationships := s.relationships ++
            [⟨(newId relationshipLetter ids).1, ⟨t.id, c.id⟩, ⟨targetTable.id, target.id⟩, link.type⟩] },
          (newId relationshipLetter ids).2, []⟩ := by
  obtain ⟨left, right, s', hsplit, hwith, hsource⟩ := sourceOfLink_marked hs hkeys ht hc target ids
  have hmade := addNamedLink_made htarget hsource
  rw [hwith.relationships] at hmade
  exact ⟨left, right, s', hsplit, hwith, hmade⟩

theorem addNamedLink_created (hs : s.Identified) {targetTable : Table κ} {target : Column}
    (htarget : s.columnNamed? link.targetTable link.targetColumn = some (targetTable, target))
    (ht : s.tableNamed? link.sourceTable = some t) (hnone : t.columnNamed? link.sourceColumn = none) (ids : σ) :
    ∃ made s' ids', made = ⟨(newId columnLetter ids).1, link.sourceColumn, target.type, [.foreignKey, .notNull]⟩ ∧
      ids' = (newId columnLetter ids).2 ∧ s.WithColumns t (t.columns ++ [made]) s' ∧
      s.addNamedLink link ids =
        ⟨{ s' with relationships := s.relationships ++
            [⟨(newId relationshipLetter ids').1, ⟨t.id, made.id⟩, ⟨targetTable.id, target.id⟩, link.type⟩] },
          (newId relationshipLetter ids').2, []⟩ := by
  obtain ⟨made, s', hmade, hwith, hsource⟩ := sourceOfLink_created hs ht hnone target ids
  have hlinked := addNamedLink_made htarget hsource
  rw [hwith.relationships] at hlinked
  exact ⟨made, s', _, hmade, rfl, hwith, hlinked⟩

/-- **A link is made as a whole or not at all.** In the schema the ids of tables are different, and so are those of the
columns of each, and no table has two keys. If the names mean no target column or no source table, the schema stays and
no id is drawn. Otherwise the link is the last relationship, from the first column of the name in the source table to
the first one in the target table. The former is a foreign key then; if there was none, it is new and stands last.
Nothing else changes, and it does not happen that a column is made and then not found. -/
theorem addNamedLink_whole (s : Schema κ) (hs : s.Identified) (hkeys : ∀ t ∈ s.tables, t.primaryKeys.length ≤ 1)
    (link : NamedLink) (ids : σ) :
    (s.columnNamed? link.targetTable link.targetColumn = none →
      s.addNamedLink link ids = ⟨s, ids, [.targetColumnNotFound link.targetTable link.targetColumn]⟩) ∧
    (∀ found, s.columnNamed? link.targetTable link.targetColumn = some found →
      s.tableNamed? link.sourceTable = none →
      s.addNamedLink link ids = ⟨s, ids, [.sourceTableNotFound link.sourceTable]⟩) ∧
    (∀ targetTable target t c, s.columnNamed? link.targetTable link.targetColumn = some (targetTable, target) →
      s.tableNamed? link.sourceTable = some t → t.columnNamed? link.sourceColumn = some c →
      ∃ left right s', t.columns = left ++ c :: right ∧ s.WithColumns t (left ++ c.asForeignKey :: right) s' ∧
        s.addNamedLink link ids =
          ⟨{ s' with relationships := s.relationships ++
              [⟨(newId relationshipLetter ids).1, ⟨t.id, c.id⟩, ⟨targetTable.id, target.id⟩, link.type⟩] },
            (newId relationshipLetter ids).2, []⟩) ∧
    (∀ targetTable target t, s.columnNamed? link.targetTable link.targetColumn = some (targetTable, target) →
      s.tableNamed? link.sourceTable = some t → t.columnNamed? link.sourceColumn = none →
      ∃ made s' ids', made = ⟨(newId columnLetter ids).1, link.sourceColumn, target.type, [.foreignKey, .notNull]⟩ ∧
        ids' = (newId columnLetter ids).2 ∧ s.WithColumns t (t.columns ++ [made]) s' ∧
        s.addNamedLink link ids =
          ⟨{ s' with relationships := s.relationships ++
              [⟨(newId relationshipLetter ids').1, ⟨t.id, made.id⟩, ⟨targetTable.id, target.id⟩, link.type⟩] },
            (newId relationshipLetter ids').2, []⟩) ∧
    ∀ table column, .keyColumnNotCreated table column ∉ (s.addNamedLink link ids).warnings := by
  refine ⟨fun htarget => addNamedLink_untargeted htarget ids, fun _ htarget ht => addNamedLink_unsourced htarget ht ids,
    fun _ _ _ _ htarget ht hc => addNamedLink_marked hs hkeys htarget ht hc ids,
    fun _ _ _ htarget ht hnone => addNamedLink_created hs htarget ht hnone ids, fun table column => ?_⟩
  cases htarget : s.columnNamed? link.targetTable link.targetColumn with
  | none => simp [addNamedLink_untargeted htarget ids]
  | some found =>
    cases ht : s.tableNamed? link.sourceTable with
    | none => simp [addNamedLink_unsourced htarget ht ids]
    | some t =>
      cases hc : t.columnNamed? link.sourceColumn with
      | none =>
        obtain ⟨_, _, _, -, -, -, hmade⟩ := addNamedLink_created hs htarget ht hc ids
        simp [hmade]
      | some c =>
        obtain ⟨_, _, _, -, -, hmade⟩ := addNamedLink_marked hs hkeys htarget ht hc ids
        simp [hmade]

end Schema

/-- the customers of `orders` -/
def customers : Table ℚ := ⟨"t_1", "customers", ⟨0, 0⟩, [⟨"c_2", "id", .integer, [.primaryKey, .notNull]⟩]⟩

theorem Schema.addNamedLink_whole_orders :
    orders.Identified ∧ (∀ t ∈ orders.tables, t.primaryKeys.length ≤ 1) ∧
      (orders.addNamedLink ⟨"shops", "id", "orders", "customer_id", .oneToOne⟩ ordersIds).schema = orders ∧
      (∃ left right s', customers.columns = left ++ ⟨"c_2", "id", .integer, [.primaryKey, .notNull]⟩ :: right ∧
        orders.WithColumns customers
          (left ++ ⟨"c_2", "id", .integer, [.primaryKey, .notNull, .foreignKey]⟩ :: right) s' ∧
        (orders.addNamedLink ⟨"Customers", "ID", "ORDERS", "customer_id", .oneToOne⟩ ordersIds).schema =
          { s' with relationships := orders.relationships ++
              [⟨"r_1", ⟨"t_1", "c_2"⟩, ⟨"t_3", "c_4"⟩, .oneToOne⟩] }) ∧
      ∃ s', orders.WithColumns customers
          (customers.columns ++ [⟨"c_1", "last_order", .integer, [.foreignKey, .notNull]⟩]) s' ∧
        (orders.addNamedLink ⟨"Customers", "last_order", "ORDERS", "customer_id", .oneToOne⟩ ordersIds).schema =
          { s' with relationships := orders.relationships ++
              [⟨"r_2", ⟨"t_1", "c_1"⟩, ⟨"t_3", "c_4"⟩, .oneToOne⟩] } := by
  have hs : orders.Identified := ⟨by decide, by decide⟩
  have hkeys : ∀ t ∈ orders.tables, t.primaryKeys.length ≤ 1 := by decide
  obtain ⟨-, hrefused, -⟩ := addNamedLink_whole orders hs hkeys
    ⟨"shops", "id", "orders", "customer_id", .oneToOne⟩ ordersIds
  obtain ⟨-, -, hmarked, -⟩ := addNamedLink_whole orders hs hkeys
    ⟨"Customers", "ID", "ORDERS", "customer_id", .oneToOne⟩ ordersIds
  obtain ⟨-, -, -, hcreated, -⟩ := addNamedLink_whole orders hs hkeys
    ⟨"Customers", "last_order", "ORDERS", "customer_id", .oneToOne⟩ ordersIds
  have hcolumnId : (newId columnLetter ordersIds).1 = "c_1" := by decide
  refine ⟨hs, hkeys, ?_, ?_, ?_⟩
  · rw [hrefused _ (by cbv) (by cbv)]
  · obtain ⟨left, right, s', hsplit, hwith, hmade⟩ := hmarked _ _ customers _ (by cbv) (by cbv) (by cbv)
    refine ⟨left, right, s', hsplit, hwith, ?_⟩
    rw [hmade]
    rfl
  · obtain ⟨_, s', _, rfl, rfl, hwith, hmade⟩ := hcreated _ _ customers (by cbv) (by cbv) (by cbv)
    rw [hcolumnId] at hwith hmade
    refine ⟨s', hwith, ?_⟩
    rw [hmade]
    rfl

end Crowfoot
