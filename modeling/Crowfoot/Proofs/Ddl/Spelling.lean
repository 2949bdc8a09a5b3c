import Crowfoot.Proofs.Ddl.Resolving
import Crowfoot.Proofs.Schema.Reference
import Crowfoot.Ddl.Script

/-
What the script of a schema spells, and what that declares. A script tells its reader names only, so that tables and
columns are found again by names that differ, where the schema finds them by ids that differ.

- `Command.spelled`: the statement that a command of a script spells in a dialect.
- `Exportable`: the schemas whose names and ids tell tables and columns apart.
- `draftsOf_script`: a script declares the tables of its schema, column by column (`columnDraft`).
- `resolvedKeys_script`: the foreign keys of a script that resolve are the relationships whose ends exist, in order.
-/

namespace Crowfoot

open Ddl

variable {κ : Type}

/-! ## Places in a schema -/

namespace Schema

/-- the table and the column at a place -/
def columnAt? (s : Schema κ) (p : Place) : Option (Table κ × Column) := do
  let t ← s.tables[p.table]?
  let c ← t.columns[p.column]?
  return (t, c)

/-- the place of the column that an end of a relationship names -/
def placeOf? (s : Schema κ) (e : Endpoint) : Option Place := do
  let i ← s.tables.findIdx? (·.id = e.tableId)
  let t ← s.tables[i]?
  let j ← t.columns.findIdx? (·.id = e.columnId)
  return ⟨i, j⟩

/-- the places of the two columns that a relationship joins -/
def placesOf? (s : Schema κ) (r : Relationship) : Option (Place × Place) := do
  let p ← s.placeOf? r.source
  let q ← s.placeOf? r.target
  return (p, q)

end Schema

namespace Ddl

/-- ids tell tables and columns apart, and so do names, those of tables as scripts are read; and no table has two
primary keys -/
structure Exportable (s : Schema κ) : Prop extends s.Identified where
  tableNames : (s.tables.map fun t => nameKey t.name).Nodup
  columnNames : ∀ t ∈ s.tables, (t.columns.map (·.name)).Nodup
  key : ∀ t ∈ s.tables, t.primaryKeys.length ≤ 1

variable {s : Schema κ} {t : Table κ} {c : Column} {p : Place}

theorem columnAt?_eq_some_iff :
    s.columnAt? p = some (t, c) ↔ s.tables[p.table]? = some t ∧ t.columns[p.column]? = some c := by
  simp only [Schema.columnAt?, Option.bind_eq_bind, Option.bind_eq_some_iff]
  constructor
  · rintro ⟨t', ht, c', hc, heq⟩
    cases heq
    exact ⟨ht, hc⟩
  · rintro ⟨ht, hc⟩
    exact ⟨t, ht, c, hc, rfl⟩

/-- an end is at a place exactly if the column there has its ids -/
theorem placeOf?_eq_some_iff (h : s.Identified) {e : Endpoint} :
    s.placeOf? e = some p ↔ ∃ t c, s.columnAt? p = some (t, c) ∧ e = ⟨t.id, c.id⟩ := by
  simp only [Schema.placeOf?, Option.bind_eq_bind, Option.bind_eq_some_iff, columnAt?_eq_some_iff]
  constructor
  · rintro ⟨i, hi, t, ht, j, hj, heq⟩
    cases heq
    obtain ⟨t', ht', hid⟩ := findIdx?_getElem? hi
    obtain ⟨c, hc, hcid⟩ := findIdx?_getElem? hj
    cases ht.symm.trans ht'
    exact ⟨t, c, ⟨ht, hc⟩, by rw [of_decide_eq_true hid, of_decide_eq_true hcid]⟩
  · rintro ⟨t, c, ⟨ht, hc⟩, rfl⟩
    have hcolumns := h.columnIds t (List.mem_of_getElem? ht)
    exact ⟨p.table, findIdx?_of_nodup h.tableIds ht, t, ht, p.column, findIdx?_of_nodup hcolumns hc, rfl⟩

/-- the two ways to find what an end names -/
theorem resolveEnd_eq (h : s.Identified) (e : Endpoint) : resolveEnd s e = (s.placeOf? e).bind s.columnAt? := by
  cases hi : s.tables.findIdx? (·.id = e.tableId) with
  | none =>
    have hreferred : s.referred? e.tableId = none := by
      refine List.find?_eq_none.2 fun t ht => ?_
      simpa using List.findIdx?_eq_none_iff.1 hi t (List.mem_reverse.1 ht)
    simp [resolveEnd, Schema.placeOf?, hreferred, hi]
  | some i =>
    obtain ⟨t, ht, hid⟩ := findIdx?_getElem? hi
    have hreferred : s.referred? e.tableId = some t := by
      rw [← of_decide_eq_true hid]
      exact Schema.referred?_of_mem h.tableIds (List.mem_of_getElem? ht)
    cases hj : t.columns.findIdx? (·.id = e.columnId) with
    | none =>
      simp [resolveEnd, Schema.placeOf?, hreferred, hi, ht, Table.column?, List.find?_eq_bind_findIdx?_getElem?, hj]
    | some j =>
      simp [resolveEnd, Schema.placeOf?, Schema.columnAt?, hreferred, hi, ht, Table.column?,
        List.find?_eq_bind_findIdx?_getElem?, hj]

/-! ## Types -/

/-- the name of a type as it is read in the line of a column, without its size -/
def Dialect.typeName : Dialect → ColumnType → String
  | .mysql, .boolean => "TINYINT"
  | .mysql, .timestamp => "DATETIME"
  | .sqlite, .timestamp => "TEXT"
  | _, .varchar => "VARCHAR"
  | _, .integer => "INT"
  | _, .boolean => "BOOLEAN"
  | _, .text => "TEXT"
  | _, .timestamp => "TIMESTAMP"

/-- the type that a column comes back with -/
def Dialect.returned : Dialect → ColumnType → ColumnType
  | .mysql, .boolean => .varchar
  | .sqlite, .timestamp => .text
  | _, type => type

theorem columnTypeOf_typeName (d : Dialect) (type : ColumnType) : columnTypeOf (d.typeName type) = d.returned type := by
  cases d <;> cases type <;> decide +kernel

/-! ## Spelled statements -/

/-- the column definition that a line spells -/
def ColumnLine.spelled (d : Dialect) (l : ColumnLine) : ColumnDef :=
  ⟨l.name, d.typeName l.type, l.constraints.contains .primaryKey, l.constraints.contains .unique,
    l.constraints.contains .notNull, none⟩

/-- the statement that a command spells: names are what they are, and nothing is added -/
def Command.spelled (d : Dialect) : Command → Statement
  | createTable name columns => .createTable ⟨name, none⟩ (columns.map (ColumnLine.spelled d)) []
  | addForeignKey table constraint column target targetColumn =>
    .alterTable ⟨table, none⟩ [⟨.foreignKey, [column], some ⟨⟨target, none⟩, [targetColumn]⟩, some constraint⟩]

/-- the foreign key that a command adds -/
def Command.pending? : Command → Option PendingKey
  | createTable .. => none
  | addForeignKey table _ column target targetColumn => some ⟨⟨table, none⟩, column, ⟨⟨target, none⟩, [targetColumn]⟩⟩

theorem spelled_columns (d : Dialect) (cs : List Command) :
    ∀ statement ∈ cs.map (Command.spelled d), ∀ k ∈ statement.constraints, k.kind = .foreignKey → k.columns ≠ [] := by
  intro statement hstatement k hk _
  obtain ⟨c, -, rfl⟩ := List.mem_map.1 hstatement
  cases c with
  | createTable => cases hk
  | addForeignKey =>
    rw [List.mem_singleton.1 hk]
    exact List.cons_ne_nil _ _

theorem createdKeys_spelled (d : Dialect) (cs : List Command) : createdKeys (cs.map (Command.spelled d)) = [] := by
  refine List.flatMap_eq_nil_iff.2 fun statement hstatement => ?_
  obtain ⟨c, -, rfl⟩ := List.mem_map.1 hstatement
  cases c <;> rfl

theorem alteredKeys_spelled (d : Dialect) (cs : List Command) :
    alteredKeys (cs.map (Command.spelled d)) = cs.filterMap Command.pending? := by
  induction cs with
  | nil => rfl
  | cons c cs ih =>
    rw [alteredKeys] at ih ⊢
    rw [List.map_cons, List.flatMap_cons, ih]
    cases c <;> rfl

/-! ## Declared tables -/

/-- what a script declares of a column -/
def columnDraft (d : Dialect) (c : Column) : DraftColumn :=
  DraftColumn.ofDef (ColumnLine.spelled d ⟨c.name, c.type, inlineConstraints.filter c.has⟩)

/-- what a script declares of a table -/
def tableDraft (d : Dialect) (t : Table κ) : Draft := ⟨"", ⟨t.name, none⟩, t.columns.map (columnDraft d)⟩

theorem DraftColumn.addIf_same (c : DraftColumn) (b : Bool) (k : Constraint) :
    (c.addIf b k).name = c.name ∧ (c.addIf b k).type = c.type ∧ (c.addIf b k).reference = c.reference := by
  unfold DraftColumn.addIf DraftColumn.add
  split_ifs <;> exact ⟨rfl, rfl, rfl⟩

/-- the line of a column says whether it has a constraint, unless that marks a foreign key -/
theorem columnDraft_contains (d : Dialect) (c : Column) {k : Constraint} (hk : k ≠ .foreignKey) :
    (columnDraft d c).constraints.contains k = c.has k := by
  rw [Bool.eq_iff_iff, List.contains_iff_mem, columnDraft, DraftColumn.mem_ofDef, ColumnLine.spelled]
  cases k with
  | foreignKey => exact absurd rfl hk
  | primaryKey => simp [inlineConstraints]
  | notNull => simp [inlineConstraints]
  | unique => simp [inlineConstraints]

@[simp] theorem columnDraft_name (d : Dialect) (c : Column) : (columnDraft d c).name = c.name := by
  simp only [columnDraft, DraftColumn.ofDef, DraftColumn.addIf_same, ColumnLine.spelled]

theorem columnDraft_type (d : Dialect) (c : Column) : (columnDraft d c).type = d.returned c.type := by
  simp only [columnDraft, DraftColumn.ofDef, DraftColumn.addIf_same, ColumnLine.spelled, columnTypeOf_typeName]

theorem columnDraft_reference (d : Dialect) (c : Column) : (columnDraft d c).reference = none := by
  simp only [columnDraft, DraftColumn.ofDef, DraftColumn.addIf_same, ColumnLine.spelled]

/-- columns of which at most one is a key keep it -/
theorem keepFirstKey_eq_self {cs : List DraftColumn} (h : (cs.filter DraftColumn.isPrimaryKey).length ≤ 1) :
    keepFirstKey cs = cs := by
  induction cs with
  | nil => rfl
  | cons c cs ih =>
    unfold keepFirstKey
    split_ifs with hc
    · rw [List.filter_cons_of_pos hc, List.length_cons] at h
      have hnone : cs.filter DraftColumn.isPrimaryKey = [] := List.length_eq_zero_iff.1 (by omega)
      have hrest : ∀ c' ∈ cs,
          ({ c' with constraints := c'.constraints.filter (· ≠ .primaryKey) } : DraftColumn) = c' := by
        intro c' hc'
        have hno : Constraint.primaryKey ∉ c'.constraints := fun hin =>
          List.filter_eq_nil_iff.1 hnone c' hc' (List.contains_iff_mem.2 hin)
        rw [List.filter_eq_self.2 fun k hk => by simpa using fun heq : k = .primaryKey => hno (heq ▸ hk)]
      rw [List.map_congr_left hrest, List.map_id']
    · rw [List.filter_cons_of_neg hc] at h
      rw [ih h]

theorem draft?_tableCommand (d : Dialect) (hkey : t.primaryKeys.length ≤ 1) :
    ((tableCommand t).spelled d).draft? = some (tableDraft d t) := by
  have hkeys : ((t.columns.map (columnDraft d)).filter DraftColumn.isPrimaryKey).length ≤ 1 := by
    have hsame : DraftColumn.isPrimaryKey ∘ columnDraft d = Column.isPrimaryKey :=
      funext fun c => columnDraft_contains d c (by decide)
    rw [List.filter_map, List.length_map, hsame]
    exact hkey
  simp only [tableCommand, Command.spelled, Statement.draft?, draftTable, List.foldl_nil, List.map_map]
  show some (⟨"", ⟨t.name, none⟩, keepFirstKey (t.columns.map (columnDraft d))⟩ : Draft) = _
  rw [keepFirstKey_eq_self hkeys]
  rfl

/-- **Declared tables.** A script declares the tables of its schema, in order. -/
theorem draftsOf_script (h : Exportable s) (d : Dialect) :
    draftsOf ((script s).map (Command.spelled d)) = s.tables.map (tableDraft d) := by
  have htables : (s.tables.map tableCommand).filterMap (fun c => (c.spelled d).draft?) =
      s.tables.map (tableDraft d) := by
    rw [List.filterMap_map, ← List.filterMap_eq_map]
    exact List.filterMap_congr fun t ht => draft?_tableCommand d (h.key t ht)
  have hkeys : (s.relationships.filterMap (relationshipCommand? s)).filterMap (fun c => (c.spelled d).draft?) = [] := by
    refine List.filterMap_eq_nil_iff.2 fun c hc => ?_
    obtain ⟨r, -, hr⟩ := List.mem_filterMap.1 hc
    simp only [relationshipCommand?, Option.bind_eq_bind, Option.bind_eq_some_iff] at hr
    obtain ⟨_, _, _, _, heq⟩ := hr
    cases heq
    rfl
  rw [draftsOf, List.filterMap_map, script, List.filterMap_append]
  exact (congrArg₂ _ htables hkeys).trans (List.append_nil _)

/-! ## Declared foreign keys -/

/-- a table is found by its name, as no other has one that is read the same -/
theorem lookup_keysFrom (d : Dialect) {ts : List (Table κ)} (h : (ts.map fun t => nameKey t.name).Nodup) {i : ℕ}
    (ht : ts[i]? = some t) (n : ℕ) : (keysFrom n (ts.map (tableDraft d))).lookup (nameKey t.name) = some (n + i) := by
  induction ts generalizing n i with
  | nil => cases ht
  | cons u ts ih =>
    obtain ⟨hne, hnodup⟩ := List.nodup_cons.1 h
    have hkeys : keysFrom n ((u :: ts).map (tableDraft d)) =
        (nameKey u.name, n) :: keysFrom (n + 1) (ts.map (tableDraft d)) := rfl
    rw [hkeys]
    cases i with
    | zero =>
      cases ht
      exact List.lookup_cons_self
    | succ i =>
      have hmem : t ∈ ts := List.mem_of_getElem? (show ts[i]? = some t from ht)
      have hkey : nameKey t.name ≠ nameKey u.name := fun heq => hne (List.mem_map.2 ⟨t, hmem, heq⟩)
      rw [List.lookup_cons, beq_false_of_ne hkey]
      simpa [Nat.add_assoc, Nat.add_comm 1 i] using ih hnodup ht (n + 1)

/-- a column is found by its name, as no other of the table has it -/
theorem columnIndex?_columnDraft (h : (t.columns.map (·.name)).Nodup) (d : Dialect) {j : ℕ}
    (hc : t.columns[j]? = some c) : columnIndex? (t.columns.map (columnDraft d)) c.name = some j := by
  have hexact : (t.columns.map (columnDraft d)).findIdx? (·.name = c.name) = some j := by
    rw [List.findIdx?_map]
    simpa [Function.comp_def] using findIdx?_of_nodup h hc
  rw [columnIndex?, hexact]

/-- the foreign key of a relationship means what the relationship does -/
theorem resolve?_relationshipCommand? (h : Exportable s) (d : Dialect) (r : Relationship) :
    (((relationshipCommand? s r).bind Command.pending?).bind fun k =>
      ((tablePlace? (s.tables.map (tableDraft d)) k.table).map fun i => ⟨i, k.column, k.target⟩).bind
        (resolve? (s.tables.map (tableDraft d)))) = s.placesOf? r := by
  cases hp : s.placeOf? r.source with
  | none => simp [relationshipCommand?, resolveEnd_eq h.toIdentified, Schema.placesOf?, hp]
  | some p =>
    obtain ⟨t, c, hsource, -⟩ := (placeOf?_eq_some_iff h.toIdentified).1 hp
    cases hq : s.placeOf? r.target with
    | none => simp [relationshipCommand?, resolveEnd_eq h.toIdentified, Schema.placesOf?, hp, hq]
    | some q =>
      obtain ⟨t', c', htarget, -⟩ := (placeOf?_eq_some_iff h.toIdentified).1 hq
      obtain ⟨ht, hc⟩ := columnAt?_eq_some_iff.1 hsource
      obtain ⟨ht', hc'⟩ := columnAt?_eq_some_iff.1 htarget
      have hcommand : (relationshipCommand? s r).bind Command.pending? =
          some ⟨⟨t.name, none⟩, c.name, ⟨⟨t'.name, none⟩, [c'.name]⟩⟩ := by
        simp [relationshipCommand?, resolveEnd_eq h.toIdentified, hp, hq, hsource, htarget, Command.pending?]
      have htable : tablePlace? (s.tables.map (tableDraft d)) ⟨t.name, none⟩ = some p.table := by
        simp [tablePlace?, TableRef.qualified, lookup_keysFrom d h.tableNames ht 0]
      have hcolumn := columnIndex?_columnDraft (h.columnNames t (List.mem_of_getElem? ht)) d hc
      have hcolumn' := columnIndex?_columnDraft (h.columnNames t' (List.mem_of_getElem? ht')) d hc'
      rw [hcommand]
      simp [htable, resolve?, TableRef.qualified, lookup_keysFrom d h.tableNames ht' 0, ht, ht', tableDraft, hcolumn,
        targetIndex?, hcolumn', Schema.placesOf?, hp, hq]

/-- **Declared foreign keys.** The foreign keys of a script that resolve are the relationships whose ends exist, in
order. -/
theorem resolvedKeys_script (h : Exportable s) (d : Dialect) :
    resolvedKeys ((script s).map (Command.spelled d)) = s.relationships.filterMap s.placesOf? := by
  have hinline : (s.tables.map (tableDraft d)).zipIdx.flatMap (fun x => x.1.inlineKeys x.2) = [] := by
    refine List.flatMap_eq_nil_iff.2 fun x hx => ?_
    obtain ⟨t, -, ht⟩ := List.mem_map.1 (List.fst_mem_of_mem_zipIdx hx)
    rw [Draft.inlineKeys, ← ht, tableDraft, List.filterMap_map]
    exact List.filterMap_eq_nil_iff.2 fun c _ => by simp [columnDraft_reference]
  have hcommands : (script s).filterMap Command.pending? =
      s.relationships.filterMap fun r => (relationshipCommand? s r).bind Command.pending? := by
    have htables : (s.tables.map tableCommand).filterMap Command.pending? = [] := by
      refine List.filterMap_eq_nil_iff.2 fun c hc => ?_
      obtain ⟨t, -, rfl⟩ := List.mem_map.1 hc
      rfl
    rw [script, List.filterMap_append, htables, List.nil_append, List.filterMap_filterMap]
  rw [resolvedKeys, declaredKeys, draftsOf_script h, createdKeys_spelled, alteredKeys_spelled, hinline, hcommands,
    List.nil_append, List.nil_append, List.filterMap_filterMap, List.filterMap_filterMap]
  exact List.filterMap_congr fun r _ => resolve?_relationshipCommand? h d r

end Ddl

end Crowfoot
