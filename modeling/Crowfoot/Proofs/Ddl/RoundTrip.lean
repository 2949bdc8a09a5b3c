import Crowfoot.Proofs.Ddl.Assembly
import Crowfoot.Proofs.Ddl.Reading
import Crowfoot.Proofs.Ddl.Spelling

/-
Scripts there and back: a schema is written out as a script, and the script is read in the same dialect.

- `Returned`: what comes back. Tables and columns are those of the schema, in order, with the types that a dialect can
  tell apart; a column is marked as a foreign key exactly if a relationship starts from it; and relationships are those
  whose ends exist, each pair of columns once, one-to-one exactly if the source is unique.
- `roundTripWith_returned`: whatever reader takes a script for what it spells, the schema comes back.
- `roundTripWith_forgets_crew`: a second relationship between the same columns does not come back, nor does a type that
  columns do not tell.
-/

namespace Crowfoot

open Ddl IdSupply

variable {κ σ : Type}

/-! ## Relationships by names -/

namespace Ddl

/-- a relationship by the names of its two columns -/
structure NamedKey where
  table : String
  column : String
  targetTable : String
  targetColumn : String
  type : Cardinality
  deriving DecidableEq, Repr

end Ddl

namespace Schema

/-- a relationship whose ends exist, by names -/
def named? (s : Schema κ) (r : Relationship) : Option NamedKey := do
  let (t, c) ← resolveEnd s r.source
  let (t', c') ← resolveEnd s r.target
  return ⟨t.name, c.name, t'.name, c'.name, r.type⟩

/-- what its foreign key tells of it: all but the type, which the source column decides -/
def told? (s : Schema κ) (r : Relationship) : Option NamedKey := do
  let (t, c) ← resolveEnd s r.source
  let (t', c') ← resolveEnd s r.target
  return ⟨t.name, c.name, t'.name, c'.name, if c.has .unique then .oneToOne else .oneToMany⟩

/-- the same, of the columns at two places -/
def keyAt? (s : Schema κ) (k : Place × Place) : Option NamedKey := do
  let (t, c) ← s.columnAt? k.1
  let (t', c') ← s.columnAt? k.2
  return ⟨t.name, c.name, t'.name, c'.name, if c.has .unique then .oneToOne else .oneToMany⟩

end Schema

namespace Ddl

/-! ## What comes back -/

/-- a column that has come back, marked or not -/
structure ColumnReturned (d : Dialect) (marked : Prop) (c c' : Column) : Prop where
  name : c'.name = c.name
  type : c'.type = d.returned c.type
  constraints : ∀ k, k ≠ .foreignKey → c'.has k = c.has k
  mark : c'.has .foreignKey = true ↔ marked

/-- a table that has come back; marked are the columns from which a relationship goes to one that exists -/
structure TableReturned (d : Dialect) (s : Schema κ) (t t' : Table κ) : Prop where
  name : t'.name = t.name
  columns : List.Forall₂ (fun c c' =>
    ColumnReturned d (∃ r ∈ s.relationships, r.source = ⟨t.id, c.id⟩ ∧ s.Resolves r.target) c c') t.columns t'.columns

/-- a schema that has come back -/
structure Returned (d : Dialect) (s s' : Schema κ) : Prop where
  /-- new ids tell its tables and columns apart -/
  ids : s'.Identified
  /-- the tables are as many, in the same order -/
  tables : List.Forall₂ (TableReturned d s) s.tables s'.tables
  /-- the relationships, all of which resolve, are those that resolved, in order of first occurrence -/
  relationships : s'.relationships.map s'.named? = (s.relationships.filterMap s.told?).eraseDups.map some

/-- a schema written out and read again in one dialect -/
def roundTripWith [Coordinate κ] [IdSupply σ] (read : Reader) (s : Schema κ) (dialect : Option String) (ids : σ) :
    Except ImportError (Schema κ × σ) := do
  let sql ← (exportText s dialect).mapError ImportError.unknownDialect
  importTextWith read sql dialect ids

/-! ## Tables -/

variable {s s' : Schema κ} {d : Dialect} {t t' : Table κ} {c c' : Column}

/-- an end of a relationship is at a place exactly if it resolves -/
theorem resolves_iff (hs : s.Identified) {e : Endpoint} : s.Resolves e ↔ ∃ p, s.placeOf? e = some p := by
  simp only [placeOf?_eq_some_iff hs, columnAt?_eq_some_iff]
  constructor
  · rintro ⟨t, ht, htid, c, hc, hcid⟩
    obtain ⟨i, hi⟩ := List.mem_iff_getElem?.1 ht
    obtain ⟨j, hj⟩ := List.mem_iff_getElem?.1 hc
    exact ⟨⟨i, j⟩, t, c, ⟨hi, hj⟩, by rw [htid, hcid]⟩
  · rintro ⟨p, t, c, ⟨ht, hc⟩, rfl⟩
    exact Schema.resolves_of_mem (List.mem_of_getElem? ht) (List.mem_of_getElem? hc)

/-- a relationship starts at a place, and goes somewhere, exactly if it starts from the column there and resolves -/
theorem exists_placesOf?_iff (hs : s.Identified) {p : Place} (hp : s.columnAt? p = some (t, c)) :
    (∃ k ∈ s.relationships.filterMap s.placesOf?, k.1 = p) ↔
      ∃ r ∈ s.relationships, r.source = ⟨t.id, c.id⟩ ∧ s.Resolves r.target := by
  have hplace (r : Relationship) : r.source = ⟨t.id, c.id⟩ ↔ s.placeOf? r.source = some p := by
    rw [placeOf?_eq_some_iff hs, hp]
    simp
  simp only [List.mem_filterMap, Schema.placesOf?, resolves_iff hs, hplace, Option.bind_eq_bind,
    Option.bind_eq_some_iff]
  constructor
  · rintro ⟨k, ⟨r, hr, p, hsource, q, htarget, heq⟩, rfl⟩
    cases heq
    exact ⟨r, hr, hsource, q, htarget⟩
  · rintro ⟨r, hr, hsource, q, htarget⟩
    exact ⟨(p, q), ⟨r, hr, p, hsource, q, htarget, rfl⟩, rfl⟩

variable {l : Linking σ}

/-- a column comes back as it was declared, with a mark where linking left one -/
theorem columnReturned_of_bare {column : DraftColumn} {marked : Prop} (h : column.bare = columnDraft d c)
    (hmark : Constraint.foreignKey ∈ column.constraints ↔ marked) : ColumnReturned d marked c column.column := by
  refine ⟨?_, ?_, fun k hk => ?_, ?_⟩
  · exact (congrArg DraftColumn.name h).trans (columnDraft_name d c)
  · exact (congrArg DraftColumn.type h).trans (columnDraft_type d c)
  · rw [← columnDraft_contains d c hk, ← h, column.bare_contains hk]
    rfl
  · rw [← hmark]
    exact List.contains_iff_mem

theorem tables_returned (hs : Exportable s)
    (hlinked : Linked (s.tables.map (tableDraft d)) (s.relationships.filterMap s.placesOf?) l)
    (hparts : s'.tables.map sameParts = l.drafts.map Draft.parts) :
    List.Forall₂ (TableReturned d s) s.tables s'.tables := by
  have hlen : s.tables.length = s'.tables.length := by
    rw [length_eq_of_map_eq hparts, length_eq_of_map_eq hlinked.bare]
  refine forall₂_of_getElem? hlen fun i t t' ht ht' => ?_
  obtain ⟨draft, hdraft, hname, hcolumns⟩ := table_of_parts hparts ht'
  obtain ⟨u, hu, hbare⟩ := getElem?_of_map_eq hlinked.bare hdraft
  cases ht.symm.trans hu
  have hdrafts : draft.columns.map DraftColumn.bare = t.columns.map (columnDraft d) := congrArg Draft.columns hbare
  have hcolumnsLen : t.columns.length = t'.columns.length := by
    rw [hcolumns, List.length_map, length_eq_of_map_eq hdrafts]
  refine ⟨hname.trans (congrArg (·.table.name) hbare), forall₂_of_getElem? hcolumnsLen fun j c c' hc hc' => ?_⟩
  rw [hcolumns, List.getElem?_map] at hc'
  obtain ⟨column, hcolumn, rfl⟩ := Option.map_eq_some_iff.1 hc'
  obtain ⟨c₀, hc₀, heq⟩ := getElem?_of_map_eq hdrafts hcolumn
  cases hc.symm.trans hc₀
  have hplace : columnAt? l.drafts ⟨i, j⟩ = some column := columnAt?_eq_some.2 ⟨draft, hdraft, hcolumn⟩
  have hfound : s.columnAt? ⟨i, j⟩ = some (t, c) := columnAt?_eq_some_iff.2 ⟨ht, hc⟩
  refine columnReturned_of_bare heq ?_
  rw [hlinked.marks ⟨i, j⟩ column hplace]
  exact exists_placesOf?_iff hs.toIdentified hfound

/-! ## Relationships -/

variable {p q : Place} {e : Endpoint} {k k' : Place × Place}

/-- what stands at a place has the names of what stood there -/
theorem columnAt?_returned (htables : List.Forall₂ (TableReturned d s) s.tables s'.tables)
    (h : s'.columnAt? p = some (t', c')) :
    ∃ t c, s.columnAt? p = some (t, c) ∧ t'.name = t.name ∧ c'.name = c.name := by
  obtain ⟨ht', hc'⟩ := columnAt?_eq_some_iff.1 h
  obtain ⟨t, ht, htable⟩ := forall₂_getElem?_right htables ht'
  obtain ⟨c, hc, hcolumn⟩ := forall₂_getElem?_right htable.columns hc'
  exact ⟨t, c, columnAt?_eq_some_iff.2 ⟨ht, hc⟩, htable.name, hcolumn.name⟩

theorem resolveEnd_of_endAt? (hs : s.Identified) (h : s.endAt? p = some e) :
    ∃ t c, s.columnAt? p = some (t, c) ∧ resolveEnd s e = some (t, c) := by
  simp only [Schema.endAt?, Option.bind_eq_bind, Option.bind_eq_some_iff] at h
  obtain ⟨t, ht, c, hc, heq⟩ := h
  have hfound : s.columnAt? p = some (t, c) := columnAt?_eq_some_iff.2 ⟨ht, hc⟩
  have hplace : s.placeOf? e = some p := (placeOf?_eq_some_iff hs).2 ⟨t, c, hfound, (Option.some.inj heq).symm⟩
  exact ⟨t, c, hfound, by rw [resolveEnd_eq hs, hplace, Option.bind_some, hfound]⟩

theorem linkType_tableDraft (d : Dialect) (h : s.columnAt? p = some (t, c)) :
    linkType (s.tables.map (tableDraft d)) p = if c.has .unique then .oneToOne else .oneToMany := by
  obtain ⟨ht, hc⟩ := columnAt?_eq_some_iff.1 h
  have hcolumn : columnAt? (s.tables.map (tableDraft d)) p = some (columnDraft d c) := by
    simp [columnAt?, ht, tableDraft, hc]
  rw [linkType, hcolumn, Option.any_some, columnDraft_contains d c (by decide)]

/-- a relationship that joins two places is called as they were -/
theorem named?_of_joins (hs' : s'.Identified) (htables : List.Forall₂ (TableReturned d s) s.tables s'.tables)
    {r : Relationship} (hsource : s'.endAt? k.1 = some r.source) (htarget : s'.endAt? k.2 = some r.target)
    (htype : r.type = linkType (s.tables.map (tableDraft d)) k.1) : s'.named? r = s.keyAt? k := by
  obtain ⟨t₁, c₁, hfound₁, hend₁⟩ := resolveEnd_of_endAt? hs' hsource
  obtain ⟨t₂, c₂, hfound₂, hend₂⟩ := resolveEnd_of_endAt? hs' htarget
  obtain ⟨t, c, ht, htname, hcname⟩ := columnAt?_returned htables hfound₁
  obtain ⟨t', c', ht', htname', hcname'⟩ := columnAt?_returned htables hfound₂
  rw [linkType_tableDraft d ht] at htype
  simp [Schema.named?, Schema.keyAt?, hend₁, hend₂, ht, ht', htname, htname', hcname, hcname', htype]

/-- the names of a table and of a column tell their place -/
theorem columnAt?_inj (hs : Exportable s) (hp : s.columnAt? p = some (t, c)) (hq : s.columnAt? q = some (t', c'))
    (htname : t.name = t'.name) (hcname : c.name = c'.name) : p = q := by
  obtain ⟨ht, hc⟩ := columnAt?_eq_some_iff.1 hp
  obtain ⟨ht', hc'⟩ := columnAt?_eq_some_iff.1 hq
  have htable : p.table = q.table := getElem?_map_inj hs.tableNames ht ht' (congrArg nameKey htname)
  rw [htable, ht'] at ht
  cases ht
  have hcolumn : p.column = q.column :=
    getElem?_map_inj (hs.columnNames t (List.mem_of_getElem? ht')) hc hc' hcname
  exact Place.ext htable hcolumn

theorem keyAt?_eq_some_iff {n : NamedKey} : s.keyAt? k = some n ↔ ∃ t c t' c', s.columnAt? k.1 = some (t, c) ∧
    s.columnAt? k.2 = some (t', c') ∧
      n = ⟨t.name, c.name, t'.name, c'.name, if c.has .unique then .oneToOne else .oneToMany⟩ := by
  simp only [Schema.keyAt?, Option.bind_eq_bind, Option.bind_eq_some_iff, Prod.exists]
  constructor
  · rintro ⟨t, c, hp, t', c', hq, heq⟩
    exact ⟨t, c, t', c', hp, hq, (Option.some.inj heq).symm⟩
  · rintro ⟨t, c, t', c', hp, hq, rfl⟩
    exact ⟨t, c, hp, t', c', hq, rfl⟩

theorem keyAt?_inj (hs : Exportable s) {n : NamedKey} (hk : s.keyAt? k = some n) (hk' : s.keyAt? k' = some n) :
    k = k' := by
  obtain ⟨t₁, c₁, t₂, c₂, hp, hq, rfl⟩ := keyAt?_eq_some_iff.1 hk
  obtain ⟨t₁', c₁', t₂', c₂', hp', hq', heq⟩ := keyAt?_eq_some_iff.1 hk'
  obtain ⟨htable, hcolumn, htable', hcolumn', -⟩ := NamedKey.mk.inj heq
  exact Prod.ext (columnAt?_inj hs hp hp' htable hcolumn) (columnAt?_inj hs hq hq' htable' hcolumn')

/-- a relationship tells what stands at its places -/
theorem told?_eq (hs : s.Identified) (r : Relationship) : s.told? r = (s.placesOf? r).bind s.keyAt? := by
  cases hp : s.placeOf? r.source with
  | none => simp [Schema.told?, resolveEnd_eq hs, Schema.placesOf?, hp]
  | some p =>
    cases hq : s.placeOf? r.target with
    | none => simp [Schema.told?, resolveEnd_eq hs, Schema.placesOf?, hp, hq]
    | some q => simp [Schema.told?, resolveEnd_eq hs, Schema.placesOf?, Schema.keyAt?, hp, hq]

theorem exists_keyAt? (hs : s.Identified) {r : Relationship} (hk : s.placesOf? r = some k) :
    ∃ n, s.keyAt? k = some n := by
  simp only [Schema.placesOf?, Option.bind_eq_bind, Option.bind_eq_some_iff] at hk
  obtain ⟨p, hp, q, hq, heq⟩ := hk
  cases heq
  obtain ⟨t, c, hsource, -⟩ := (placeOf?_eq_some_iff hs).1 hp
  obtain ⟨t', c', htarget, -⟩ := (placeOf?_eq_some_iff hs).1 hq
  exact ⟨_, keyAt?_eq_some_iff.2 ⟨t, c, t', c', hsource, htarget, rfl⟩⟩

/-- what relationships tell is what stands at their places -/
theorem map_keyAt? (hs : s.Identified) (rs : List Relationship) :
    (rs.filterMap s.placesOf?).map s.keyAt? = (rs.filterMap s.told?).map some := by
  induction rs with
  | nil => rfl
  | cons r rs ih =>
    cases hk : s.placesOf? r with
    | none =>
      rw [List.filterMap_cons_none hk, List.filterMap_cons_none (by rw [told?_eq hs, hk]; rfl), ih]
    | some k =>
      obtain ⟨n, hn⟩ := exists_keyAt? hs hk
      rw [List.filterMap_cons_some hk, List.filterMap_cons_some (by rw [told?_eq hs, hk]; exact hn), List.map_cons,
        List.map_cons, ih, hn]

theorem relationships_returned (hs : Exportable s) (hs' : s'.Identified)
    (hlinked : Linked (s.tables.map (tableDraft d)) (s.relationships.filterMap s.placesOf?) l)
    (htables : List.Forall₂ (TableReturned d s) s.tables s'.tables)
    (hparts : s'.tables.map sameParts = l.drafts.map Draft.parts)
    (hrelationships : s'.relationships = l.relationships) :
    s'.relationships.map s'.named? = (s.relationships.filterMap s.told?).eraseDups.map some := by
  have hends := endAt?_of_parts hparts
  have hnamed : List.Forall₂ (fun r k => s'.named? r = s.keyAt? k) s'.relationships
      (s.relationships.filterMap s.placesOf?).eraseDups := by
    rw [hrelationships]
    exact hlinked.relationships.imp fun r k hr =>
      named?_of_joins hs' htables ((hends _).trans hr.source) ((hends _).trans hr.target) hr.type
  have hinj : ∀ k ∈ s.relationships.filterMap s.placesOf?, ∀ k' ∈ s.relationships.filterMap s.placesOf?,
      s.keyAt? k = s.keyAt? k' → k = k' := by
    intro k hk k' _ heq
    obtain ⟨r, -, hr⟩ := List.mem_filterMap.1 hk
    obtain ⟨n, hn⟩ := exists_keyAt? hs.toIdentified hr
    exact keyAt?_inj hs hn (heq ▸ hn)
  calc s'.relationships.map s'.named?
      = (s.relationships.filterMap s.placesOf?).eraseDups.map s.keyAt? := by
        rw [← List.forall₂_eq_eq_eq, List.forall₂_map_left_iff, List.forall₂_map_right_iff]
        exact hnamed
    _ = ((s.relationships.filterMap s.placesOf?).map s.keyAt?).eraseDups := (eraseDups_map hinj).symm
    _ = ((s.relationships.filterMap s.told?).map some).eraseDups := by rw [map_keyAt? hs.toIdentified]
    _ = (s.relationships.filterMap s.told?).eraseDups.map some := eraseDups_map fun _ _ _ _ => Option.some.inj

/-! ## There and back -/

/-- a schema of which nothing is written has no tables, and none of its relationships resolves -/
theorem returned_empty (h : script s = []) : Returned d s Schema.empty := by
  rw [script, List.append_eq_nil_iff, List.map_eq_nil_iff] at h
  have htold (r : Relationship) : s.told? r = none := by
    simp [Schema.told?, resolveEnd, Schema.referred?, h.1]
  have hnone : s.relationships.filterMap s.told? = [] := List.filterMap_eq_nil_iff.2 fun r _ => htold r
  refine ⟨⟨List.nodup_nil, List.forall_mem_nil _⟩, ?_, ?_⟩
  · rw [h.1]
    exact List.Forall₂.nil
  · rw [hnone]
    rfl

variable [Coordinate κ] [IdSupply σ]

/-- there and back is assembling what the script spells -/
theorem roundTripWith_eq {read : Reader} {dialect : Option String} (hscript : script s ≠ [])
    (hd : Dialect.resolve? dialect = .ok (some d))
    (hread : read d (render d (script s)) = .ok ((script s).map (Command.spelled d))) (ids : σ) :
    roundTripWith read s dialect ids =
      (assemble ((script s).map (Command.spelled d)) ids).mapError ImportError.assembly := by
  rw [← importTextWith_render hd hscript hread, roundTripWith, exportText_eq hd]
  rw [except_mapError_ok, except_ok_bind]

/-- **There and back.** A schema whose names and ids tell its tables and columns apart comes back from its script, with
any reader that takes the script for what it spells and any source that hands out different ids; only a coordinate
without an integer part can be in the way. -/
theorem roundTripWith_returned (read : Reader) (d : Dialect) (dialect : Option String) (s : Schema κ) (ids : σ)
    (hd : Dialect.resolve? dialect = .ok (some d))
    (hread : read d (render d (script s)) = .ok ((script s).map (Command.spelled d)))
    (hs : Exportable s) (hids : Fresh [] ids) :
    MadeOrUnplaced ImportError.assembly (Returned d s) (roundTripWith read s dialect ids) := by
  by_cases hscript : script s = []
  · have hempty : roundTripWith read s dialect ids = .ok (Schema.empty, ids) := by
      rw [roundTripWith, exportText_eq hd, hscript, except_mapError_ok, except_ok_bind]
      exact importTextWith_render_nil read d dialect ids
    rw [hempty]
    exact MadeOrUnplaced.made ids (returned_empty hscript)
  · rw [roundTripWith_eq hscript hd hread]
    obtain ⟨l, hlinked, hmade⟩ := assemble_linked (κ := κ) (spelled_columns d (script s)) hids
    rw [draftsOf_script hs, resolvedKeys_script hs] at hlinked
    refine (hmade.imp fun s' hs' => ?_).mapError ImportError.assembly
    have hids' := identified_of_parts hlinked.ids hs'.1
    have htables := tables_returned hs hlinked hs'.1
    exact ⟨hids', htables, relationships_returned hs hids' hlinked htables hs'.1 hs'.2⟩

/-- a crew whose members have a boss, said by two relationships of different types between the same columns -/
def crew : Schema ℚ :=
  ⟨1, [⟨"t1", "crew", ⟨0, 0⟩, [⟨"c1", "id", .integer, [.primaryKey]⟩, ⟨"c2", "boss", .integer, []⟩]⟩],
    [⟨"r1", ⟨"t1", "c2"⟩, ⟨"t1", "c1"⟩, .manyToMany⟩, ⟨"r2", ⟨"t1", "c2"⟩, ⟨"t1", "c1"⟩, .oneToMany⟩]⟩

theorem resolve?_mysql : Dialect.resolve? (some "MySQL") = .ok (some .mysql) := by decide +kernel

theorem readStatements_crew :
    readStatements .mysql (render .mysql (script crew)) = .ok ((script crew).map (Command.spelled .mysql)) := by
  decide +kernel

theorem crew_exportable : Exportable crew :=
  ⟨⟨by decide, by decide⟩, by decide +kernel, by decide, by decide⟩

theorem roundTripWith_returned_crew :
    Dialect.resolve? (some "MySQL") = .ok (some .mysql) ∧
      readStatements .mysql (render .mysql (script crew)) = .ok ((script crew).map (Command.spelled .mysql)) ∧
      Exportable crew ∧ Fresh [] (⟨"", 0, []⟩ : Counting) ∧
      MadeOrUnplaced ImportError.assembly (Returned .mysql crew)
        (roundTripWith readStatements crew (some "MySQL") (⟨"", 0, []⟩ : Counting)) := by
  have hids : Fresh [] (⟨"", 0, []⟩ : Counting) := Counting.fresh_of_subset (List.Subset.refl _)
  have hreturned := roundTripWith_returned readStatements .mysql (some "MySQL") crew (⟨"", 0, []⟩ : Counting)
    resolve?_mysql readStatements_crew crew_exportable hids
  exact ⟨resolve?_mysql, readStatements_crew, crew_exportable, hids, hreturned⟩

/-- the two relationships of the crew, both of which resolve, come back as one, which is one-to-many -/
theorem roundTripWith_forgets_crew :
    Dialect.resolve? (some "MySQL") = .ok (some .mysql) ∧
      readStatements .mysql (render .mysql (script crew)) = .ok ((script crew).map (Command.spelled .mysql)) ∧
      Exportable crew ∧ Fresh [] (⟨"", 0, []⟩ : Counting) ∧
      ¬ MadeOrUnplaced ImportError.assembly (fun s' : Schema ℚ =>
          s'.relationships.map s'.named? = crew.relationships.map crew.named?)
        (roundTripWith readStatements crew (some "MySQL") (⟨"", 0, []⟩ : Counting)) := by
  have hids : Fresh [] (⟨"", 0, []⟩ : Counting) := Counting.fresh_of_subset (List.Subset.refl _)
  have hone : (assemble ((script crew).map (Command.spelled .mysql)) (⟨"", 0, []⟩ : Counting) :
      Except AssemblyError (Schema ℚ × Counting)).toOption.map (fun x => x.1.relationships.length) = some 1 := by
    decide +kernel
  refine ⟨resolve?_mysql, readStatements_crew, crew_exportable, hids, fun hmade => ?_⟩
  rw [roundTripWith_eq (by decide) resolve?_mysql readStatements_crew] at hmade
  generalize (assemble _ _ : Except AssemblyError (Schema ℚ × Counting)) = result at hone hmade
  cases result with
  | error => cases hone
  | ok x =>
    obtain ⟨s', ids⟩ := x
    cases hmade with
    | made _ h =>
      have hlength := congrArg List.length h
      have hlength' : s'.relationships.length = 1 := Option.some.inj hone
      rw [List.length_map, List.length_map, hlength'] at hlength
      exact absurd hlength (by decide)

end Ddl

end Crowfoot
