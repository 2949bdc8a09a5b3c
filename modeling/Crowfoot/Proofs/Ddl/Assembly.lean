import Crowfoot.Proofs.Ddl.Linking
import Crowfoot.Proofs.Layout.Arrangement
import Crowfoot.Proofs.Schema.Counting
import Crowfoot.Proofs.Schema.Reference

/-
The schema that statements make.

- `Built`: what it has to do with them. Its tables are the drafts; its relationships are the foreign keys that resolve,
  each pair of columns once; types and marks are as the columns say.
- `Linked.built`: what linking leaves is so built, wherever the tables are put.
- `assemble_built`: statements whose foreign keys have columns do make a schema, unless it cannot be drawn because a
  coordinate has no integer part.
-/

namespace Crowfoot

open Ddl IdSupply

variable {κ : Type}

/-- the end of a relationship that the column at a place is -/
def Schema.endAt? (s : Schema κ) (p : Place) : Option Endpoint := do
  let t ← s.tables[p.table]?
  let c ← t.columns[p.column]?
  return ⟨t.id, c.id⟩

namespace Ddl

/-- what is left of a column without its id and its mark -/
def columnOutline (name : String) (type : ColumnType) (constraints : List Constraint) :
    String × ColumnType × List Constraint :=
  (name, type, constraints.filter (· ≠ .foreignKey))

/-- the name of a table and the outlines of its columns -/
def tableOutline (t : Table κ) : String × List (String × ColumnType × List Constraint) :=
  (t.name, t.columns.map fun c => columnOutline c.name c.type c.constraints)

/-- the same of a draft -/
def Draft.outline (d : Draft) : String × List (String × ColumnType × List Constraint) :=
  (d.table.name, d.columns.map fun c => columnOutline c.name c.type c.constraints)

/-- a schema made of statements -/
structure Built (statements : List Statement) (s : Schema κ) : Prop where
  /-- new ids tell tables and columns apart -/
  ids : s.Identified
  /-- the tables are those created, but for the marks of foreign keys -/
  tables : s.tables.map tableOutline = (draftsOf statements).map Draft.outline
  /-- one relationship for each pair of columns that a foreign key joins, in order of first occurrence -/
  relationships : List.Forall₂ (fun r k => s.endAt? k.1 = some r.source ∧ s.endAt? k.2 = some r.target)
    s.relationships (resolvedKeys statements).eraseDups
  /-- every end is a column of a table -/
  intact : s.Intact
  /-- a relationship is one-to-one if its source is unique, and else one-to-many -/
  type : ∀ r ∈ s.relationships, ∀ t ∈ s.tables, t.id = r.source.tableId → ∀ c ∈ t.columns, c.id = r.source.columnId →
    r.type = if c.has .unique then .oneToOne else .oneToMany
  /-- the columns marked as foreign keys are those that relationships start from -/
  marks : ∀ t ∈ s.tables, ∀ c ∈ t.columns,
    (c.has .foreignKey = true ↔ ∃ r ∈ s.relationships, r.source = ⟨t.id, c.id⟩)

/-! ## What linking leaves -/

/-- what a table keeps of a draft wherever it is put -/
def sameParts (t : Table κ) : String × String × List Column := (t.id, t.name, t.columns)

def Draft.parts (d : Draft) : String × String × List Column := (d.id, d.table.name, d.columns.map DraftColumn.column)

variable {s : Schema κ} {drafts : List Draft}

theorem endAt?_of_parts (h : s.tables.map sameParts = drafts.map Draft.parts) (p : Place) :
    s.endAt? p = Ddl.endAt? drafts p := by
  have hschema : s.endAt? p =
      (s.tables.map sameParts)[p.table]?.bind fun t => t.2.2[p.column]?.map fun c => ⟨t.1, c.id⟩ := by
    rw [List.getElem?_map, Option.bind_map]
    simp only [Schema.endAt?, sameParts, Function.comp_def, Option.bind_eq_bind, Option.map_eq_bind]
    rfl
  have hdrafts : Ddl.endAt? drafts p =
      (drafts.map Draft.parts)[p.table]?.bind fun t => t.2.2[p.column]?.map fun c => ⟨t.1, c.id⟩ := by
    rw [List.getElem?_map, Option.bind_map]
    simp only [Ddl.endAt?, Draft.parts, Function.comp_def, Option.bind_eq_bind, List.getElem?_map, Option.map_eq_bind,
      Option.bind_assoc]
    rfl
  rw [hschema, hdrafts, h]

/-- a table is what became of a draft -/
theorem table_of_parts (h : s.tables.map sameParts = drafts.map Draft.parts) {i : ℕ} {t : Table κ}
    (ht : s.tables[i]? = some t) :
    ∃ d, drafts[i]? = some d ∧ t.name = d.table.name ∧ t.columns = d.columns.map DraftColumn.column := by
  obtain ⟨d, hd, hsame⟩ := getElem?_of_map_eq h ht
  exact ⟨d, hd, congrArg (·.2.1) hsame, congrArg (·.2.2) hsame⟩

/-- a column of a table stands somewhere, and is what became of a draft's -/
theorem exists_place (h : s.tables.map sameParts = drafts.map Draft.parts) {t : Table κ} (ht : t ∈ s.tables)
    {c : Column} (hc : c ∈ t.columns) :
    ∃ p dc, columnAt? drafts p = some dc ∧ c = dc.column ∧ s.endAt? p = some ⟨t.id, c.id⟩ := by
  obtain ⟨i, hi⟩ := List.mem_iff_getElem?.1 ht
  obtain ⟨j, hj⟩ := List.mem_iff_getElem?.1 hc
  obtain ⟨d, hd, -, hcolumns⟩ := table_of_parts h hi
  have hcolumn := hj
  rw [hcolumns, List.getElem?_map] at hcolumn
  obtain ⟨dc, hdc, heq⟩ := Option.map_eq_some_iff.1 hcolumn
  refine ⟨⟨i, j⟩, dc, columnAt?_eq_some.2 ⟨d, hd, hdc⟩, heq.symm, ?_⟩
  simp [Schema.endAt?, hi, hj]

theorem identified_of_parts (h : DistinctIds drafts) (hparts : s.tables.map sameParts = drafts.map Draft.parts) :
    s.Identified := by
  constructor
  · have hids := congrArg (List.map (·.1)) hparts
    have htables := h.tables
    rw [List.map_map] at htables
    simp only [List.map_map] at hids
    exact hids ▸ htables
  · intro t ht
    obtain ⟨i, hi⟩ := List.mem_iff_getElem?.1 ht
    obtain ⟨draft, hdraft, -, hcolumns⟩ := table_of_parts hparts hi
    rw [hcolumns, List.map_map]
    exact h.columns draft.ids (List.mem_map_of_mem (List.mem_of_getElem? hdraft))

theorem resolves_of_endAt? {p : Place} {e : Endpoint} (h : s.endAt? p = some e) : s.Resolves e := by
  simp only [Schema.endAt?, Option.bind_eq_bind, Option.bind_eq_some_iff] at h
  obtain ⟨t, ht, c, hc, heq⟩ := h
  cases heq
  exact Schema.resolves_of_mem (List.mem_of_getElem? ht) (List.mem_of_getElem? hc)

theorem tableOutline_of_parts (h : s.tables.map sameParts = drafts.map Draft.parts) :
    s.tables.map tableOutline = (drafts.map Draft.bare).map Draft.outline := by
  have houtline := congrArg (List.map fun p : String × String × List Column =>
    (p.2.1, p.2.2.map fun c => columnOutline c.name c.type c.constraints)) h
  rw [List.map_map, List.map_map] at houtline
  rw [List.map_map]
  refine houtline.trans (List.map_congr_left fun d _ => ?_)
  simp [Draft.parts, Draft.outline, Draft.bare, DraftColumn.column, DraftColumn.bare, columnOutline]

variable {σ : Type} {statements : List Statement} {l : Linking σ}

theorem Linked.built (h : Linked (draftsOf statements) (resolvedKeys statements) l)
    (htables : s.tables.map sameParts = l.drafts.map Draft.parts) (hrelationships : s.relationships = l.relationships) :
    Built statements s := by
  have hends := endAt?_of_parts htables
  have hjoins : List.Forall₂ (fun r k => s.endAt? k.1 = some r.source ∧ s.endAt? k.2 = some r.target)
      s.relationships (resolvedKeys statements).eraseDups := by
    rw [hrelationships]
    exact h.relationships.imp fun r k hr => ⟨(hends _).trans hr.source, (hends _).trans hr.target⟩
  refine ⟨identified_of_parts h.ids htables, ?_, hjoins, fun r hr => ?_, fun r hr t ht htid c hc hcid => ?_,
    fun t ht c hc => ?_⟩
  · rw [tableOutline_of_parts htables, h.bare]
  · obtain ⟨k, -, hsource, htarget⟩ := forall₂_mem_left hjoins hr
    exact ⟨resolves_of_endAt? hsource, resolves_of_endAt? htarget⟩
  · obtain ⟨k, -, hjoin⟩ := forall₂_mem_left h.relationships (hrelationships ▸ hr)
    obtain ⟨p, dc, hdc, rfl, hp⟩ := exists_place htables ht hc
    have hplace : k.1 = p := by
      refine h.ids.endAt?_inj hjoin.source ?_
      rw [← hends, hp, htid, hcid]
    rw [hjoin.type, hplace, linkType, ← h.bare, columnAt?_bare, hdc, Option.map_some, Option.any_some,
      dc.bare_contains (by decide)]
    rfl
  · obtain ⟨p, dc, hdc, rfl, hp⟩ := exists_place htables ht hc
    have hmark : dc.column.has .foreignKey = true ↔ Constraint.foreignKey ∈ dc.constraints := List.contains_iff_mem
    rw [hmark, h.marks p dc hdc]
    constructor
    · rintro ⟨k, hk, rfl⟩
      obtain ⟨r, hr, hsource, -⟩ := forall₂_mem_right hjoins (List.mem_eraseDups.2 hk)
      exact ⟨r, hr, Option.some.inj (hsource.symm.trans hp)⟩
    · rintro ⟨r, hr, hrsource⟩
      obtain ⟨k, hk, hsource, -⟩ := forall₂_mem_left hjoins hr
      refine ⟨k, List.mem_eraseDups.1 hk, h.ids.endAt?_inj ((hends _).symm.trans hsource) ?_⟩
      rw [← hends, hp, hrsource]

/-! ## Putting tables in their places -/

variable [Coordinate κ]

/-- tables that are put in their places are the same otherwise -/
theorem placed_ok {s' : Schema κ} (h : placed s = .ok s') :
    s'.tables.map sameParts = s.tables.map sameParts ∧ s'.relationships = s.relationships := by
  obtain ⟨places, -, hs'⟩ := except_bind_eq_ok.1 h
  cases hs'
  refine ⟨?_, rfl⟩
  rw [List.map_map]
  refine List.map_congr_left fun t _ => ?_
  simp only [Function.comp_apply]
  split <;> rfl

theorem placed_error (hids : (s.tables.map (·.id)).Nodup) {fault : Layout.Fault String} (h : placed s = .error fault) :
    ∃ (c : NotFinite) (x : κ), Coordinate.floor x = .error c ∧ fault = .notFinite c := by
  rcases except_bind_eq_error.1 h with hdrawing | ⟨places, -, hs'⟩
  · exact Schema.drawing_error hids hdrawing
  · cases hs'

/-- what an attempt to make a schema may give: a schema with some property, or else a fault in the drawing, which is
reported in some way, as some coordinate has no integer part -/
inductive MadeOrUnplaced {ε : Type} (report : AssemblyError → ε) (P : Schema κ → Prop) :
    Except ε (Schema κ × σ) → Prop where
  | made {s : Schema κ} (ids : σ) (h : P s) : MadeOrUnplaced report P (.ok (s, ids))
  | unplaced {c : NotFinite} {x : κ} (h : Coordinate.floor x = .error c) :
    MadeOrUnplaced report P (.error (report (.layout (.notFinite c))))

theorem MadeOrUnplaced.imp {ε : Type} {report : AssemblyError → ε} {P Q : Schema κ → Prop}
    {result : Except ε (Schema κ × σ)} (h : MadeOrUnplaced report P result) (himp : ∀ s, P s → Q s) :
    MadeOrUnplaced report Q result := by
  cases h with
  | made ids h => exact MadeOrUnplaced.made ids (himp _ h)
  | unplaced h => exact MadeOrUnplaced.unplaced h

theorem MadeOrUnplaced.mapError {ε ε' : Type} {report : AssemblyError → ε} {P : Schema κ → Prop}
    {result : Except ε (Schema κ × σ)} (h : MadeOrUnplaced report P result) (f : ε → ε') :
    MadeOrUnplaced (f ∘ report) P (result.mapError f) := by
  cases h with
  | made ids h => exact MadeOrUnplaced.made ids h
  | unplaced h => exact MadeOrUnplaced.unplaced h

/-- the schema of what linking leaves, before its tables are put in their places -/
def Linking.schema (l : Linking σ) : Schema κ := ⟨1, l.drafts.map Draft.tableAt, l.relationships⟩

theorem Linking.schema_parts (l : Linking σ) : (l.schema : Schema κ).tables.map sameParts = l.drafts.map Draft.parts :=
  List.map_map

theorem Linked.schema_ids {plain : List Draft} {done : List (Place × Place)} {l : Linking σ}
    (h : Linked plain done l) : ((l.schema : Schema κ).tables.map (·.id)).Nodup :=
  (identified_of_parts h.ids l.schema_parts).1

variable [IdSupply σ]

/-- what is left to do after linking -/
theorem assemble_eq_placed {statements : List Statement} {ids : σ} {l : Linking σ} (hl : linked statements ids = .ok l) :
    (assemble statements ids : Except AssemblyError (Schema κ × σ)) =
      ((placed l.schema).mapError AssemblyError.layout).map fun s => (s, l.ids) := by
  rw [assemble, hl]
  rfl

/-- a schema is assembled of what linking leaves -/
theorem assemble_of_linked {statements : List Statement} {ids : σ} {l : Linking σ} {plain : List Draft}
    {done : List (Place × Place)} (hl : linked statements ids = .ok l) (hlinked : Linked plain done l) :
    MadeOrUnplaced id (fun s : Schema κ => s.tables.map sameParts = l.drafts.map Draft.parts ∧
      s.relationships = l.relationships) (assemble statements ids : Except AssemblyError (Schema κ × σ)) := by
  rw [assemble_eq_placed hl]
  cases hplaced : placed (l.schema : Schema κ) with
  | ok s =>
    obtain ⟨htables, hrelationships⟩ := placed_ok hplaced
    exact MadeOrUnplaced.made l.ids ⟨htables.trans l.schema_parts, hrelationships⟩
  | error fault =>
    obtain ⟨c, x, hfloor, rfl⟩ := placed_error hlinked.schema_ids hplaced
    exact MadeOrUnplaced.unplaced hfloor

theorem assemble_linked {statements : List Statement} {ids : σ}
    (hcolumns : ∀ statement ∈ statements, ∀ c ∈ statement.constraints, c.kind = .foreignKey → c.columns ≠ [])
    (hids : Fresh [] ids) :
    ∃ l : Linking σ, Linked (draftsOf statements) (resolvedKeys statements) l ∧
      MadeOrUnplaced id (fun s : Schema κ => s.tables.map sameParts = l.drafts.map Draft.parts ∧
        s.relationships = l.relationships) (assemble statements ids : Except AssemblyError (Schema κ × σ)) := by
  obtain ⟨l, hl, hlinked⟩ := linked_spec (not_keyless hcolumns) hids
  exact ⟨l, hlinked, assemble_of_linked hl hlinked⟩

/-- a foreign key over no columns leaves no schema -/
theorem assemble_keyless {statements : List Statement} (h : Keyless statements) (ids : σ) :
    (assemble statements ids : Except AssemblyError (Schema κ × σ)) = .error .noColumns := by
  rw [assemble, linked, foreignKeys_error h]
  rfl

/-- statements either have a foreign key over no columns, and make nothing, or are linked and make what linking
leaves -/
theorem assemble_cases (statements : List Statement) {ids : σ} (hids : Fresh [] ids) :
    (Keyless statements ∧ (assemble statements ids : Except AssemblyError (Schema κ × σ)) = .error .noColumns) ∨
      ¬ Keyless statements ∧ ∃ l : Linking σ, linked statements ids = .ok l ∧
        Linked (draftsOf statements) (resolvedKeys statements) l ∧
        MadeOrUnplaced id (fun s : Schema κ => s.tables.map sameParts = l.drafts.map Draft.parts ∧
          s.relationships = l.relationships) (assemble statements ids : Except AssemblyError (Schema κ × σ)) := by
  by_cases hkeyless : Keyless statements
  · exact Or.inl ⟨hkeyless, assemble_keyless hkeyless ids⟩
  · obtain ⟨l, hl, hlinked⟩ := linked_spec hkeyless hids
    exact Or.inr ⟨hkeyless, l, hl, hlinked, assemble_of_linked hl hlinked⟩

/-- **Assembled schemas.** Statements whose foreign keys have columns make a schema that is built of them, with any
source that hands out different ids; only a coordinate without an integer part can be in the way. -/
theorem assemble_built (statements : List Statement) (ids : σ)
    (hcolumns : ∀ statement ∈ statements, ∀ c ∈ statement.constraints, c.kind = .foreignKey → c.columns ≠ [])
    (hids : Fresh [] ids) :
    MadeOrUnplaced id (Built statements) (assemble statements ids : Except AssemblyError (Schema κ × σ)) := by
  obtain ⟨l, hlinked, hmade⟩ := assemble_linked (κ := κ) hcolumns hids
  exact hmade.imp fun s hs => hlinked.built hs.1 hs.2

/-- orders with a column definition that refers to a table, and the same foreign key twice more: among the constraints
of the table, in another spelling, and added later; one more refers to nothing -/
def orderStatements : List Statement :=
  [.createTable ⟨"people", none⟩ [⟨"id", "INT", true, false, true, none⟩] [],
    .createTable ⟨"orders", some "shop"⟩
      [⟨"number", "INT", false, false, true, none⟩, ⟨"person", "INT", false, true, false, some ⟨⟨"people", none⟩, []⟩⟩]
      [⟨.primaryKey, ["number"], none, none⟩, ⟨.foreignKey, ["Person"], some ⟨⟨"People", none⟩, ["ID"]⟩, none⟩],
    .alterTable ⟨"orders", none⟩
      [⟨.foreignKey, ["person"], some ⟨⟨"people", none⟩, ["id"]⟩, none⟩,
        ⟨.foreignKey, ["number"], some ⟨⟨"parcels", none⟩, []⟩, none⟩,
        ⟨.foreignKey, ["number"], some ⟨⟨"shop.orders", none⟩, ["person"]⟩, none⟩]]

theorem assemble_built_orders :
    (∀ statement ∈ orderStatements, ∀ c ∈ statement.constraints, c.kind = .foreignKey → c.columns ≠ []) ∧
      Fresh [] (⟨"", 0, []⟩ : Counting) ∧
      (resolvedKeys orderStatements).eraseDups = [(⟨1, 1⟩, ⟨0, 0⟩), (⟨1, 0⟩, ⟨1, 1⟩)] ∧
      MadeOrUnplaced id (Built orderStatements)
        (assemble orderStatements ⟨"", 0, []⟩ : Except AssemblyError (Schema ℚ × Counting)) := by
  have hcolumns : ∀ statement ∈ orderStatements, ∀ c ∈ statement.constraints,
      c.kind = .foreignKey → c.columns ≠ [] := by
    simp [orderStatements, Statement.constraints]
  have hids : Fresh [] (⟨"", 0, []⟩ : Counting) := Counting.fresh_of_subset (List.Subset.refl _)
  have hresolved : (resolvedKeys orderStatements).eraseDups = [(⟨1, 1⟩, ⟨0, 0⟩), (⟨1, 0⟩, ⟨1, 1⟩)] := by decide +kernel
  have hbuilt := assemble_built (κ := ℚ) (σ := Counting) orderStatements ⟨"", 0, []⟩ hcolumns hids
  exact ⟨hcolumns, hids, hresolved, hbuilt⟩

end Ddl

end Crowfoot
