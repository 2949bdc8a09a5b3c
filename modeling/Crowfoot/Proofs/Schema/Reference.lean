import Crowfoot.Proofs.Items
import Crowfoot.Proofs.Schema.Junction
import Crowfoot.Proofs.Schema.Validity

/-
Relationships whose ends exist. An end resolves when some table has its table id and some column of that table has its
column id; a schema is intact when all ends of its relationships resolve.

- `Intact.keeps`: an edit after which every end resolves that did before, and that adds no relationship, keeps a schema
  intact. All edits but the removals are of this kind.
- `Intact.removeTable`, `Intact.removeColumn`: a removal takes along the relationships with an end on what is removed.
- `Intact.junction`: the links of a junction resolve, as the new table and the keys of its parents are found by ids
  that no other table has.
- `Intact.missing_notMem`: an intact schema with different ids has no issue about a missing end.
-/

namespace Crowfoot

open IdSupply

variable {κ σ : Type}

namespace Schema

/-- the end names a table and a column of that table -/
def Resolves (s : Schema κ) (e : Endpoint) : Prop :=
  ∃ t ∈ s.tables, t.id = e.tableId ∧ ∃ c ∈ t.columns, c.id = e.columnId

/-- both ends of every relationship resolve -/
def Intact (s : Schema κ) : Prop := ∀ r ∈ s.relationships, s.Resolves r.source ∧ s.Resolves r.target

/-- ids tell the tables apart, and the columns of each -/
structure Identified (s : Schema κ) : Prop where
  tableIds : (s.tables.map (·.id)).Nodup
  columnIds : ∀ t ∈ s.tables, (t.columns.map (·.id)).Nodup

/-- every end that resolves in one schema resolves in the other -/
def Keeps (s s' : Schema κ) : Prop := ∀ e, s.Resolves e → s'.Resolves e

variable {s s' : Schema κ}

/-- a table that its id tells apart is found by it -/
theorem Identified.table? (hs : s.Identified) {t : Table κ} (ht : t ∈ s.tables) : s.table? t.id = some t :=
  find?_of_nodup hs.tableIds ht

theorem Identified.column? (hs : s.Identified) {t : Table κ} (ht : t ∈ s.tables) {c : Column} (hc : c ∈ t.columns) :
    t.column? c.id = some c :=
  find?_of_nodup (hs.columnIds t ht) hc

theorem resolves_of_mem {t : Table κ} {c : Column} (ht : t ∈ s.tables) (hc : c ∈ t.columns) :
    s.Resolves ⟨t.id, c.id⟩ :=
  ⟨t, ht, rfl, c, hc, rfl⟩

theorem Keeps.refl (s : Schema κ) : Keeps s s := fun _ h => h

/-- ends go on resolving where every table has one in its place, with its id and the ids of its columns -/
theorem Keeps.of_tables (h : ∀ t ∈ s.tables, ∃ t' ∈ s'.tables, t'.id = t.id ∧
    t.columns.map (·.id) ⊆ t'.columns.map (·.id)) : Keeps s s' := by
  rintro e ⟨t, ht, htid, c, hc, hcid⟩
  obtain ⟨t', ht', hid, hsub⟩ := h t ht
  obtain ⟨c', hc', hcid'⟩ := List.mem_map.1 (hsub (List.mem_map_of_mem hc))
  exact ⟨t', ht', hid.trans htid, c', hc', hcid'.trans hcid⟩

theorem Keeps.mapTable (s : Schema κ) (tableId : String) {f : Table κ → Table κ}
    (hf : ∀ t, (f t).id = t.id ∧ t.columns.map (·.id) ⊆ (f t).columns.map (·.id)) : Keeps s (s.mapTable tableId f) := by
  refine Keeps.of_tables fun t ht => ?_
  rcases mem_mapFirst_of_mem (f := f) ht with h | h
  · exact ⟨t, h, rfl, List.Subset.refl _⟩
  · exact ⟨f t, h.2, hf t⟩

theorem Intact.keeps (h : s.Intact) (hk : Keeps s s') (hr : s'.relationships ⊆ s.relationships) : s'.Intact :=
  fun r hmem => ⟨hk _ (h r (hr hmem)).1, hk _ (h r (hr hmem)).2⟩

/-! ## Edits that keep every end -/

theorem updateTable_keeps (s : Schema κ) (tableId : String) (u : TableUpdate κ) : Keeps s (s.updateTable tableId u) :=
  Keeps.mapTable s tableId fun _ => ⟨rfl, List.Subset.refl _⟩

theorem updateColumn_keeps (s : Schema κ) (tableId columnId : String) (u : ColumnUpdate) :
    Keeps s (s.updateColumn tableId columnId u) :=
  Keeps.mapTable s tableId fun t =>
    ⟨t.updateColumn_id columnId u, by rw [Table.updateColumn_ids]; exact List.Subset.refl _⟩

theorem appendTable_keeps (s : Schema κ) (ts : List (Table κ)) : Keeps s { s with tables := s.tables ++ ts } :=
  Keeps.of_tables fun t ht => ⟨t, List.mem_append_left _ ht, rfl, List.Subset.refl _⟩

/-! ## Removals -/

/-- what refers to a removed table goes with it -/
theorem Intact.removeTable (h : s.Intact) (tableId : String) : (s.removeTable tableId).Intact := by
  unfold Schema.removeTable
  split
  · exact h
  · have hstays : ∀ e, s.Resolves e → e.tableId ≠ tableId →
        ∃ t ∈ s.tables.filter (·.id ≠ tableId), t.id = e.tableId ∧ ∃ c ∈ t.columns, c.id = e.columnId := by
      rintro e ⟨t, ht, htid, hc⟩ hne
      exact ⟨t, List.mem_filter.2 ⟨ht, by simpa [htid] using hne⟩, htid, hc⟩
    intro r hr
    obtain ⟨hmem, hkept⟩ := List.mem_filter.1 hr
    simp only [Relationship.touchesTable, Bool.not_eq_true', Bool.or_eq_false_iff, beq_eq_false_iff_ne] at hkept
    exact ⟨hstays _ (h r hmem).1 hkept.1, hstays _ (h r hmem).2 hkept.2⟩

/-- what refers to a removed column goes with it; the column is lost to no other end, as it is taken from the first
table with its id only -/
theorem Intact.removeColumn (h : s.Intact) (tableId columnId : String) : (s.removeColumn tableId columnId).Intact := by
  unfold Schema.removeColumn
  split
  · exact h
  · have hstays : ∀ e, s.Resolves e → e ≠ ⟨tableId, columnId⟩ → Schema.Resolves (s.mapTable tableId fun t =>
        { t with columns := t.columns.filter (·.id ≠ columnId) }) e := by
      rintro e ⟨t, ht, htid, c, hc, hcid⟩ hne
      rcases mem_mapFirst_of_mem (p := fun t : Table κ => t.id = tableId)
        (f := fun t => { t with columns := t.columns.filter (·.id ≠ columnId) }) ht with hmem | ⟨hp, hmem⟩
      · exact ⟨t, hmem, htid, c, hc, hcid⟩
      · have hcne : c.id ≠ columnId := by
          rintro rfl
          exact hne (by rw [← of_decide_eq_true hp, htid, hcid])
        exact ⟨_, hmem, htid, c, List.mem_filter.2 ⟨hc, by simpa using hcne⟩, hcid⟩
    intro r hr
    obtain ⟨hmem, hkept⟩ := List.mem_filter.1 hr
    simp only [Relationship.touchesColumn, Bool.not_eq_true', Bool.or_eq_false_iff, beq_eq_false_iff_ne] at hkept
    exact ⟨hstays _ (h r hmem).1 hkept.1, hstays _ (h r hmem).2 hkept.2⟩

/-! ## Creating -/

variable [IdSupply σ] {ids : σ}

theorem addTable_keeps (s : Schema κ) (name : String) (position : Position κ) (specs : List ColumnSpec) (ids : σ) :
    Keeps s (s.addTable name position specs ids).1 :=
  s.appendTable_keeps _

theorem addColumn_keeps (s : Schema κ) (tableId : String) (spec : ColumnSpec) (ids : σ) :
    Keeps s (s.addColumn tableId spec ids).1 := by
  unfold addColumn
  split
  · exact Keeps.refl s
  · refine Keeps.mapTable s tableId fun t => ⟨rfl, ?_⟩
    rw [appendColumn_ids]
    exact List.subset_append_left _ _

theorem addColumn_relationships (s : Schema κ) (tableId : String) (spec : ColumnSpec) (ids : σ) :
    (s.addColumn tableId spec ids).1.relationships = s.relationships := by
  unfold addColumn
  split <;> rfl

theorem Intact.addRelationship (h : s.Intact) {spec : RelationshipSpec} (hsource : s.Resolves spec.source)
    (htarget : s.Resolves spec.target) (ids : σ) : (s.addRelationship spec ids).1.Intact := by
  intro r hr
  rcases List.mem_append.1 hr with hr | hr
  · exact h r hr
  · rw [List.mem_singleton.1 hr]
    exact ⟨hsource, htarget⟩

/-- the links of a junction lead from its last columns to columns of tables that are there -/
theorem junctionLinks_resolve {t a b : Table κ} {keyA keyB : Column} (ha : s.Resolves ⟨a.id, keyA.id⟩)
    (hb : s.Resolves ⟨b.id, keyB.id⟩) {linkA linkB : String}
    (htables : s'.tables = s.tables ++ [linkedTable t a b keyA keyB linkA linkB]) {relA relB : String} :
    ∀ r ∈ junctionLinks t a b keyA keyB linkA linkB relA relB, s'.Resolves r.source ∧ s'.Resolves r.target := by
  have hkeeps : Keeps s s' := Keeps.of_tables fun u hu =>
    ⟨u, htables ▸ List.mem_append_left _ hu, rfl, List.Subset.refl _⟩
  have hlink : ∀ link ∈ [linkA, linkB], s'.Resolves ⟨t.id, link⟩ := by
    intro link hlink
    refine ⟨linkedTable t a b keyA keyB linkA linkB, htables ▸ List.mem_append_right _ List.mem_cons_self, rfl, ?_⟩
    simp only [List.mem_cons, List.not_mem_nil, or_false] at hlink
    rcases hlink with rfl | rfl
    · exact ⟨(junctionColumn a keyA).build link, by simp [linkedTable], rfl⟩
    · exact ⟨(junctionColumn b keyB).build link, by simp [linkedTable], rfl⟩
  intro r hr
  simp only [junctionLinks, List.mem_cons, List.not_mem_nil, or_false] at hr
  rcases hr with rfl | rfl
  · exact ⟨hlink _ (by simp), hkeeps _ ha⟩
  · exact ⟨hlink _ (by simp), hkeeps _ hb⟩

/-- a junction links its own columns to the keys of two tables that are there -/
theorem Intact.junction [Coordinate κ] (h : s.Intact) (hids : Ahead s.allIds ids) (idA idB : String) :
    (s.junction idA idB ids).1.Intact := by
  rcases s.junction_cases idA idB ids with heq | ⟨a, b, keyA, keyB, ha, hb, hkeyA, hkeyB, heq⟩
  · rw [heq]
    exact h
  · obtain ⟨tableId, standard, linkA, linkB, relA, relB, ids', -, -, hadded⟩ := addJunction_eq hids.fresh a b keyA keyB
    rw [heq, hadded]
    have hkeeps := s.appendTable_keeps [linkedTable (junctionBase a b tableId standard) a b keyA keyB linkA linkB]
    intro r hr
    rcases List.mem_append.1 hr with hr | hr
    · exact ⟨hkeeps _ (h r hr).1, hkeeps _ (h r hr).2⟩
    · exact junctionLinks_resolve (resolves_of_mem (List.mem_of_find?_eq_some ha) (Table.soleKey?_mem hkeyA))
        (resolves_of_mem (List.mem_of_find?_eq_some hb) (Table.soleKey?_mem hkeyB)) rfl r hr

/-! ## Issues -/

theorem tableIssues_relationshipId? (seen : List String) (ts : List (Table κ)) :
    ∀ i ∈ tableIssues seen ts, i.relationshipId? = none := by
  induction ts generalizing seen with
  | nil => simp [tableIssues]
  | cons t ts ih =>
    intro i hi
    simp only [tableIssues, List.mem_append] at hi
    rcases hi with ((hi | hi) | hi) | hi
    · split_ifs at hi
      · rw [List.mem_singleton.1 hi]; rfl
      · cases hi
    · unfold keyIssues at hi
      split_ifs at hi
      · rw [List.mem_singleton.1 hi]; rfl
      · cases hi
    · obtain ⟨c, -, rfl⟩ := mem_columnIssues hi
      rfl
    · exact ih _ i hi

/-- where the ids of tables differ, the last table with an id is the only one -/
theorem referred?_of_mem (hids : (s.tables.map (·.id)).Nodup) {t : Table κ} (ht : t ∈ s.tables) :
    s.referred? t.id = some t :=
  find?_of_nodup (by rw [List.map_reverse]; exact List.nodup_reverse.2 hids) (List.mem_reverse.2 ht)

/-- nothing is wrong with a relationship whose ends resolve -/
theorem relationshipIssues_of_resolves (hids : (s.tables.map (·.id)).Nodup) {r : Relationship}
    (hr : s.Resolves r.source ∧ s.Resolves r.target) : s.relationshipIssues r = [] := by
  have hend : ∀ e, s.Resolves e → ∀ side, s.endIssues r.id side e = [] := by
    rintro e ⟨t, ht, htid, c, hc, hcid⟩ side
    have hsome : (t.column? e.columnId).isSome := List.find?_isSome.2 ⟨c, hc, by simpa using hcid⟩
    obtain ⟨found, hfound⟩ := Option.isSome_iff_exists.1 hsome
    simp [endIssues, ← htid, referred?_of_mem hids ht, hfound]
  rw [relationshipIssues, hend _ hr.1, hend _ hr.2, List.append_nil]

/-- no issue of an intact schema is about a relationship -/
theorem Intact.issues_relationshipId? (h : s.Intact) (hids : s.allIds.Nodup) :
    ∀ i ∈ s.issues, i.relationshipId? = none := by
  have hnone : s.relationships.flatMap s.relationshipIssues = [] :=
    List.flatMap_eq_nil_iff.2 fun r hr => relationshipIssues_of_resolves (tables_nodup hids) (h r hr)
  rw [issues, hnone, List.append_nil]
  exact tableIssues_relationshipId? [] s.tables

/-- an intact schema has no issue about an end that is missing -/
theorem Intact.missing_notMem (h : s.Intact) (hids : s.allIds.Nodup) (side : Side) (id tableName : String) :
    .missingTable side id ∉ s.issues ∧ .missingColumn side id tableName ∉ s.issues :=
  ⟨fun hi => Option.some_ne_none _ (h.issues_relationshipId? hids _ hi),
    fun hi => Option.some_ne_none _ (h.issues_relationshipId? hids _ hi)⟩

end Schema

end Crowfoot
