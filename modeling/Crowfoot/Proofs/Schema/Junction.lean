import Crowfoot.Proofs.Schema.Identity
import Crowfoot.Schema.Junction

/-
What a junction adds to a schema. It is made in five steps that find again what they have made by its place or by its
id; with a source ahead of the ids of the schema they find the right things, so that the whole can be written down.

- `addJunction_eq`: the tables and relationships stay, and one table and two relationships follow them.
- `junction_cases`: either nothing happens or the junction of two tables with a single key each is added.
-/

namespace Crowfoot

open IdSupply

variable {κ σ : Type} [IdSupply σ]

namespace Schema

/-- a column for a table that stands last and shares its id with no other -/
theorem addColumn_last (s : Schema κ) (t : Table κ) (spec : ColumnSpec) (ids : σ)
    (h : ∀ u ∈ s.tables, u.id ≠ t.id) :
    addColumn { s with tables := s.tables ++ [t] } t.id spec ids =
      ({ s with tables := s.tables ++ [{ t with
          columns := appendColumn t.columns (spec.build (newId columnLetter ids).1) }] },
        (newId columnLetter ids).2) := by
  have hfind : table? { s with tables := s.tables ++ [t] } t.id = some t := by
    rw [table?, List.find?_append, List.find?_eq_none.2 fun u hu => by simpa using h u hu]
    simp
  simp only [addColumn, hfind, mapTable]
  rw [mapFirst_append_singleton _ (fun u hu => by simpa using h u hu) (by simp)]

end Schema

theorem Table.soleKey?_eq_some_iff {t : Table κ} {key : Column} :
    t.soleKey? = some key ↔ t.primaryKeys = [key] := by
  unfold Table.soleKey?
  split
  · rename_i found hfound
    simp [hfound]
  · rename_i hnone
    exact ⟨nofun, fun hkey => (hnone key hkey).elim⟩

/-- the only key of a table is one of its columns -/
theorem Table.soleKey?_mem {t : Table κ} {key : Column} (h : t.soleKey? = some key) : key ∈ t.columns := by
  have hkey : key ∈ t.primaryKeys := by simp [Table.soleKey?_eq_some_iff.1 h]
  exact (List.mem_filter.1 hkey).1

/-- a table with a column more for the key of each of two tables -/
def linkedTable (t a b : Table κ) (keyA keyB : Column) (linkA linkB : String) : Table κ :=
  { t with columns := t.columns ++ [(junctionColumn a keyA).build linkA, (junctionColumn b keyB).build linkB] }

/-- the relationships from the new columns of a table to the keys of two tables -/
def junctionLinks (t a b : Table κ) (keyA keyB : Column) (linkA linkB relA relB : String) : List Relationship :=
  [⟨relA, ⟨t.id, linkA⟩, ⟨a.id, keyA.id⟩, .oneToMany⟩, ⟨relB, ⟨t.id, linkB⟩, ⟨b.id, keyB.id⟩, .oneToMany⟩]

namespace Schema

/-- the column of a junction is no key, and takes none -/
theorem appendColumn_junctionColumn (cs : List Column) (parent : Table κ) (key : Column) (id : String) :
    appendColumn cs ((junctionColumn parent key).build id) = cs ++ [(junctionColumn parent key).build id] := by
  simp [appendColumn, ColumnSpec.build, Column.isPrimaryKey, Column.has, junctionColumn]

theorem linkLast_eq (s : Schema κ) (t a b : Table κ) (keyA keyB : Column) (ids : σ)
    (hne : ∀ u ∈ s.tables, u.id ≠ t.id) :
    ∃ linkA linkB relA relB ids', Draws ids [linkA, linkB, relA, relB] ids' ∧
      linkLast { s with tables := s.tables ++ [t] } a b keyA keyB ids =
        ({ s with
          tables := s.tables ++ [linkedTable t a b keyA keyB linkA linkB]
          relationships := s.relationships ++ junctionLinks t a b keyA keyB linkA linkB relA relB }, ids') := by
  let ids1 := (newId columnLetter ids).2
  let ids2 := (newId columnLetter ids1).2
  let ids3 := (newId relationshipLetter ids2).2
  refine ⟨(newId columnLetter ids).1, (newId columnLetter ids1).1, (newId relationshipLetter ids2).1,
    (newId relationshipLetter ids3).1, (newId relationshipLetter ids3).2,
    .next _ (.next _ (.next _ (.one _ ids3))), ?_⟩
  have hid : (({ s with tables := s.tables ++ [t] } : Schema κ).tables.getLast?.map (·.id)).getD "" = t.id := by simp
  unfold linkLast
  rw [hid]
  dsimp only
  rw [addColumn_last s t _ _ hne, appendColumn_junctionColumn]
  dsimp only
  -- the second column goes to the table as the first one left it
  rw [addColumn_last s { t with columns := t.columns ++ [(junctionColumn a keyA).build (newId columnLetter ids).1] }
    (junctionColumn b keyB) _ hne, appendColumn_junctionColumn]
  simp [lastColumnId, addRelationship, linkedTable, junctionLinks, ids1, ids2, ids3]

/-- a table without columns of the caller's has the standard ones -/
theorem addTable_standard (s : Schema κ) (name : String) (position : Position κ) (ids : σ) :
    ∃ tableId standard ids', Draws ids (tableId :: standard) ids' ∧ standard.length = 3 ∧
      s.addTable name position [] ids =
        ({ s with tables := s.tables ++ [⟨tableId, name, position,
            (keySpec :: timestampSpecs).zipWith ColumnSpec.build standard⟩] }, ids') := by
  let ids1 := (newId tableLetter ids).2
  let ids2 := (newId columnLetter ids1).2
  let ids3 := (newId columnLetter ids2).2
  exact ⟨(newId tableLetter ids).1,
    [(newId columnLetter ids1).1, (newId columnLetter ids2).1, (newId columnLetter ids3).1], (newId columnLetter ids3).2,
    .next _ (.next _ (.next _ (.one _ ids3))), rfl, rfl⟩

end Schema

variable {s : Schema κ} {ids : σ}

theorem Schema.linkLast_grows (s : Schema κ) (a b : Table κ) (keyA keyB : Column) (ids : σ) :
    Grows (s, ids) (s.linkLast a b keyA keyB ids) :=
  (((s.addColumn_grows _ _ ids).trans (addColumn_grows _ _ _ _)).trans (addRelationship_grows _ _ _)).trans
    (addRelationship_grows _ _ _)

variable [Coordinate κ]

theorem Schema.addJunction_grows (s : Schema κ) (a b : Table κ) (keyA keyB : Column) (ids : σ) :
    Grows (s, ids) (s.addJunction a b keyA keyB ids) := by
  have hmade := s.addTable_grows (a.name ++ "_" ++ b.name) (junctionPosition a b) [] ids
  exact hmade.trans (linkLast_grows _ a b keyA keyB _)

/-- the table that the junction of two tables starts from, given its id and those of its standard columns -/
def junctionBase (a b : Table κ) (tableId : String) (standard : List String) : Table κ :=
  ⟨tableId, a.name ++ "_" ++ b.name, junctionPosition a b,
    (keySpec :: timestampSpecs).zipWith ColumnSpec.build standard⟩

namespace Schema

/-- a junction adds one table and two relationships, and changes nothing else -/
theorem addJunction_eq (h : Fresh s.allIds ids) (a b : Table κ) (keyA keyB : Column) :
    ∃ tableId standard linkA linkB relA relB ids',
      Draws ids (tableId :: standard ++ [linkA, linkB, relA, relB]) ids' ∧ standard.length = 3 ∧
      s.addJunction a b keyA keyB ids =
        ({ s with
          tables := s.tables ++ [linkedTable (junctionBase a b tableId standard) a b keyA keyB linkA linkB]
          relationships := s.relationships ++
            junctionLinks (junctionBase a b tableId standard) a b keyA keyB linkA linkB relA relB }, ids') := by
  obtain ⟨tableId, standard, ids₁, hdraws, hlen, hmade⟩ :=
    s.addTable_standard (a.name ++ "_" ++ b.name) (junctionPosition a b) ids
  have hne : ∀ u ∈ s.tables, u.id ≠ (junctionBase a b tableId standard).id := by
    rintro u hu rfl
    exact (h.draws hdraws).2 _ List.mem_cons_self (tableIds_subset_allIds hu List.mem_cons_self)
  obtain ⟨linkA, linkB, relA, relB, ids₂, hdraws', hlinked⟩ := linkLast_eq s _ a b keyA keyB ids₁ hne
  refine ⟨tableId, standard, linkA, linkB, relA, relB, ids₂, hdraws.trans hdraws', hlen, ?_⟩
  rw [addJunction, hmade]
  exact hlinked

/-- either nothing happens, or the junction of two tables that are there is added -/
theorem junction_cases (s : Schema κ) (idA idB : String) (ids : σ) :
    s.junction idA idB ids = (s, ids) ∨
      ∃ a b keyA keyB, s.table? idA = some a ∧ s.table? idB = some b ∧ a.soleKey? = some keyA ∧
        b.soleKey? = some keyB ∧ s.junction idA idB ids = s.addJunction a b keyA keyB ids := by
  unfold junction junction?
  cases hA : s.table? idA with
  | none => exact Or.inl rfl
  | some a =>
    cases hB : s.table? idB with
    | none => exact Or.inl rfl
    | some b =>
      cases hkA : a.soleKey? with
      | none => exact Or.inl (by simp [hkA])
      | some keyA =>
        cases hkB : b.soleKey? with
        | none => exact Or.inl (by simp [hkB])
        | some keyB => exact Or.inr ⟨a, b, keyA, keyB, rfl, rfl, hkA, hkB, by simp [hkA, hkB]⟩

end Schema

theorem Schema.junction_grows (s : Schema κ) (idA idB : String) (ids : σ) :
    Grows (s, ids) (s.junction idA idB ids) := by
  rcases s.junction_cases idA idB ids with heq | ⟨a, b, keyA, keyB, -, -, -, -, heq⟩
  · rw [heq]; exact Grows.refl _
  · rw [heq]; exact s.addJunction_grows a b keyA keyB ids

theorem IdSupply.Ahead.junction (h : Ahead s.allIds ids) (idA idB : String) :
    Ahead (s.junction idA idB ids).1.allIds (s.junction idA idB ids).2 :=
  h.grows (s.junction_grows idA idB ids)

end Crowfoot
