import Crowfoot.Proofs.Schema.Counting
import Crowfoot.Proofs.Schema.Extending
import Crowfoot.Proofs.Schema.Reference

/-
What a junction does to a schema, written down in full, and that it goes unnoticed: where the names of what it makes
are not taken, the same issues are found as before.

- `Text.lower_linkName`: the name of a link ends alike in lower case, and so it is none of the standard names.
- `Table.bridge`: the table between two tables; `Table.bridge_columnIssues`.
- `Schema.issues_appended`: a table in order and links that lead somewhere add no issue, and take none away.
- `Schema.junction_bridges`: the whole effect. `Schema.issues_bridged`: its issues.
-/

namespace Crowfoot

open IdSupply

variable {κ σ : Type}

/-! ## Names -/

namespace Text

/-- the end of a text is lowered on its own, but for what it comes after -/
theorem lowerFrom_append (before xs ys : List Char) :
    ∃ front, lowerFrom before (xs ++ ys) = front ++ lowerFrom (xs.reverse ++ before) ys := by
  induction xs generalizing before with
  | nil => exact ⟨[], rfl⟩
  | cons x xs ih =>
    obtain ⟨front, hfront⟩ := ih (x :: before)
    have hbefore : (x :: xs).reverse ++ before = xs.reverse ++ x :: before := by simp
    rw [List.cons_append, lowerFrom, hfront, hbefore, ← List.append_assoc]
    exact ⟨_, rfl⟩

theorem lower_linkName (name : String) : "_id".toList <:+ (lower (name ++ "_id")).toList := by
  obtain ⟨front, hfront⟩ := lowerFrom_append [] name.toList "_id".toList
  have hlower : (lower (name ++ "_id")).toList = lowerFrom [] (name.toList ++ "_id".toList) := by
    rw [lower, ← String.toList_append]
    exact String.toList_ofList
  rw [hlower, hfront]
  exact ⟨front, rfl⟩

/-- no link has a standard name -/
theorem lower_linkName_ne (name : String) {standard : String} (h : standard ∈ ["id", "created_at", "updated_at"]) :
    lower standard ≠ lower (name ++ "_id") := by
  intro heq
  have hsuffix := lower_linkName name
  rw [← heq] at hsuffix
  simp only [List.mem_cons, List.not_mem_nil, or_false] at h
  rcases h with rfl | rfl | rfl
  · exact absurd hsuffix (by decide)
  · exact absurd hsuffix (by decide)
  · exact absurd hsuffix (by decide)

end Text

/-! ## The new table -/

namespace Table

/-- the table between two tables: the standard columns, and after them one for the key of each -/
def bridge [Coordinate κ] (a b : Table κ) (keyA keyB : Column)
    (tableId keyId createdId updatedId linkA linkB : String) : Table κ where
  id := tableId
  name := a.name ++ "_" ++ b.name
  position := junctionPosition a b
  columns := [
    ⟨keyId, "id", .integer, [.primaryKey, .notNull]⟩,
    ⟨createdId, "created_at", .timestamp, [.notNull]⟩,
    ⟨updatedId, "updated_at", .timestamp, [.notNull]⟩,
    ⟨linkA, a.name ++ "_id", keyA.type, [.notNull]⟩,
    ⟨linkB, b.name ++ "_id", keyB.type, [.notNull]⟩]

variable [Coordinate κ] (a b : Table κ) (keyA keyB : Column)
  (tableId keyId createdId updatedId linkA linkB : String)

theorem bridge_keyIssues :
    keyIssues (bridge a b keyA keyB tableId keyId createdId updatedId linkA linkB) = [] := rfl

/-- two links that are named differently are named differently from everything in the table -/
theorem bridge_columnIssues (hnames : Text.lower (a.name ++ "_id") ≠ Text.lower (b.name ++ "_id")) :
    columnIssues (bridge a b keyA keyB tableId keyId createdId updatedId linkA linkB) []
      (bridge a b keyA keyB tableId keyId createdId updatedId linkA linkB).columns = [] := by
  have hstandard : (["id", "created_at", "updated_at"].map Text.lower).Nodup := by decide
  refine (columnIssues_eq_nil_iff _ _ _).2 ⟨?_, by simp⟩
  have hmap : (bridge a b keyA keyB tableId keyId createdId updatedId linkA linkB).columns.map
      (fun c => Text.lower c.name) =
      ["id", "created_at", "updated_at"].map Text.lower ++
        [Text.lower (a.name ++ "_id"), Text.lower (b.name ++ "_id")] := rfl
  rw [hmap, List.nodup_append]
  refine ⟨hstandard, by simpa using hnames, ?_⟩
  intro standard hmem link hlink
  obtain ⟨name, hname, rfl⟩ := List.mem_map.1 hmem
  simp only [List.mem_cons, List.not_mem_nil, or_false] at hlink
  rcases hlink with rfl | rfl
  · exact Text.lower_linkName_ne a.name hname
  · exact Text.lower_linkName_ne b.name hname

end Table

/-! ## Issues -/

/-- a table in order, whose name no other has, is not reported on -/
theorem tableIssues_append {t : Table κ} (hkey : keyIssues t = []) (hcolumns : columnIssues t [] t.columns = [])
    {seen : List String} {ts : List (Table κ)} (hseen : Text.lower t.name ∉ seen)
    (hts : ∀ u ∈ ts, Text.lower u.name ≠ Text.lower t.name) : tableIssues seen (ts ++ [t]) = tableIssues seen ts := by
  induction ts generalizing seen with
  | nil => simp [tableIssues, hkey, hcolumns, hseen]
  | cons u ts ih =>
    rw [List.forall_mem_cons] at hts
    have hnew : Text.lower t.name ∉ Text.lower u.name :: seen := by
      simp [hseen, hts.1.symm]
    rw [List.cons_append, tableIssues, tableIssues, ih hnew hts.2]

namespace Schema

variable {s : Schema κ}

/-- the ids that occur in a schema, be it only where an end of a relationship mentions them -/
def occurringIds (s : Schema κ) : List String := s.allIds ++ s.relationships.flatMap Relationship.mentioned

/-- a table in order and links without issues are added to a schema, and nothing else is reported than before -/
theorem issues_appended {t : Table κ} {links : List Relationship} (hkey : keyIssues t = [])
    (hcolumns : columnIssues t [] t.columns = []) (hname : ∀ u ∈ s.tables, Text.lower u.name ≠ Text.lower t.name)
    (hid : t.id ∉ s.occurringIds) {s' : Schema κ} (htables : s'.tables = s.tables ++ [t])
    (hrelationships : s'.relationships = s.relationships ++ links)
    (hlinks : ∀ r ∈ links, s'.relationshipIssues r = []) : s'.issues = s.issues := by
  have hextends : Extends [t.id] s s' :=
    ⟨htables ▸ TablesExtend.append _ List.mem_cons_self, hrelationships ▸ List.prefix_append _ _⟩
  have hold : ∀ r ∈ s.relationships, s'.relationshipIssues r = s.relationshipIssues r := by
    refine fun r hr => hextends.relationshipIssues_eq fun id hmentioned hnew => hid ?_
    rw [← List.mem_singleton.1 hnew]
    exact List.mem_append_right _ (List.mem_flatMap.2 ⟨r, hr, hmentioned⟩)
  rw [issues, issues, htables, hrelationships, tableIssues_append hkey hcolumns (by simp) hname, List.flatMap_append,
    List.flatMap_eq_nil_iff.2 hlinks, List.append_nil, List.flatMap_congr hold]

/-! ## The junction -/

variable [Coordinate κ] [IdSupply σ] {ids : σ} {a b : Table κ} {keyA keyB : Column}

/-- two tables with one key each are joined -/
theorem junction_eq_addJunction (hs : s.Identified) (ha : a ∈ s.tables) (hb : b ∈ s.tables)
    (hkeyA : a.primaryKeys = [keyA]) (hkeyB : b.primaryKeys = [keyB]) :
    s.junction a.id b.id ids = s.addJunction a b keyA keyB ids := by
  simp [junction, junction?, hs.table? ha, hs.table? hb, Table.soleKey?_eq_some_iff.2 hkeyA,
    Table.soleKey?_eq_some_iff.2 hkeyB]

/-- two tables, one of which is missing or has not one key, are not -/
theorem junction_refused {idA idB : String} (h : ∀ a ∈ s.tables, ∀ b ∈ s.tables, a.id = idA → b.id = idB →
    a.primaryKeys.length ≠ 1 ∨ b.primaryKeys.length ≠ 1) : s.junction idA idB ids = (s, ids) := by
  rcases s.junction_cases idA idB ids with heq | ⟨a, b, keyA, keyB, ha, hb, hkeyA, hkeyB, -⟩
  · exact heq
  · have hida : a.id = idA := by simpa using List.find?_some ha
    have hidb : b.id = idB := by simpa using List.find?_some hb
    have hlengths := h a (List.mem_of_find?_eq_some ha) b (List.mem_of_find?_eq_some hb) hida hidb
    simp [Table.soleKey?_eq_some_iff.1 hkeyA, Table.soleKey?_eq_some_iff.1 hkeyB] at hlengths

/-- where the names of what it adds are not taken, a junction goes unnoticed -/
theorem issues_bridged (hs : s.Identified) (ha : a ∈ s.tables) (hb : b ∈ s.tables) (hkeyA : a.primaryKeys = [keyA])
    (hkeyB : b.primaryKeys = [keyB]) {tableId keyId createdId updatedId linkA linkB relA relB : String}
    (hid : tableId ∉ s.occurringIds) (hnames : Text.lower (a.name ++ "_id") ≠ Text.lower (b.name ++ "_id"))
    (hname : ∀ t ∈ s.tables, Text.lower t.name ≠ Text.lower (a.name ++ "_" ++ b.name)) {s' : Schema κ}
    (htables : s'.tables = s.tables ++ [Table.bridge a b keyA keyB tableId keyId createdId updatedId linkA linkB])
    (hlinks : s'.relationships = s.relationships ++
      junctionLinks (junctionBase a b tableId [keyId, createdId, updatedId]) a b keyA keyB linkA linkB relA relB) :
    s'.issues = s.issues := by
  have hkey : ∀ {u : Table κ} {key : Column}, u ∈ s.tables → u.primaryKeys = [key] → s.Resolves ⟨u.id, key.id⟩ :=
    fun hu hsole => resolves_of_mem hu (Table.soleKey?_mem (Table.soleKey?_eq_some_iff.2 hsole))
  have hids : (s'.tables.map (·.id)).Nodup := by
    rw [htables, List.map_append, List.map_singleton]
    refine hs.tableIds.append (List.nodup_singleton _) (List.disjoint_singleton.2 fun hmem => hid ?_)
    obtain ⟨u, hu, heq⟩ := List.mem_map.1 hmem
    exact List.mem_append_left _ (tableIds_subset_allIds hu (List.mem_cons.2 (Or.inl heq.symm)))
  refine issues_appended (Table.bridge_keyIssues a b keyA keyB tableId keyId createdId updatedId linkA linkB)
    (Table.bridge_columnIssues a b keyA keyB tableId keyId createdId updatedId linkA linkB hnames) hname hid htables
    hlinks ?_
  intro r hr
  exact relationshipIssues_of_resolves hids (junctionLinks_resolve (hkey ha hkeyA) (hkey hb hkeyB) htables r hr)

/-- **Junctions.** The ids of tables are different, and so are those of the columns of each, and the source of ids hands
out none that occurs in the schema. Two tables that are there, or one of them twice, with one primary key each, are
joined by a table after all others, with the standard columns and a column for each of the two keys, of its type and not
null, and by two relationships after all others that lead from these columns to the keys; nothing else changes. If the
names of the two columns differ in lower case, and the name of the new table from that of every table, then exactly the
same issues are found as before. In all other cases nothing changes, and no id is drawn. -/
theorem junction_bridges (s : Schema κ) (hs : s.Identified) (ids : σ) (hids : Fresh s.occurringIds ids) :
    (∀ a ∈ s.tables, ∀ b ∈ s.tables, ∀ keyA keyB, a.primaryKeys = [keyA] → b.primaryKeys = [keyB] →
      ∃ tableId keyId createdId updatedId linkA linkB relA relB ids',
        Draws ids [tableId, keyId, createdId, updatedId, linkA, linkB, relA, relB] ids' ∧
        s.junction a.id b.id ids =
          ({ s with
            tables := s.tables ++ [Table.bridge a b keyA keyB tableId keyId createdId updatedId linkA linkB]
            relationships := s.relationships ++
              [⟨relA, ⟨tableId, linkA⟩, ⟨a.id, keyA.id⟩, .oneToMany⟩,
                ⟨relB, ⟨tableId, linkB⟩, ⟨b.id, keyB.id⟩, .oneToMany⟩] }, ids') ∧
        (Text.lower (a.name ++ "_id") ≠ Text.lower (b.name ++ "_id") →
          (∀ t ∈ s.tables, Text.lower t.name ≠ Text.lower (a.name ++ "_" ++ b.name)) →
          (s.junction a.id b.id ids).1.issues = s.issues)) ∧
    ∀ idA idB, (∀ a ∈ s.tables, ∀ b ∈ s.tables, a.id = idA → b.id = idB →
        a.primaryKeys.length ≠ 1 ∨ b.primaryKeys.length ≠ 1) →
      s.junction idA idB ids = (s, ids) := by
  refine ⟨fun a ha b hb keyA keyB hkeyA hkeyB => ?_, fun idA idB => junction_refused⟩
  obtain ⟨tableId, standard, linkA, linkB, relA, relB, ids', hdraws, hlen, hadded⟩ :=
    addJunction_eq (hids.mono (List.subset_append_left _ _)) a b keyA keyB
  obtain ⟨keyId, createdId, updatedId, rfl⟩ := List.length_eq_three.1 hlen
  rw [junction_eq_addJunction hs ha hb hkeyA hkeyB, hadded]
  refine ⟨tableId, keyId, createdId, updatedId, linkA, linkB, relA, relB, ids', hdraws, rfl, fun hnames hname => ?_⟩
  have hid : tableId ∉ s.occurringIds := (hids.draws hdraws).2 _ List.mem_cons_self
  exact issues_bridged hs ha hb hkeyA hkeyB hid hnames hname rfl rfl

end Schema

def singers : Table ℚ := ⟨"t_1", "singers", ⟨0, 0⟩, [⟨"c_1", "id", .integer, [.primaryKey]⟩]⟩

def songs : Table ℚ := ⟨"t_3", "songs", ⟨40, 0⟩, [⟨"c_2", "title", .varchar, [.notNull, .primaryKey]⟩]⟩

/-- singers and songs, and a relationship to a table that is not there -/
def songbook : Schema ℚ := ⟨1, [singers, songs], [⟨"r_5", ⟨"t_3", "c_2"⟩, ⟨"t_2", "c_4"⟩, .oneToMany⟩]⟩

/-- a source that knows the ids of the songbook, the missing ones too -/
def songbookIds : Counting := ⟨"", 0, songbook.occurringIds⟩

theorem Schema.junction_bridges_songbook :
    songbook.Identified ∧ Fresh songbook.occurringIds songbookIds ∧ songs ∈ songbook.tables ∧
      (songbook.junction "t_1" "t_3" songbookIds).1.tables.map (·.name) = ["singers", "songs", "singers_songs"] ∧
      songbook.issues = [.missingTable .target "r_5"] ∧
      (songbook.junction "t_1" "t_3" songbookIds).1.issues = songbook.issues ∧
      songbook.junction "t_1" "t_2" songbookIds = (songbook, songbookIds) := by
  have hs : songbook.Identified := ⟨by decide, by decide⟩
  have hids : Fresh songbook.occurringIds songbookIds := Counting.fresh_of_subset (List.Subset.refl _)
  have hsongs : songs ∈ songbook.tables := List.mem_cons_of_mem _ List.mem_cons_self
  obtain ⟨hjoined, hrefused⟩ := Schema.junction_bridges songbook hs songbookIds hids
  obtain ⟨_, _, _, _, _, _, _, _, _, -, heq, hissues⟩ :=
    hjoined singers List.mem_cons_self songs hsongs ⟨"c_1", "id", .integer, [.primaryKey]⟩
      ⟨"c_2", "title", .varchar, [.notNull, .primaryKey]⟩ rfl rfl
  refine ⟨hs, hids, hsongs, ?_, by decide, hissues (by decide) (by decide), hrefused "t_1" "t_2" (by decide)⟩
  change (songbook.junction singers.id songs.id songbookIds).1.tables.map (·.name) = _
  rw [heq]
  rfl

end Crowfoot
