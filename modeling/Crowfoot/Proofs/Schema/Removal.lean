import Crowfoot.Proofs.Schema.Key
import Crowfoot.Proofs.Schema.Reference

/-
Removing a table or a column. What goes with it are the relationships that have an end there, and no others; and those
that stay are reported on as they were, whether their ends exist or not.

- `Schema.linkIssues_eq`: what is reported about relationships, one after another.
- `Schema.SameReports`: of the relationships of a schema the same is reported as in another one.
- `Schema.referred?_removeTable`, `Schema.WithColumns.referred?`: the table that an end refers to, after a removal.
- `Schema.removal_cascades`: what becomes of a schema.
-/

namespace Crowfoot

variable {κ : Type}

theorem Table.column?_around {t : Table κ} {left right : List Column} {c : Column} (h : t.columns = left ++ c :: right)
    {id : String} (hid : c.id ≠ id) : Table.column? { t with columns := left ++ right } id = t.column? id := by
  simp [Table.column?, h, List.find?_append, hid]

namespace Schema

variable {s s' : Schema κ} {t : Table κ} {c : Column}

/-! ## Reports about relationships -/

/-- the issues about relationships -/
def linkIssues (s : Schema κ) : List Issue := s.issues.filter fun i => i.relationshipId?.isSome

/-- the relationships are reported on one after another, and nothing else is said about them -/
theorem linkIssues_eq (s : Schema κ) : s.linkIssues = s.relationships.flatMap s.relationshipIssues := by
  have htables : (tableIssues [] s.tables).filter (fun i => i.relationshipId?.isSome) = [] := by
    refine List.filter_eq_nil_iff.2 fun i hi => ?_
    simp [tableIssues_relationshipId? [] s.tables i hi]
  have hlinks : (s.relationships.flatMap s.relationshipIssues).filter (fun i => i.relationshipId?.isSome) =
      s.relationships.flatMap s.relationshipIssues := by
    refine List.filter_eq_self.2 fun i hi => ?_
    obtain ⟨r, -, hi⟩ := List.mem_flatMap.1 hi
    rcases mem_relationshipIssues hi with ⟨side, rfl | ⟨name, rfl⟩⟩ <;> rfl
  rw [linkIssues, issues, List.filter_append, htables, hlinks, List.nil_append]

/-- of every relationship of the second schema the same is reported as in the first, and nothing else is reported of
relationships -/
structure SameReports (s s' : Schema κ) : Prop where
  each : ∀ r ∈ s'.relationships, s'.relationshipIssues r = s.relationshipIssues r
  all : s'.linkIssues = s'.relationships.flatMap s.relationshipIssues

/-- it is enough that no end of a relationship is reported on otherwise -/
theorem SameReports.of_ends (h : ∀ r ∈ s'.relationships, ∀ e, e = r.source ∨ e = r.target →
    ∀ side, s'.endIssues r.id side e = s.endIssues r.id side e) : SameReports s s' := by
  have heach : ∀ r ∈ s'.relationships, s'.relationshipIssues r = s.relationshipIssues r := by
    intro r hr
    rw [relationshipIssues, h r hr _ (Or.inl rfl), h r hr _ (Or.inr rfl), relationshipIssues]
  refine ⟨heach, ?_⟩
  rw [linkIssues_eq]
  exact List.flatMap_congr heach

/-! ## Removing a table -/

/-- a table is taken out from where it stands, with the relationships that have an end on it -/
theorem removeTable_eq (hs : s.Identified) (ht : t ∈ s.tables) :
    ∃ before after, s.tables = before ++ t :: after ∧ s.removeTable t.id =
      { s with
        tables := before ++ after
        relationships := s.relationships.filter fun r => ¬ (r.source.tableId = t.id ∨ r.target.tableId = t.id) } := by
  obtain ⟨before, after, hsplit⟩ := List.append_of_mem ht
  refine ⟨before, after, hsplit, ?_⟩
  have htables : s.tables.filter (·.id ≠ t.id) = before ++ after := by
    have hids := hs.tableIds
    rw [hsplit] at hids ⊢
    exact filter_around hids
  have hlinks : (fun r : Relationship => !r.touchesTable t.id) =
      fun r => decide ¬ (r.source.tableId = t.id ∨ r.target.tableId = t.id) := by
    funext r
    rw [Bool.eq_iff_iff]
    simp [Relationship.touchesTable]
  simp only [removeTable, hs.table? ht, htables, hlinks]

/-- another id refers to the table that it referred to -/
theorem referred?_removeTable {tableId id : String} (hne : id ≠ tableId) :
    (s.removeTable tableId).referred? id = s.referred? id := by
  unfold removeTable
  split
  · rfl
  · rw [referred?, ← List.filter_reverse, List.find?_filter, referred?]
    congr 1
    funext u
    by_cases hu : u.id = id
    · simp [hu, hne]
    · simp [hu]

theorem removeTable_sameReports (s : Schema κ) (tableId : String) (hfound : s.table? tableId = some t) :
    SameReports s (s.removeTable tableId) := by
  refine SameReports.of_ends fun r hr e he side => ?_
  simp only [removeTable, hfound, List.mem_filter, Relationship.touchesTable, Bool.not_eq_true',
    Bool.or_eq_false_iff, beq_eq_false_iff_ne] at hr
  have hne : e.tableId ≠ tableId := by
    rcases he with rfl | rfl
    · exact hr.2.1
    · exact hr.2.2
  unfold endIssues
  rw [referred?_removeTable hne]

/-! ## Removing a column -/

/-- of a table with other columns the id still refers to it, and other ids to other tables -/
theorem WithColumns.referred? {columns : List Column} (h : s.WithColumns t columns s') (hs : s.Identified)
    (id : String) : s'.referred? id = if id = t.id then some { t with columns := columns } else s.referred? id := by
  obtain ⟨before, after, hsplit, -, rfl⟩ := h
  have hafter : ∀ u ∈ after, u.id ≠ t.id := by
    have hids := hs.tableIds
    rw [hsplit] at hids
    exact (around_ne hids).2
  have hnone : after.reverse.find? (·.id = t.id) = none := by
    simpa [List.find?_eq_none] using hafter
  simp only [Schema.referred?, hsplit, List.reverse_append, List.reverse_cons, List.find?_append, List.find?_cons,
    List.find?_nil]
  by_cases hid : id = t.id
  · simp [hid, hnone]
  · simp [hid, Ne.symm hid]

/-- a column is taken out from where it stands, with the relationships that have an end on it -/
theorem removeColumn_eq (hs : s.Identified) (ht : t ∈ s.tables) (hc : c ∈ t.columns) :
    ∃ left right s', t.columns = left ++ c :: right ∧ s.WithColumns t (left ++ right) s' ∧
      s.removeColumn t.id c.id =
        { s' with relationships := s.relationships.filter fun r =>
            ¬ (r.source = ⟨t.id, c.id⟩ ∨ r.target = ⟨t.id, c.id⟩) } := by
  obtain ⟨left, right, hsplit⟩ := List.append_of_mem hc
  have hcolumns : t.columns.filter (·.id ≠ c.id) = left ++ right := by
    have hids := hs.columnIds t ht
    rw [hsplit] at hids ⊢
    exact filter_around hids
  have hlinks : (fun r : Relationship => !r.touchesColumn t.id c.id) =
      fun r => decide ¬ (r.source = ⟨t.id, c.id⟩ ∨ r.target = ⟨t.id, c.id⟩) := by
    funext r
    rw [Bool.eq_iff_iff]
    simp [Relationship.touchesColumn]
  have hwith := mapTable_withColumns (f := fun t => { t with columns := t.columns.filter (·.id ≠ c.id) })
    (hs.table? ht) (congrArg (fun columns => { t with columns := columns }) hcolumns)
  refine ⟨left, right, _, hsplit, hwith, ?_⟩
  simp only [removeColumn, hs.table? ht, Option.bind_some, hs.column? ht hc, hwith.relationships, hlinks]

theorem removeColumn_sameReports (hs : s.Identified) (ht : t ∈ s.tables) (hc : c ∈ t.columns) :
    SameReports s (s.removeColumn t.id c.id) := by
  obtain ⟨left, right, s', hsplit, hwith, hremoved⟩ := removeColumn_eq hs ht hc
  rw [hremoved]
  refine SameReports.of_ends fun r hr e he side => ?_
  have hne : e ≠ ⟨t.id, c.id⟩ := by
    have hkept := of_decide_eq_true (List.mem_filter.1 hr).2
    rcases he with rfl | rfl
    · exact fun heq => hkept (Or.inl heq)
    · exact fun heq => hkept (Or.inr heq)
  change s'.endIssues r.id side e = _
  unfold endIssues
  rw [hwith.referred? hs]
  by_cases htable : e.tableId = t.id
  · -- the table has lost another column than that of the end
    have hcolumn : c.id ≠ e.columnId := fun heq => hne (by rw [← htable, heq])
    rw [if_pos htable, htable, referred?_of_mem hs.tableIds ht]
    simp only [Table.column?_around hsplit hcolumn]
  · rw [if_neg htable]

/-! ## Removals -/

/-- **Removals cascade.** In the schema the ids of tables are different, and so are those of the columns of each; ends of
relationships may lead nowhere. A table that is removed takes along exactly the relationships with an end on it, and a
column those with an end that is this column of this table. All other tables, columns and relationships stay as they
were, in their order, and of each relationship that stays the same is reported as before. Where there is no such table
or column, nothing changes. -/
theorem removal_cascades (s : Schema κ) (hs : s.Identified) :
    (∀ t ∈ s.tables, ∃ before after, s.tables = before ++ t :: after ∧
      s.removeTable t.id =
        { s with
          tables := before ++ after
          relationships := s.relationships.filter fun r =>
            ¬ (r.source.tableId = t.id ∨ r.target.tableId = t.id) } ∧
      SameReports s (s.removeTable t.id)) ∧
    (∀ t ∈ s.tables, ∀ c ∈ t.columns, ∃ left right s', t.columns = left ++ c :: right ∧
      s.WithColumns t (left ++ right) s' ∧
      s.removeColumn t.id c.id =
        { s' with relationships := s.relationships.filter fun r =>
            ¬ (r.source = ⟨t.id, c.id⟩ ∨ r.target = ⟨t.id, c.id⟩) } ∧
      SameReports s (s.removeColumn t.id c.id)) ∧
    (∀ tableId, (∀ t ∈ s.tables, t.id ≠ tableId) → s.removeTable tableId = s) ∧
    ∀ tableId columnId, (∀ t ∈ s.tables, t.id = tableId → ∀ c ∈ t.columns, c.id ≠ columnId) →
      s.removeColumn tableId columnId = s := by
  refine ⟨fun t ht => ?_, fun t ht c hc => ?_, fun tableId hnone => ?_, fun tableId columnId hnone => ?_⟩
  · obtain ⟨before, after, hsplit, hremoved⟩ := removeTable_eq hs ht
    exact ⟨before, after, hsplit, hremoved, s.removeTable_sameReports t.id (hs.table? ht)⟩
  · obtain ⟨left, right, s', hsplit, hwith, hremoved⟩ := removeColumn_eq hs ht hc
    exact ⟨left, right, s', hsplit, hwith, hremoved, removeColumn_sameReports hs ht hc⟩
  · have hfind : s.table? tableId = none := List.find?_eq_none.2 fun t ht => by simpa using hnone t ht
    rw [removeTable, hfind]
  · have hfind : (s.table? tableId).bind (·.column? columnId) = none := by
      refine Option.bind_eq_none_iff.2 fun t ht => List.find?_eq_none.2 fun c hc => ?_
      have htid : t.id = tableId := by simpa using List.find?_some ht
      simpa using hnone t (List.mem_of_find?_eq_some ht) htid c hc
    rw [removeColumn, hfind]

end Schema

/-- albums, some of which follow others -/
def albums : Table ℚ :=
  ⟨"t_1", "albums", ⟨0, 0⟩, [⟨"c_1", "id", .integer, [.primaryKey]⟩, ⟨"c_2", "follows", .integer, [.foreignKey]⟩]⟩

/-- the tracks of albums, whose columns have the same ids as theirs -/
def tracks : Table ℚ :=
  ⟨"t_2", "tracks", ⟨0, 0⟩, [⟨"c_1", "id", .integer, [.primaryKey]⟩, ⟨"c_2", "album", .integer, [.foreignKey]⟩]⟩

/-- albums and tracks, and two relationships that lead to a table and to a column which are not there -/
def discography : Schema ℚ :=
  ⟨1, [albums, tracks],
    [⟨"r_1", ⟨"t_1", "c_2"⟩, ⟨"t_1", "c_1"⟩, .oneToOne⟩, ⟨"r_2", ⟨"t_2", "c_2"⟩, ⟨"t_1", "c_1"⟩, .oneToMany⟩,
      ⟨"r_3", ⟨"t_2", "c_1"⟩, ⟨"t_9", "c_1"⟩, .oneToMany⟩, ⟨"r_4", ⟨"t_2", "c_1"⟩, ⟨"t_1", "c_9"⟩, .oneToMany⟩]⟩

theorem Schema.removal_cascades_discography :
    discography.Identified ∧ albums ∈ discography.tables ∧
      (discography.removeTable "t_1").tables = [tracks] ∧
      (discography.removeTable "t_1").linkIssues = [.missingTable .target "r_3"] ∧
      SameReports discography (discography.removeTable "t_1") ∧
      (discography.removeColumn "t_1" "c_1").relationships.map (·.id) = ["r_3", "r_4"] ∧
      SameReports discography (discography.removeColumn "t_1" "c_1") ∧
      discography.removeColumn "t_2" "c_9" = discography := by
  have hs : discography.Identified := ⟨by decide, by decide⟩
  have halbums : albums ∈ discography.tables := List.mem_cons_self
  obtain ⟨htable, hcolumn, -, hnone⟩ := Schema.removal_cascades discography hs
  obtain ⟨_, _, -, -, htableReports⟩ := htable albums halbums
  obtain ⟨_, _, _, -, -, -, hcolumnReports⟩ := hcolumn albums halbums _ List.mem_cons_self
  refine ⟨hs, halbums, by decide, ?_, htableReports, by decide, hcolumnReports, hnone "t_2" "c_9" (by decide)⟩
  exact htableReports.all.trans (by decide)

end Crowfoot
