import Mathlib.Tactic
import Crowfoot.Schema.Issue

/-
Valid schemas: those without errors. A name is in the way of another if it is the same in lower case; a table without a
key is no error.

- `columnIssues_eq_nil_iff`, `tableIssues_valid_iff`: names are checked one by one, against all those before.
- `relationshipIssues_severity`: whatever is wrong with a relationship is an error.
- `Schema.valid_iff`: the schema as a whole.
-/

namespace Crowfoot

variable {κ : Type}

theorem IssueSummary.valid_iff {is : List Issue} :
    (IssueSummary.ofIssues is).valid = true ↔ ∀ i ∈ is, i.severity ≠ .error := by
  simp [IssueSummary.valid, IssueSummary.ofIssues]

/-- of nothing but errors there is none exactly if there is nothing -/
theorem errorless_iff {is : List Issue} (h : ∀ i ∈ is, i.severity = .error) :
    (∀ i ∈ is, i.severity ≠ .error) ↔ is = [] := by
  rw [List.eq_nil_iff_forall_not_mem]
  exact forall₂_congr fun i hi => by simp [h i hi]

/-! ## Names -/

/-- what is first among keys that differ and have not been seen -/
theorem unseen_cons {α : Type} {k : α} {ks seen : List α} :
    ((k :: ks).Nodup ∧ ∀ k' ∈ k :: ks, k' ∉ seen) ↔ k ∉ seen ∧ ks.Nodup ∧ ∀ k' ∈ ks, k' ∉ k :: seen := by
  rw [List.nodup_cons, List.forall_mem_cons]
  simp only [List.mem_cons, not_or]
  constructor
  · rintro ⟨⟨hk, hks⟩, hseen, hrest⟩
    exact ⟨hseen, hks, fun k' hk' => ⟨fun heq => hk (heq ▸ hk'), hrest k' hk'⟩⟩
  · rintro ⟨hseen, hks, hrest⟩
    exact ⟨⟨fun hk => (hrest k hk).1 rfl, hks⟩, hseen, fun k' hk' => (hrest k' hk').2⟩

theorem mem_columnIssues {t : Table κ} {seen : List String} {cs : List Column} {i : Issue}
    (h : i ∈ columnIssues t seen cs) : ∃ c ∈ cs, i = .duplicateColumn t.id t.name c.id c.name := by
  induction cs generalizing seen with
  | nil => cases h
  | cons c cs ih =>
    rcases List.mem_append.1 h with h | h
    · split_ifs at h
      · exact ⟨c, List.mem_cons_self, List.mem_singleton.1 h⟩
      · cases h
    · obtain ⟨d, hd, heq⟩ := ih h
      exact ⟨d, List.mem_cons_of_mem _ hd, heq⟩

/-- no column has the name of an earlier one, nor one that has been seen before -/
theorem columnIssues_eq_nil_iff (t : Table κ) (seen : List String) (cs : List Column) :
    columnIssues t seen cs = [] ↔
      (cs.map fun c => Text.lower c.name).Nodup ∧ ∀ k ∈ cs.map fun c => Text.lower c.name, k ∉ seen := by
  induction cs generalizing seen with
  | nil => simp [columnIssues]
  | cons c cs ih =>
    have hhere : (if seen.contains (Text.lower c.name) then
        [Issue.duplicateColumn t.id t.name c.id c.name] else []) = [] ↔ Text.lower c.name ∉ seen := by
      simp
    rw [columnIssues, List.append_eq_nil_iff, hhere, ih, List.map_cons, unseen_cons]

theorem keyIssues_severity (t : Table κ) : ∀ i ∈ keyIssues t, i.severity ≠ .error := by
  unfold keyIssues
  split_ifs <;> simp [Issue.severity]

/-- no table has the name of an earlier one, nor one that has been seen before, and no column that of an earlier one
of its table -/
theorem tableIssues_valid_iff (seen : List String) (ts : List (Table κ)) :
    (∀ i ∈ tableIssues seen ts, i.severity ≠ .error) ↔
      ((ts.map fun t => Text.lower t.name).Nodup ∧ ∀ k ∈ ts.map fun t => Text.lower t.name, k ∉ seen) ∧
        ∀ t ∈ ts, (t.columns.map fun c => Text.lower c.name).Nodup := by
  induction ts generalizing seen with
  | nil => simp [tableIssues]
  | cons t ts ih =>
    have hhere : (∀ i ∈ (if seen.contains (Text.lower t.name) then [Issue.duplicateTable t.id t.name] else []),
        i.severity ≠ .error) ↔ Text.lower t.name ∉ seen := by
      simp [Issue.severity]
    have hcolumns : (∀ i ∈ columnIssues t [] t.columns, i.severity ≠ .error) ↔
        (t.columns.map fun c => Text.lower c.name).Nodup := by
      have herrors : ∀ i ∈ columnIssues t [] t.columns, i.severity = .error := by
        intro i hi
        obtain ⟨c, -, rfl⟩ := mem_columnIssues hi
        rfl
      rw [errorless_iff herrors, columnIssues_eq_nil_iff]
      simp
    have hkeys := keyIssues_severity t
    rw [tableIssues, List.forall_mem_append, List.forall_mem_append, List.forall_mem_append, hhere, hcolumns, ih,
      List.map_cons, unseen_cons, List.forall_mem_cons]
    tauto

/-! ## Relationships -/

theorem Table.column?_eq_some {t : Table κ} {id : String} {c : Column} (h : t.column? id = some c) :
    c ∈ t.columns ∧ c.id = id :=
  ⟨List.mem_of_find?_eq_some h, by simpa using List.find?_some h⟩

namespace Schema

variable {s : Schema κ}

theorem referred?_eq_some {id : String} {t : Table κ} (h : s.referred? id = some t) : t ∈ s.tables ∧ t.id = id :=
  ⟨List.mem_reverse.1 (List.mem_of_find?_eq_some h), by simpa using List.find?_some h⟩

/-- what may be wrong with an end: its table is missing, or its column -/
theorem mem_endIssues {id : String} {side : Side} {e : Endpoint} {i : Issue} (h : i ∈ s.endIssues id side e) :
    i = .missingTable side id ∨ ∃ name, i = .missingColumn side id name := by
  unfold endIssues at h
  split at h
  · exact Or.inl (List.mem_singleton.1 h)
  · split_ifs at h
    · exact Or.inr ⟨_, List.mem_singleton.1 h⟩
    · cases h

theorem mem_relationshipIssues {r : Relationship} {i : Issue} (h : i ∈ s.relationshipIssues r) :
    ∃ side, i = .missingTable side r.id ∨ ∃ name, i = .missingColumn side r.id name := by
  rcases List.mem_append.1 h with h | h
  · exact ⟨_, mem_endIssues h⟩
  · exact ⟨_, mem_endIssues h⟩

theorem relationshipIssues_severity (r : Relationship) : ∀ i ∈ s.relationshipIssues r, i.severity = .error := by
  intro i hi
  rcases mem_relationshipIssues hi with ⟨side, rfl | ⟨name, rfl⟩⟩ <;> rfl

/-- ends are reported on alike if they refer to tables of one name which both have the column or both lack it -/
theorem endIssues_congr {s' : Schema κ} {e : Endpoint} {P : Table κ → Table κ → Prop}
    (hP : ∀ t t', P t t' → t'.name = t.name ∧ (t'.column? e.columnId).isNone = (t.column? e.columnId).isNone)
    (h : Option.Rel P (s.referred? e.tableId) (s'.referred? e.tableId)) (id : String) (side : Side) :
    s'.endIssues id side e = s.endIssues id side e := by
  unfold endIssues
  generalize s.referred? e.tableId = found, s'.referred? e.tableId = found' at h
  cases h with
  | none => rfl
  | some hfound =>
    obtain ⟨hname, hcolumn⟩ := hP _ _ hfound
    simp only [hname, hcolumn]

/-- **Valid schemas.** No error is found exactly if the names of tables differ in lower case, and so do those of the
columns of each table, and nothing is wrong with any relationship. -/
theorem valid_iff : (IssueSummary.ofIssues s.issues).valid = true ↔
    ((s.tables.map fun t => Text.lower t.name).Nodup ∧
      ∀ t ∈ s.tables, (t.columns.map fun c => Text.lower c.name).Nodup) ∧
      ∀ r ∈ s.relationships, s.relationshipIssues r = [] := by
  have hrelationships : (∀ i ∈ s.relationships.flatMap s.relationshipIssues, i.severity ≠ .error) ↔
      ∀ r ∈ s.relationships, s.relationshipIssues r = [] := by
    rw [errorless_iff, List.flatMap_eq_nil_iff]
    intro i hi
    obtain ⟨r, -, hi⟩ := List.mem_flatMap.1 hi
    exact relationshipIssues_severity r i hi
  rw [IssueSummary.valid_iff, issues, List.forall_mem_append, hrelationships, tableIssues_valid_iff]
  simp

/-- the names of the tables of a valid schema differ, and so do those of the columns of each -/
theorem names_nodup (h : (IssueSummary.ofIssues s.issues).valid = true) :
    (s.tables.map (·.name)).Nodup ∧ ∀ t ∈ s.tables, (t.columns.map (·.name)).Nodup := by
  obtain ⟨⟨htables, hcolumns⟩, -⟩ := valid_iff.1 h
  refine ⟨List.Nodup.of_map Text.lower ?_, fun t ht => List.Nodup.of_map Text.lower ?_⟩
  · rw [List.map_map]
    exact htables
  · rw [List.map_map]
    exact hcolumns t ht

end Schema

end Crowfoot
