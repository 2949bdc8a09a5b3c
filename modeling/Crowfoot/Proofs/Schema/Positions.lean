import Crowfoot.Proofs.Schema.Identity
import Crowfoot.Ddl.Script

/-
Positions of tables. Moving tables changes nothing else, and nothing that is said of a schema depends on where its
tables are.

- `applyPositions_content`: ids, names and columns stay.
- `applyPositions_issues`, `applyPositions_exportText`: so do the issues of a schema and its script in every dialect.
- `applyPositions_twice`: tables that are at the places listed for them are not moved again.
- `Schema.same_self`: a schema is the same as itself, if every coordinate is at its own place.
-/

namespace Crowfoot

variable {κ : Type} [Coordinate κ]

/-! ## Moved tables -/

/-- what there is to a table apart from its position -/
def Table.content (t : Table κ) : String × String × List Column := (t.id, t.name, t.columns)

namespace Table

variable (positions : List (String × Position κ)) (t : Table κ)

@[simp] theorem moved_name : (t.moved positions).name = t.name := by
  unfold moved
  split
  · split_ifs <;> rfl
  · rfl

@[simp] theorem moved_content : (t.moved positions).content = t.content := by simp [content]

/-- a table that has been moved is at the place listed for it -/
theorem moved_moved : (t.moved positions).moved positions = t.moved positions := by
  conv_lhs => rw [moved]
  rw [moved_id]
  unfold moved
  cases hplace : positions.lookup t.id with
  | none => rfl
  | some p =>
    by_cases hsame : p.same t.position = true
    · simp [hsame]
    · simp only [hsame, Bool.false_eq_true, if_false]
      split_ifs <;> rfl

end Table

/-! ## Issues and scripts -/

theorem columnIssues_moved (positions : List (String × Position κ)) (t : Table κ) (seen : List String)
    (cs : List Column) : columnIssues (t.moved positions) seen cs = columnIssues t seen cs := by
  induction cs generalizing seen with
  | nil => rfl
  | cons c cs ih => rw [columnIssues, columnIssues, ih, Table.moved_id, Table.moved_name]

theorem keyIssues_moved (positions : List (String × Position κ)) (t : Table κ) :
    keyIssues (t.moved positions) = keyIssues t := by
  simp [keyIssues, Table.primaryKeys]

theorem tableIssues_moved (positions : List (String × Position κ)) (seen : List String) (ts : List (Table κ)) :
    tableIssues seen (ts.map (Table.moved positions)) = tableIssues seen ts := by
  induction ts generalizing seen with
  | nil => rfl
  | cons t ts ih =>
    rw [List.map_cons, tableIssues, tableIssues, ih, keyIssues_moved, columnIssues_moved, Table.moved_id,
      Table.moved_name, Table.moved_columns]

namespace Schema

variable (s : Schema κ) (positions : List (String × Position κ))

theorem applyPositions_content :
    (s.applyPositions positions).tables.map Table.content = s.tables.map Table.content := by
  rw [applyPositions, List.map_map]
  exact List.map_congr_left fun t _ => t.moved_content positions

/-- an end refers to the same table as before, moved -/
theorem applyPositions_referred? (id : String) :
    (s.applyPositions positions).referred? id = (s.referred? id).map (Table.moved positions) := by
  simp only [referred?, applyPositions]
  rw [← List.map_reverse, List.find?_map]
  congr 2
  funext t
  simp

theorem applyPositions_endIssues (relationshipId : String) (side : Side) (e : Endpoint) :
    (s.applyPositions positions).endIssues relationshipId side e = s.endIssues relationshipId side e := by
  unfold endIssues
  rw [applyPositions_referred?]
  cases s.referred? e.tableId with
  | none => rfl
  | some t => simp [Table.column?]

/-- moving tables settles no issue and makes none -/
theorem applyPositions_issues : (s.applyPositions positions).issues = s.issues := by
  have hrelationships : (s.applyPositions positions).relationshipIssues = s.relationshipIssues := by
    funext r
    simp [relationshipIssues, applyPositions_endIssues]
  unfold issues
  rw [hrelationships]
  simp only [applyPositions, tableIssues_moved]

theorem applyPositions_resolveEnd (e : Endpoint) :
    Ddl.resolveEnd (s.applyPositions positions) e =
      (Ddl.resolveEnd s e).map fun found => (found.1.moved positions, found.2) := by
  unfold Ddl.resolveEnd
  rw [applyPositions_referred?]
  cases s.referred? e.tableId with
  | none => rfl
  | some t =>
    simp only [Option.map_some, Option.bind_eq_bind, Option.bind_some, Table.column?, Table.moved_columns]
    cases t.columns.find? (·.id = e.columnId) <;> rfl

/-- the script of a schema is the same wherever its tables are -/
theorem applyPositions_exportText (dialect : Option String) :
    Ddl.exportText (s.applyPositions positions) dialect = Ddl.exportText s dialect := by
  have htable : (Ddl.tableCommand ∘ Table.moved positions : Table κ → Ddl.Command) = Ddl.tableCommand := by
    funext t
    simp [Ddl.tableCommand]
  have hrelationship : Ddl.relationshipCommand? (s.applyPositions positions) = Ddl.relationshipCommand? s := by
    funext r
    unfold Ddl.relationshipCommand?
    rw [applyPositions_resolveEnd, applyPositions_resolveEnd]
    cases Ddl.resolveEnd s r.source with
    | none => rfl
    | some source => cases Ddl.resolveEnd s r.target <;> simp
  have hscript : Ddl.script (s.applyPositions positions) = Ddl.script s := by
    unfold Ddl.script
    rw [hrelationship]
    simp only [applyPositions, List.map_map, htable]
  rw [Ddl.exportText, hscript]
  rfl

theorem applyPositions_twice :
    (s.applyPositions positions).applyPositions positions = s.applyPositions positions := by
  simp only [applyPositions, List.map_map, mk.injEq, true_and, and_true]
  exact List.map_congr_left fun t _ => t.moved_moved positions

/-! ## Sameness -/

omit positions in
/-- a schema is the same as itself -/
theorem same_self (h : ∀ x : κ, Coordinate.same x x = true) : s.same s = true := by
  have htables : s.tables.isEqv s.tables Table.same = true := by
    induction s.tables with
    | nil => rfl
    | cons t ts ih => simp [List.isEqv, Table.same, Position.same, h, ih]
  simp [same, htables]

end Schema

end Crowfoot
