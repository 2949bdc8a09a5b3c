import Mathlib.Tactic
import Crowfoot.Ddl.Script

/-
Scripts and issues. A script leaves out the relationships that cannot be written; the issues of a schema name those
whose ends are missing. Either of them looks both ends up by itself, and they agree.

- `endIssues_eq_nil_iff`: an end has no issue exactly if a script finds its column. Of several tables with one id both
  mean the last one, and of several columns the first.
- `exportText_agrees`: a script has one command for each table, then one for each relationship without an issue.
-/

namespace Crowfoot

variable {κ : Type}

namespace Schema

open Ddl

variable {s : Schema κ}

theorem endIssues_eq_nil_iff {id : String} {side : Side} {e : Endpoint} :
    s.endIssues id side e = [] ↔ (resolveEnd s e).isSome := by
  unfold endIssues resolveEnd
  cases s.referred? e.tableId with
  | none => simp
  | some t => cases hcolumn : t.column? e.columnId <;> simp [hcolumn]

/-- a relationship has no issue exactly if a script has a command for it -/
theorem relationshipIssues_eq_nil_iff {r : Relationship} :
    s.relationshipIssues r = [] ↔ (relationshipCommand? s r).isSome := by
  rw [relationshipIssues, List.append_eq_nil_iff, endIssues_eq_nil_iff, endIssues_eq_nil_iff]
  unfold relationshipCommand?
  cases resolveEnd s r.source with
  | none => simp
  | some source => cases resolveEnd s r.target <;> simp

/-- the relationships that add nothing to the issues of a schema -/
def sound (s : Schema κ) : List Relationship := s.relationships.filter fun r => (s.relationshipIssues r).isEmpty

end Schema

namespace Ddl

/-- a command adds the foreign key of a relationship: on the column that its source means, to the one that its target
means, all of them under their names -/
def AddsKeyOf (s : Schema κ) (r : Relationship) (c : Command) : Prop :=
  ∃ t column u targetColumn, s.referred? r.source.tableId = some t ∧ t.column? r.source.columnId = some column ∧
    s.referred? r.target.tableId = some u ∧ u.column? r.target.columnId = some targetColumn ∧
    c = .addForeignKey t.name ("fk_" ++ t.name ++ "_" ++ column.name) column.name u.name targetColumn.name

theorem resolveEnd_eq_some {s : Schema κ} {e : Endpoint} {t : Table κ} {c : Column} :
    resolveEnd s e = some (t, c) ↔ s.referred? e.tableId = some t ∧ t.column? e.columnId = some c := by
  simp only [resolveEnd, Option.bind_eq_bind, Option.bind_eq_some_iff]
  constructor
  · rintro ⟨u, hu, d, hd, heq⟩
    cases heq
    exact ⟨hu, hd⟩
  · rintro ⟨ht, hc⟩
    exact ⟨t, ht, c, hc, rfl⟩

theorem relationshipCommand?_adds {s : Schema κ} {r : Relationship} {c : Command}
    (h : relationshipCommand? s r = some c) : AddsKeyOf s r c := by
  simp only [relationshipCommand?, Option.bind_eq_bind, Option.bind_eq_some_iff] at h
  obtain ⟨⟨t, column⟩, hsource, ⟨u, targetColumn⟩, htarget, heq⟩ := h
  obtain ⟨ht, hcolumn⟩ := resolveEnd_eq_some.1 hsource
  obtain ⟨hu, htargetColumn⟩ := resolveEnd_eq_some.1 htarget
  refine ⟨t, column, u, targetColumn, ht, hcolumn, hu, htargetColumn, ?_⟩
  rw [← Option.some.inj heq]
  rfl

/-- the commands for relationships go with those that have no issue, one for one and in order -/
theorem forall₂_sound (s : Schema κ) :
    List.Forall₂ (AddsKeyOf s) s.sound (s.relationships.filterMap (relationshipCommand? s)) := by
  unfold Schema.sound
  induction s.relationships with
  | nil => exact List.Forall₂.nil
  | cons r rs ih =>
    have hissues : s.relationshipIssues r = [] ↔ (relationshipCommand? s r).isSome :=
      Schema.relationshipIssues_eq_nil_iff
    cases hcommand : relationshipCommand? s r with
    | none =>
      have hne : s.relationshipIssues r ≠ [] := by simp [hissues, hcommand]
      rwa [List.filter_cons_of_neg (by simpa using hne), List.filterMap_cons_none hcommand]
    | some c =>
      have hnil : s.relationshipIssues r = [] := by simp [hissues, hcommand]
      rw [List.filter_cons_of_pos (by simp [hnil]), List.filterMap_cons_some hcommand]
      exact List.Forall₂.cons (relationshipCommand?_adds hcommand) ih

/-- **Scripts and issues agree.** Of any schema, in any dialect, the script creates every table once, in order; then it
adds one foreign key for each relationship that has no issue, in order, and nothing else. -/
theorem exportText_agrees (s : Schema κ) :
    ∃ keys : List Command, List.Forall₂ (AddsKeyOf s) s.sound keys ∧
      (s.tables.map tableCommand ++ keys).length = s.tables.length + s.sound.length ∧
      ∀ dialect, exportText s dialect = (Dialect.resolve? dialect).map fun d =>
        "\n\n".intercalate ((s.tables.map tableCommand ++ keys).map (Command.render (d.getD .postgres))) := by
  refine ⟨_, forall₂_sound s, ?_, fun dialect => ?_⟩
  · rw [List.length_append, List.length_map, (forall₂_sound s).length_eq]
  · unfold exportText
    cases Dialect.resolve? dialect <;> rfl

end Ddl

end Crowfoot
