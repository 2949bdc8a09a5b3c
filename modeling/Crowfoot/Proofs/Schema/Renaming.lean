import Mathlib.Tactic
import Crowfoot.Schema.Basic

/-
Other ids for the entities of a schema. Names, types, constraints and positions stay; the ends of relationships follow
the tables and columns that they mention.
-/

namespace Crowfoot

variable {κ : Type}

/-- other ids for tables, columns and relationships -/
structure Renaming where
  table : String → String
  column : String → String
  relationship : String → String

/-- the same new ids for entities of all kinds -/
def Renaming.all (f : String → String) : Renaming := ⟨f, f, f⟩

section Renamed

variable (ρ : Renaming)

def Column.renamed (c : Column) : Column := { c with id := ρ.column c.id }

def Table.renamed (t : Table κ) : Table κ := { t with id := ρ.table t.id, columns := t.columns.map (Column.renamed ρ) }

def Endpoint.renamed (e : Endpoint) : Endpoint := ⟨ρ.table e.tableId, ρ.column e.columnId⟩

def Relationship.renamed (r : Relationship) : Relationship :=
  { r with id := ρ.relationship r.id, source := r.source.renamed ρ, target := r.target.renamed ρ }

def Schema.renamed (s : Schema κ) : Schema κ :=
  { s with tables := s.tables.map (Table.renamed ρ), relationships := s.relationships.map (Relationship.renamed ρ) }

end Renamed

namespace Schema

/-- the ids that tables have, and those that the ends of relationships mention as ids of tables -/
def mentionedTables (s : Schema κ) : List String :=
  s.tables.map (·.id) ++ s.relationships.flatMap fun r => [r.source.tableId, r.target.tableId]

/-- no table gets the id of another, nor that of one that is mentioned but not there -/
def ToldApart (s : Schema κ) (ρ : Renaming) : Prop :=
  ∀ t ∈ s.tables, ∀ id ∈ s.mentionedTables, ρ.table id = ρ.table t.id → id = t.id

theorem toldApart_of_injective (s : Schema κ) {ρ : Renaming} (h : Function.Injective ρ.table) : s.ToldApart ρ :=
  fun _ _ _ _ heq => h heq

end Schema

end Crowfoot
