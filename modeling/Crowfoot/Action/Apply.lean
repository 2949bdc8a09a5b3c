import Crowfoot.Action.Basic
import Crowfoot.Layout.Slot
import Crowfoot.Schema.Junction
import Crowfoot.Schema.Basic

/-
What actions do to a schema. Names are looked up in the schema as it is when the action comes; a name that means
nothing leaves the schema as it is, with a warning. Taking steps back is left to whoever keeps a history.
-/

namespace Crowfoot

inductive Warning where
  | tableNotFound (table : String)
  | columnNotFound (table column : String)
  | targetColumnNotFound (table column : String)
  | sourceTableNotFound (table : String)
  | keyColumnNotCreated (table column : String)
  | junctionTablesNotFound (source target : String)
  deriving DecidableEq, Repr

def Warning.message : Warning → String
  | tableNotFound t => "Table not found: " ++ t
  | columnNotFound t c => "Column not found: " ++ t ++ "." ++ c
  | targetColumnNotFound t c => "Could not resolve target column " ++ t ++ "." ++ c
  | sourceTableNotFound t => "Source table not found: " ++ t
  | keyColumnNotCreated t c => "Failed to create FK column " ++ t ++ "." ++ c
  | junctionTablesNotFound s t => "Tables not found for junction: " ++ s ++ ", " ++ t

variable {κ σ : Type} [Coordinate κ] [IdSupply σ]

/-- where a new table of a schema is put -/
abbrev Placer (κ : Type) := Schema κ → Except NotFinite (Position κ)

/-- a free place near a point -/
def placeNear (centre : Position κ) : Placer κ := fun s => s.openPosition centre

/-- what an action makes of a schema -/
structure Applied (κ σ : Type) where
  schema : Schema κ
  ids : σ
  warnings : List Warning

namespace Schema

def addColumnOfSpec (s : Schema κ) (tableId : String) (spec : ColumnSpec) (ids : σ) : Schema κ × σ :=
  s.addColumn tableId { spec with constraints := distinctConstraints spec.constraints } ids

/-- the column at the source of a new relationship: marked as a foreign key, or created like the target; the schema
with it, and the ends if there is such a column -/
def sourceOfLink (s : Schema κ) (link : NamedLink) (target : Column) (ids : σ) :
    Applied κ σ × Option (Table κ × Column) :=
  match s.columnNamed? link.sourceTable link.sourceColumn with
  | some (t, c) =>
    if c.has .foreignKey then (⟨s, ids, []⟩, some (t, c))
    else
      (⟨s.updateColumn t.id c.id ⟨none, none, some (c.constraints ++ [.foreignKey])⟩, ids, []⟩, some (t, c))
  | none =>
    match s.tableNamed? link.sourceTable with
    | none => (⟨s, ids, [.sourceTableNotFound link.sourceTable]⟩, none)
    | some t =>
      let (s, ids) := s.addColumn t.id ⟨link.sourceColumn, target.type, [.foreignKey, .notNull]⟩ ids
      match s.columnNamed? link.sourceTable link.sourceColumn with
      | some source => (⟨s, ids, []⟩, some source)
      | none => (⟨s, ids, [.keyColumnNotCreated link.sourceTable link.sourceColumn]⟩, none)

/-- add a relationship between columns given by their names -/
def addNamedLink (s : Schema κ) (link : NamedLink) (ids : σ) : Applied κ σ :=
  match s.columnNamed? link.targetTable link.targetColumn with
  | none => ⟨s, ids, [.targetColumnNotFound link.targetTable link.targetColumn]⟩
  | some (targetTable, target) =>
    match s.sourceOfLink link target ids with
    | (found, none) => found
    | (found, some (sourceTable, source)) =>
      let (s, ids) := found.schema.addRelationship
        ⟨⟨sourceTable.id, source.id⟩, ⟨targetTable.id, target.id⟩, link.type⟩ found.ids
      ⟨s, ids, found.warnings⟩

/-- the same for several relationships, each in the schema that the one before it left -/
def addNamedLinks (s : Schema κ) (links : List NamedLink) (ids : σ) : Applied κ σ :=
  links.foldl (fun a link =>
    let next := a.schema.addNamedLink link a.ids
    { next with warnings := a.warnings ++ next.warnings }) ⟨s, ids, []⟩

/-- add tables one after another, each at its own place -/
def addPlacedTables (place : Placer κ) : List NewTable → Schema κ → σ → Except NotFinite (Schema κ × σ)
  | [], s, ids => .ok (s, ids)
  | t :: rest, s, ids => do
    let position ← place s
    let (s, ids) := s.addTable t.name position t.columns ids
    addPlacedTables place rest s ids

/-- the source of ids when tables have been added as far as places are found for them -/
def idsAfterTables (place : Placer κ) : List NewTable → Schema κ → σ → σ
  | [], _, ids => ids
  | t :: rest, s, ids =>
    match place s with
    | .error _ => ids
    | .ok position =>
      let (s, ids) := s.addTable t.name position t.columns ids
      idsAfterTables place rest s ids

end Schema

namespace Action

/-- an action without warnings -/
def quietly (r : Schema κ × σ) : Applied κ σ := ⟨r.1, r.2, []⟩

/-- the schema after an action; there is none when a place for a new table is looked for around a point that is
nowhere -/
def apply (place : Placer κ) (s : Schema κ) (ids : σ) : Action → Except NotFinite (Applied κ σ)
  | createTable name => (Schema.addPlacedTables place [⟨name, []⟩] s ids).map quietly
  | createTableWithColumns t => (Schema.addPlacedTables place [t] s ids).map quietly
  | createMultipleTables ts => (Schema.addPlacedTables place ts s ids).map quietly
  | renameTable table newName =>
    match s.tableNamed? table with
    | none => .ok ⟨s, ids, [.tableNotFound table]⟩
    | some t => .ok ⟨s.updateTable t.id ⟨some newName, none⟩, ids, []⟩
  | deleteTable table =>
    match s.tableNamed? table with
    | none => .ok ⟨s, ids, [.tableNotFound table]⟩
    | some t => .ok ⟨s.removeTable t.id, ids, []⟩
  | addColumn table column =>
    match s.tableNamed? table with
    | none => .ok ⟨s, ids, [.tableNotFound table]⟩
    | some t => .ok (quietly (s.addColumnOfSpec t.id column ids))
  | updateColumn table column update =>
    match s.columnNamed? table column with
    | none => .ok ⟨s, ids, [.columnNotFound table column]⟩
    | some (t, c) => .ok ⟨s.updateColumn t.id c.id update, ids, []⟩
  | deleteColumn table column =>
    match s.columnNamed? table column with
    | none => .ok ⟨s, ids, [.columnNotFound table column]⟩
    | some (t, c) => .ok ⟨s.removeColumn t.id c.id, ids, []⟩
  | addRelationship link => .ok (s.addNamedLink link ids)
  | addMultipleRelationships links => .ok (s.addNamedLinks links ids)
  | updateRelationship relationshipId update => .ok ⟨s.updateRelationship relationshipId update, ids, []⟩
  | deleteRelationship relationshipId => .ok ⟨s.removeRelationship relationshipId, ids, []⟩
  | deleteAllRelationships => .ok ⟨s.removeAllRelationships, ids, []⟩
  | generateJunctionTable source target =>
    match s.tableNamed? source, s.tableNamed? target with
    | some a, some b => .ok (quietly (s.junction a.id b.id ids))
    | _, _ => .ok ⟨s, ids, [.junctionTablesNotFound source target]⟩
  | resetSchema => .ok ⟨Schema.empty, ids, []⟩
  | undo _ => .ok ⟨s, ids, []⟩
  | redo _ => .ok ⟨s, ids, []⟩

/-- the tables that an action is to create -/
def newTables : Action → List NewTable
  | createTable name => [⟨name, []⟩]
  | createTableWithColumns t => [t]
  | createMultipleTables ts => ts
  | _ => []

/-- the source of ids after an action; one that is broken off has drawn ids for the tables before -/
def idsAfter (place : Placer κ) (s : Schema κ) (ids : σ) (a : Action) : σ :=
  match a.apply place s ids with
  | .ok after => after.ids
  | .error _ => Schema.idsAfterTables place a.newTables s ids

/-- one step of a run: an action that finds no place for a table changes nothing -/
def step (place : Placer κ) (state : Schema κ × σ) (a : Action) : Schema κ × σ :=
  match a.apply place state.1 state.2 with
  | .ok after => (after.schema, after.ids)
  | .error _ => state

def run (place : Placer κ) (state : Schema κ × σ) (as : List Action) : Schema κ × σ := as.foldl (step place) state

end Action

end Crowfoot
