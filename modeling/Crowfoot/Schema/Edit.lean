import Crowfoot.Schema.Ids

/-
Changing a schema. Every edit gives a new schema; ids that name nothing leave it as it is. A table keeps at most the
one primary key that was set last, and whatever is removed takes the relationships that touch it along.
-/

namespace Crowfoot

variable {κ σ : Type}

/-! ## What an edit is given -/

/-- a column to be created -/
structure ColumnSpec where
  name : String
  type : ColumnType
  constraints : List Constraint
  deriving DecidableEq, Repr

/-- a relationship to be created -/
structure RelationshipSpec where
  source : Endpoint
  target : Endpoint
  type : Cardinality
  deriving DecidableEq, Repr

/-- the parts of a table to change -/
structure TableUpdate (κ : Type) where
  name : Option String
  position : Option (Position κ)
  deriving DecidableEq, Repr

/-- the parts of a column to change; constraints are replaced as a whole -/
structure ColumnUpdate where
  name : Option String
  type : Option ColumnType
  constraints : Option (List Constraint)
  deriving DecidableEq, Repr

/-- the parts of a relationship to change -/
structure RelationshipUpdate where
  type : Option Cardinality
  source : Option Endpoint
  target : Option Endpoint
  deriving DecidableEq, Repr

namespace TableUpdate

def apply (u : TableUpdate κ) (t : Table κ) : Table κ :=
  { t with name := u.name.getD t.name, position := u.position.getD t.position }

end TableUpdate

namespace ColumnUpdate

def apply (u : ColumnUpdate) (c : Column) : Column :=
  { c with name := u.name.getD c.name, type := u.type.getD c.type, constraints := u.constraints.getD c.constraints }

/-- whether the update makes its column the primary key -/
def setsPrimaryKey (u : ColumnUpdate) : Bool := (u.constraints.getD []).contains .primaryKey

end ColumnUpdate

namespace RelationshipUpdate

def apply (u : RelationshipUpdate) (r : Relationship) : Relationship :=
  { r with type := u.type.getD r.type, source := u.source.getD r.source, target := u.target.getD r.target }

end RelationshipUpdate

/-! ## Columns of one table -/

/-- constraints in the order given, each of them once -/
def distinctConstraints (cs : List Constraint) : List Constraint :=
  cs.foldl (fun seen c => if seen.contains c then seen else seen ++ [c]) []

/-- the primary key is taken from every column but those with one id -/
def stripPrimaryKey (keep : String) (cs : List Column) : List Column :=
  cs.map fun c => if c.id = keep then c else c.without .primaryKey

namespace ColumnSpec

def build (spec : ColumnSpec) (id : String) : Column := ⟨id, spec.name, spec.type, spec.constraints⟩

end ColumnSpec

/-- the key that a new table starts with -/
def keySpec : ColumnSpec := ⟨"id", .integer, [.primaryKey, .notNull]⟩

/-- the two columns that keep the times of a row -/
def timestampSpecs : List ColumnSpec :=
  [⟨"created_at", .timestamp, [.notNull]⟩, ⟨"updated_at", .timestamp, [.notNull]⟩]

/-- columns for a list of specifications, with an id drawn for each in turn -/
def drawColumns [IdSupply σ] : List ColumnSpec → σ → List Column × σ
  | [], ids => ([], ids)
  | spec :: specs, ids =>
    let (id, ids) := IdSupply.newId columnLetter ids
    let (columns, ids) := drawColumns specs ids
    (spec.build id :: columns, ids)

/-- a new column at the end; if it is a primary key, the others lose theirs -/
def appendColumn (columns : List Column) (c : Column) : List Column :=
  let columns := columns ++ [c]
  if c.isPrimaryKey then stripPrimaryKey c.id columns else columns

/-- a new table's columns: the key, the caller's and the two times; the caller's last key replaces the first one -/
def tableColumns (standard extra : List Column) : List Column :=
  let columns := standard.take 1 ++ extra ++ standard.drop 1
  match (extra.filter Column.isPrimaryKey).getLast? with
  | some key => stripPrimaryKey key.id columns
  | none => columns

/-- move the item at one index so that it stands at another -/
def moveItem {α : Type} (xs : List α) (source target : Nat) : List α :=
  match xs[source]? with
  | some x => (xs.eraseIdx source).insertIdx target x
  | none => xs

/-- the first item that satisfies a test is changed -/
def mapFirst {α : Type} (p : α → Bool) (f : α → α) : List α → List α
  | [] => []
  | x :: xs => if p x then f x :: xs else x :: mapFirst p f xs

namespace Table

/-- change the columns with one id; a primary key set here leaves the others without -/
def updateColumn (t : Table κ) (columnId : String) (u : ColumnUpdate) : Table κ :=
  match t.column? columnId with
  | none => t
  | some _ =>
    let columns := t.columns.map fun c => if c.id = columnId then u.apply c else c
    { t with columns := if u.setsPrimaryKey then stripPrimaryKey columnId columns else columns }

/-- move one column; an index outside the columns moves nothing, and a target outside them means the nearest end -/
def reorderColumns (t : Table κ) (source target : Int) : Table κ :=
  if 0 ≤ source ∧ source < t.columns.length then
    { t with columns := moveItem t.columns source.toNat (min (max target 0) (t.columns.length - 1)).toNat }
  else t

/-- the table at the position listed for its id; one that is already at its place keeps the position it has -/
def moved [Coordinate κ] (positions : List (String × Position κ)) (t : Table κ) : Table κ :=
  match positions.lookup t.id with
  | some p => if p.same t.position then t else { t with position := p }
  | none => t

end Table

/-! ## Schemas -/

namespace Schema

/-- change the first table with an id -/
def mapTable (s : Schema κ) (tableId : String) (f : Table κ → Table κ) : Schema κ :=
  { s with tables := mapFirst (·.id = tableId) f s.tables }

/-- append a table with the standard columns around the given ones; its id is drawn first -/
def addTable [IdSupply σ] (s : Schema κ) (name : String) (position : Position κ) (specs : List ColumnSpec) (ids : σ) :
    Schema κ × σ :=
  let (tableId, ids) := IdSupply.newId tableLetter ids
  let (standard, ids) := drawColumns (keySpec :: timestampSpecs) ids
  let (extra, ids) := drawColumns specs ids
  ({ s with tables := s.tables ++ [⟨tableId, name, position, tableColumns standard extra⟩] }, ids)

def updateTable (s : Schema κ) (tableId : String) (u : TableUpdate κ) : Schema κ := s.mapTable tableId u.apply

/-- remove the tables with an id and every relationship with an end on one -/
def removeTable (s : Schema κ) (tableId : String) : Schema κ :=
  match s.table? tableId with
  | none => s
  | some _ =>
    { s with
      tables := s.tables.filter (·.id ≠ tableId)
      relationships := s.relationships.filter fun r => !r.touchesTable tableId }

/-- append a column to a table; no id is drawn when there is no such table -/
def addColumn [IdSupply σ] (s : Schema κ) (tableId : String) (spec : ColumnSpec) (ids : σ) : Schema κ × σ :=
  match s.table? tableId with
  | none => (s, ids)
  | some _ =>
    let (id, ids) := IdSupply.newId columnLetter ids
    (s.mapTable tableId fun t => { t with columns := appendColumn t.columns (spec.build id) }, ids)

def updateColumn (s : Schema κ) (tableId columnId : String) (u : ColumnUpdate) : Schema κ :=
  s.mapTable tableId fun t => t.updateColumn columnId u

/-- remove the columns with an id from a table, and every relationship with an end there -/
def removeColumn (s : Schema κ) (tableId columnId : String) : Schema κ :=
  match (s.table? tableId).bind (·.column? columnId) with
  | none => s
  | some _ =>
    let s := s.mapTable tableId fun t => { t with columns := t.columns.filter (·.id ≠ columnId) }
    { s with relationships := s.relationships.filter fun r => !r.touchesColumn tableId columnId }

def reorderColumns (s : Schema κ) (tableId : String) (source target : Int) : Schema κ :=
  s.mapTable tableId fun t => t.reorderColumns source target

/-- append a relationship, whether or not its ends exist -/
def addRelationship [IdSupply σ] (s : Schema κ) (spec : RelationshipSpec) (ids : σ) : Schema κ × σ :=
  let (id, ids) := IdSupply.newId relationshipLetter ids
  ({ s with relationships := s.relationships ++ [⟨id, spec.source, spec.target, spec.type⟩] }, ids)

def updateRelationship (s : Schema κ) (relationshipId : String) (u : RelationshipUpdate) : Schema κ :=
  { s with relationships := s.relationships.map fun r => if r.id = relationshipId then u.apply r else r }

def removeRelationship (s : Schema κ) (relationshipId : String) : Schema κ :=
  { s with relationships := s.relationships.filter (·.id ≠ relationshipId) }

def removeAllRelationships (s : Schema κ) : Schema κ := { s with relationships := [] }

/-- move the tables whose ids are in the list -/
def applyPositions [Coordinate κ] (s : Schema κ) (positions : List (String × Position κ)) : Schema κ :=
  { s with tables := s.tables.map (Table.moved positions) }

end Schema

end Crowfoot
