import Crowfoot.Schema.Coordinate
import Crowfoot.Text.Basic

/-
A relational schema drawn on a canvas: tables with typed columns at positions, and relationships between columns.
Every entity is found by the first one that carries its id; nothing here requires ids to be distinct or the ends of
a relationship to exist. By name, letter case is ignored, and of several entities with one name the first is meant.
-/

namespace Crowfoot

/-! ## Kinds -/

inductive ColumnType where
  | varchar
  | integer
  | boolean
  | text
  | timestamp
  deriving DecidableEq, Repr

inductive Constraint where
  | primaryKey
  | foreignKey
  | notNull
  | unique
  deriving DecidableEq, Repr

inductive Cardinality where
  | oneToOne
  | oneToMany
  | manyToMany
  deriving DecidableEq, Repr

namespace ColumnType

def name : ColumnType → String
  | varchar => "VARCHAR"
  | integer => "INTEGER"
  | boolean => "BOOLEAN"
  | text => "TEXT"
  | timestamp => "TIMESTAMP"

def all : List ColumnType := [varchar, integer, boolean, text, timestamp]

def ofName? (s : String) : Option ColumnType := all.find? fun t => t.name = s

end ColumnType

namespace Constraint

def name : Constraint → String
  | primaryKey => "PRIMARY KEY"
  | foreignKey => "FOREIGN KEY"
  | notNull => "NOT NULL"
  | unique => "UNIQUE"

def all : List Constraint := [primaryKey, foreignKey, notNull, unique]

def ofName? (s : String) : Option Constraint := all.find? fun c => c.name = s

end Constraint

namespace Cardinality

def name : Cardinality → String
  | oneToOne => "one-to-one"
  | oneToMany => "one-to-many"
  | manyToMany => "many-to-many"

def all : List Cardinality := [oneToOne, oneToMany, manyToMany]

def ofName? (s : String) : Option Cardinality := all.find? fun c => c.name = s

/-- the short forms `1:1`, `1:N` and `N:M`, given in upper case -/
def ofShortForm? (s : String) : Option Cardinality :=
  if s = "1:1" then some oneToOne
  else if s = "1:N" then some oneToMany
  else if s = "N:M" then some manyToMany
  else none

end Cardinality

/-! ## Entities -/

/-- the top left corner of a table -/
structure Position (κ : Type) where
  x : κ
  y : κ
  deriving DecidableEq, Repr

structure Column where
  id : String
  name : String
  type : ColumnType
  constraints : List Constraint
  deriving DecidableEq, Repr

structure Table (κ : Type) where
  id : String
  name : String
  position : Position κ
  columns : List Column
  deriving DecidableEq, Repr

/-- one side of a relationship: a column of a table -/
structure Endpoint where
  tableId : String
  columnId : String
  deriving DecidableEq, Repr

/-- a link from a referencing column to the column it refers to -/
structure Relationship where
  id : String
  source : Endpoint
  target : Endpoint
  type : Cardinality
  deriving DecidableEq, Repr

structure Schema (κ : Type) where
  version : Int
  tables : List (Table κ)
  relationships : List Relationship
  deriving DecidableEq, Repr

variable {κ : Type}

namespace Position

/-- the corner of the canvas -/
def origin [Coordinate κ] : Position κ := ⟨Coordinate.ofInt 0, Coordinate.ofInt 0⟩

def same [Coordinate κ] (p q : Position κ) : Bool := Coordinate.same p.x q.x && Coordinate.same p.y q.y

end Position

namespace Column

def has (c : Column) (k : Constraint) : Bool := c.constraints.contains k

def isPrimaryKey (c : Column) : Bool := c.has .primaryKey

/-- the column without one constraint -/
def without (c : Column) (k : Constraint) : Column := { c with constraints := c.constraints.filter (· ≠ k) }

end Column

namespace Table

def column? (t : Table κ) (id : String) : Option Column := t.columns.find? (·.id = id)

def primaryKeys (t : Table κ) : List Column := t.columns.filter Column.isPrimaryKey

def same [Coordinate κ] (t u : Table κ) : Bool :=
  t.id == u.id && t.name == u.name && t.position.same u.position && t.columns == u.columns

end Table

namespace Relationship

def touchesTable (r : Relationship) (tableId : String) : Bool :=
  r.source.tableId == tableId || r.target.tableId == tableId

def touchesColumn (r : Relationship) (tableId columnId : String) : Bool :=
  r.source == ⟨tableId, columnId⟩ || r.target == ⟨tableId, columnId⟩

end Relationship

namespace Schema

/-- the schema with nothing in it, at the first version of the document format -/
def empty : Schema κ := ⟨1, [], []⟩

def table? (s : Schema κ) (id : String) : Option (Table κ) := s.tables.find? (·.id = id)

def relationship? (s : Schema κ) (id : String) : Option Relationship := s.relationships.find? (·.id = id)

/-- the ids of a table and of its columns -/
def tableIds (t : Table κ) : List String := t.id :: t.columns.map (·.id)

/-- every id in the schema -/
def allIds (s : Schema κ) : List String := s.tables.flatMap tableIds ++ s.relationships.map (·.id)

/-- whether two schemas are the same value; coordinates are compared as places -/
def same [Coordinate κ] (s t : Schema κ) : Bool :=
  s.version == t.version && s.tables.isEqv t.tables Table.same && s.relationships == t.relationships

end Schema

/-! ## By name -/

namespace Table

def columnNamed? (t : Table κ) (name : String) : Option Column :=
  let key := Text.lower name
  t.columns.find? fun c => Text.lower c.name = key

end Table

namespace Schema

def tableNamed? (s : Schema κ) (name : String) : Option (Table κ) :=
  let key := Text.lower name
  s.tables.find? fun t => Text.lower t.name = key

/-- a column by the names of its table and of itself -/
def columnNamed? (s : Schema κ) (tableName columnName : String) : Option (Table κ × Column) := do
  let t ← s.tableNamed? tableName
  let c ← t.columnNamed? columnName
  return (t, c)

end Schema

end Crowfoot
