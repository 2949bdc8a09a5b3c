import Crowfoot.Schema.Basic
import Crowfoot.Text.Basic

/-
The statements that a schema is made of: tables created with columns and constraints, and foreign keys added to
tables. They stand between the text of a script and the schema, and know of neither.
-/

namespace Crowfoot.Ddl

/-- the name of a table, perhaps within a database schema -/
structure TableRef where
  name : String
  schema : Option String
  deriving DecidableEq, Repr

/-- the name with the schema in front; an empty schema counts as none -/
def TableRef.qualified (t : TableRef) : String :=
  match t.schema with
  | some s => if s = "" then t.name else s ++ "." ++ t.name
  | none => t.name

def TableRef.isQualified (t : TableRef) : Bool := (t.schema.getD "") ≠ ""

/-- the table that a foreign key refers to, and its columns where they are named -/
structure Reference where
  table : TableRef
  columns : List String
  deriving DecidableEq, Repr

structure ColumnDef where
  name : String
  typeName : String
  primaryKey : Bool
  unique : Bool
  notNull : Bool
  reference : Option Reference
  deriving DecidableEq, Repr

inductive ConstraintKind where
  | primaryKey
  | unique
  | foreignKey
  deriving DecidableEq, Repr

/-- a constraint over columns of a table -/
structure ConstraintDef where
  kind : ConstraintKind
  columns : List String
  reference : Option Reference
  name : Option String
  deriving DecidableEq, Repr

inductive Statement where
  | createTable (table : TableRef) (columns : List ColumnDef) (constraints : List ConstraintDef)
  | alterTable (table : TableRef) (constraints : List ConstraintDef)
  deriving DecidableEq, Repr

def ConstraintKind.name : ConstraintKind → String
  | primaryKey => "PRIMARY KEY"
  | unique => "UNIQUE"
  | foreignKey => "FOREIGN KEY"

/-- the column type closest to a type of SQL, VARCHAR if nothing is close -/
def columnTypeOf (typeName : String) : ColumnType :=
  let t := Text.upper typeName
  if ["INT", "INTEGER", "BIGINT", "SMALLINT", "SERIAL"].contains t then .integer
  else if ["BOOL", "BOOLEAN"].contains t then .boolean
  else if ["TEXT", "CLOB"].contains t then .text
  else if t.startsWith "TIMESTAMP" || t.startsWith "DATETIME" || ["DATE", "TIME"].contains t then .timestamp
  else .varchar

end Crowfoot.Ddl
