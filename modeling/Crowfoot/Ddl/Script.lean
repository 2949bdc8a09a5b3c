import Crowfoot.Ddl.Dialect
import Crowfoot.Ddl.Statement
import Crowfoot.Schema.Issue

/-
Scripts that create a schema: a table is created for each table, then a foreign key is added for each relationship
whose ends exist. A script is a list of commands, which are written out as text in a dialect.
-/

namespace Crowfoot.Ddl

/-- a column as a script declares it -/
structure ColumnLine where
  name : String
  type : ColumnType
  constraints : List Constraint
  deriving DecidableEq, Repr

inductive Command where
  | createTable (name : String) (columns : List ColumnLine)
  | addForeignKey (table constraint column target targetColumn : String)
  deriving DecidableEq, Repr

/-- the constraints that are declared in the line of a column, in the order in which they are written -/
def inlineConstraints : List Constraint := [.primaryKey, .notNull, .unique]

/-! ## From a schema to commands -/

variable {κ : Type}

def tableCommand (t : Table κ) : Command :=
  .createTable t.name (t.columns.map fun c => ⟨c.name, c.type, inlineConstraints.filter c.has⟩)

/-- the table and the column that one end of a relationship refers to -/
def resolveEnd (s : Schema κ) (e : Endpoint) : Option (Table κ × Column) := do
  let t ← s.referred? e.tableId
  let c ← t.column? e.columnId
  return (t, c)

/-- the name of the constraint for a column that refers to another -/
def constraintName (table column : String) : String := "fk_" ++ table ++ "_" ++ column

/-- the foreign key of a relationship, when both of its ends exist -/
def relationshipCommand? (s : Schema κ) (r : Relationship) : Option Command := do
  let (source, column) ← resolveEnd s r.source
  let (target, targetColumn) ← resolveEnd s r.target
  return .addForeignKey source.name (constraintName source.name column.name) column.name target.name targetColumn.name

def script (s : Schema κ) : List Command :=
  s.tables.map tableCommand ++ s.relationships.filterMap (relationshipCommand? s)

/-! ## From commands to text -/

/-- the type of a column in a dialect -/
def typeText : Dialect → ColumnType → String
  | .mysql, .integer => "INT"
  | .mysql, .boolean => "TINYINT(1)"
  | .mysql, .timestamp => "DATETIME"
  | .sqlite, .timestamp => "TEXT"
  | _, .varchar => "VARCHAR(255)"
  | _, .integer => "INTEGER"
  | _, .boolean => "BOOLEAN"
  | _, .text => "TEXT"
  | _, .timestamp => "TIMESTAMP"

def ColumnLine.render (d : Dialect) (l : ColumnLine) : String :=
  " ".intercalate (("  " ++ quotedName d l.name) :: typeText d l.type :: l.constraints.map Constraint.name)

def Command.render (d : Dialect) : Command → String
  | createTable name columns =>
    "CREATE TABLE " ++ quotedName d name ++ " (\n" ++ ",\n".intercalate (columns.map (·.render d)) ++ "\n);"
  | addForeignKey table constraint column target targetColumn =>
    "ALTER TABLE " ++ quotedName d table ++ " ADD CONSTRAINT " ++ quotedName d constraint ++ " FOREIGN KEY ("
      ++ quotedName d column ++ ") REFERENCES " ++ quotedName d target ++ " (" ++ quotedName d targetColumn ++ ");"

/-- the text of a script: its commands with an empty line between them -/
def render (d : Dialect) (cs : List Command) : String := "\n\n".intercalate (cs.map (·.render d))

/-- the script of a schema in the dialect that a user names, or in the first one -/
def exportText (s : Schema κ) (dialect : Option String) : Except UnknownDialect String := do
  let d ← Dialect.resolve? dialect
  return render (d.getD .postgres) (script s)

end Crowfoot.Ddl
