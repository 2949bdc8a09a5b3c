import Crowfoot.Schema.Basic
import Crowfoot.Text.Basic

/-
Issues of a schema: names used twice, tables without a key, and relationships whose ends do not exist. Finding them
changes nothing, and the same schema always gives the same list: first the tables in order, then the relationships.
-/

namespace Crowfoot

inductive Severity where
  | error
  | warning
  deriving DecidableEq, Repr

/-- which end of a relationship -/
inductive Side where
  | source
  | target
  deriving DecidableEq, Repr

/-- one finding, with the ids and names it is about -/
inductive Issue where
  | duplicateTable (tableId tableName : String)
  | noPrimaryKey (tableId tableName : String)
  | duplicateColumn (tableId tableName columnId columnName : String)
  | missingTable (side : Side) (relationshipId : String)
  | missingColumn (side : Side) (relationshipId tableName : String)
  deriving DecidableEq, Repr

namespace Side

def name : Side → String
  | source => "source"
  | target => "target"

end Side

namespace Severity

def name : Severity → String
  | error => "error"
  | warning => "warning"

end Severity

namespace Issue

def severity : Issue → Severity
  | noPrimaryKey .. => .warning
  | _ => .error

def message : Issue → String
  | duplicateTable _ name => "Duplicate table name: \"" ++ name ++ "\""
  | noPrimaryKey _ name => "Table \"" ++ name ++ "\" has no primary key"
  | duplicateColumn _ table _ column => "Duplicate column name \"" ++ column ++ "\" in table \"" ++ table ++ "\""
  | missingTable side _ => "Relationship references non-existent " ++ side.name ++ " table"
  | missingColumn side _ table => "Relationship references non-existent " ++ side.name ++ " column in \"" ++ table ++ "\""

/-- the table an issue is about -/
def tableId? : Issue → Option String
  | duplicateTable id _ | noPrimaryKey id _ | duplicateColumn id .. => some id
  | _ => none

def columnId? : Issue → Option String
  | duplicateColumn _ _ id _ => some id
  | _ => none

def relationshipId? : Issue → Option String
  | missingTable _ id | missingColumn _ id _ => some id
  | _ => none

end Issue

variable {κ : Type}

/-- the columns whose lower case name an earlier column has -/
def columnIssues (t : Table κ) : List String → List Column → List Issue
  | _, [] => []
  | seen, c :: rest =>
    let key := Text.lower c.name
    (if seen.contains key then [.duplicateColumn t.id t.name c.id c.name] else [])
      ++ columnIssues t (key :: seen) rest

/-- a table that has columns but no key among them -/
def keyIssues (t : Table κ) : List Issue :=
  if !t.columns.isEmpty && t.primaryKeys.isEmpty then [.noPrimaryKey t.id t.name] else []

/-- the issues of tables, given the lower case names of those before them -/
def tableIssues : List String → List (Table κ) → List Issue
  | _, [] => []
  | seen, t :: rest =>
    let key := Text.lower t.name
    (if seen.contains key then [.duplicateTable t.id t.name] else [])
      ++ keyIssues t ++ columnIssues t [] t.columns ++ tableIssues (key :: seen) rest

namespace Schema

/-- the last table with an id, which is the one that ends of relationships refer to -/
def referred? (s : Schema κ) (id : String) : Option (Table κ) := s.tables.reverse.find? (·.id = id)

/-- the issue of one end of a relationship -/
def endIssues (s : Schema κ) (relationshipId : String) (side : Side) (e : Endpoint) : List Issue :=
  match s.referred? e.tableId with
  | none => [.missingTable side relationshipId]
  | some t => if (t.column? e.columnId).isNone then [.missingColumn side relationshipId t.name] else []

def relationshipIssues (s : Schema κ) (r : Relationship) : List Issue :=
  s.endIssues r.id .source r.source ++ s.endIssues r.id .target r.target

def issues (s : Schema κ) : List Issue := tableIssues [] s.tables ++ s.relationships.flatMap s.relationshipIssues

end Schema

/-- how many issues there are of each severity -/
structure IssueSummary where
  total : Nat
  errors : Nat
  warnings : Nat
  deriving DecidableEq, Repr

namespace IssueSummary

def ofIssues (is : List Issue) : IssueSummary where
  total := is.length
  errors := is.countP (·.severity = .error)
  warnings := is.countP (·.severity = .warning)

/-- a schema with nothing but warnings is valid -/
def valid (s : IssueSummary) : Bool := s.errors == 0

end IssueSummary

end Crowfoot
