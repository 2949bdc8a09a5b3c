import Crowfoot.Schema.Edit

/-
Actions: changes of a schema that name tables and columns by name, as a user or an assistant speaks of them. A request
is an action with the text that is shown for it.
-/

namespace Crowfoot

/-- a table to be created -/
structure NewTable where
  name : String
  columns : List ColumnSpec
  deriving DecidableEq, Repr

/-- a relationship between columns given by their names -/
structure NamedLink where
  sourceTable : String
  sourceColumn : String
  targetTable : String
  targetColumn : String
  type : Cardinality
  deriving DecidableEq, Repr

inductive Action where
  | createTable (name : String)
  | createTableWithColumns (table : NewTable)
  | createMultipleTables (tables : List NewTable)
  | renameTable (table newName : String)
  | deleteTable (table : String)
  /-- constraints may be listed more than once, and count once -/
  | addColumn (table : String) (column : ColumnSpec)
  | updateColumn (table column : String) (update : ColumnUpdate)
  | deleteColumn (table column : String)
  | addRelationship (link : NamedLink)
  | addMultipleRelationships (links : List NamedLink)
  | updateRelationship (relationshipId : String) (update : RelationshipUpdate)
  | deleteRelationship (relationshipId : String)
  | deleteAllRelationships
  | generateJunctionTable (source target : String)
  | resetSchema
  | undo (steps : Int)
  | redo (steps : Int)
  deriving DecidableEq, Repr

namespace Action

/-- the word by which an action is asked for -/
def name : Action → String
  | createTable _ => "createTable"
  | createTableWithColumns _ => "createTableWithColumns"
  | createMultipleTables _ => "createMultipleTables"
  | renameTable _ _ => "renameTable"
  | deleteTable _ => "deleteTable"
  | addColumn _ _ => "addColumn"
  | updateColumn _ _ _ => "updateColumn"
  | deleteColumn _ _ => "deleteColumn"
  | addRelationship _ => "addRelationship"
  | addMultipleRelationships _ => "addMultipleRelationships"
  | updateRelationship _ _ => "updateRelationship"
  | deleteRelationship _ => "deleteRelationship"
  | deleteAllRelationships => "deleteAllRelationships"
  | generateJunctionTable _ _ => "generateJunctionTable"
  | resetSchema => "resetSchema"
  | undo _ => "undo"
  | redo _ => "redo"

/-- an ending for any number but one -/
def plural {α : Type} [DecidableEq α] [OfNat α 1] (n : α) : String := if n = 1 then "" else "s"

/-- a name between double quotes, with nothing escaped -/
def named (s : String) : String := "\"" ++ s ++ "\""

/-- what is said of an action that has no text of its own -/
def summary : Action → String
  | createTable n => "Created table " ++ named n
  | createTableWithColumns t =>
    "Created table " ++ named t.name ++ " with " ++ toString t.columns.length ++ " custom column"
      ++ plural t.columns.length
  | createMultipleTables ts =>
    "Created " ++ toString ts.length ++ " tables: " ++ ", ".intercalate (ts.map (·.name))
  | renameTable t n => "Renamed table " ++ named t ++ " to " ++ named n
  | deleteTable t => "Deleted table " ++ named t
  | addColumn t c => "Added column " ++ named c.name ++ " to " ++ named t
  | updateColumn t c _ => "Updated column " ++ named (t ++ "." ++ c)
  | deleteColumn t c => "Deleted column " ++ named (t ++ "." ++ c)
  | addRelationship l =>
    "Created " ++ l.type.name ++ " relationship: " ++ l.sourceTable ++ "." ++ l.sourceColumn ++ " -> "
      ++ l.targetTable ++ "." ++ l.targetColumn
  | addMultipleRelationships ls => "Created " ++ toString ls.length ++ " relationships"
  | updateRelationship _ _ => "Updated relationship"
  | deleteRelationship _ => "Deleted relationship"
  | deleteAllRelationships => "Deleted all relationships"
  | generateJunctionTable s t => "Created junction table for " ++ s ++ " and " ++ t
  | resetSchema => "Reset schema"
  | undo n => "Undid " ++ toString n ++ " step" ++ plural n
  | redo n => "Redid " ++ toString n ++ " step" ++ plural n

/-- what is said instead when the action changed nothing -/
def unchangedMessage : Action → String
  | undo _ => "Nothing to undo"
  | redo _ => "Nothing to redo"
  | a => a.name ++ ": nothing changed"

end Action

/-- an action that is asked for, with a text to show for it; an empty text stands for the usual one -/
structure ActionRequest where
  message : String
  action : Action
  deriving DecidableEq, Repr

/-- what is said of an action that changed something -/
def ActionRequest.describe (r : ActionRequest) : String :=
  if r.message = "" then r.action.summary else r.message

end Crowfoot
