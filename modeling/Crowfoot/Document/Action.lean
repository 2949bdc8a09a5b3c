import Crowfoot.Action.Basic
import Crowfoot.Document.Interchange

/-
Requests for actions as JSON objects. The member `action` says which one is meant, and with it which other members
there are.
-/

namespace Crowfoot.Document

open Reading

/-! ## Reading -/

def readNewTable (o : Origin) (v : Json) : Reading NewTable := do
  let ms ← members o v
  let (name, columns) ←
    both (required ms "name" readText) (optional ms "columns" [] (readList (readColumnSpec o)))
  return ⟨name, columns⟩

def readLinkMembers (ms : List (String × Json)) : Reading NamedLink := do
  let (sourceTable, sourceColumn, targetTable, targetColumn, type) ←
    both (required ms "sourceTable" readText) <|
    both (required ms "sourceColumn" readText) <|
    both (required ms "targetTable" readText) <|
    both (required ms "targetColumn" readText) (optional ms "type" .oneToMany readCardinalityOrShort)
  return ⟨sourceTable, sourceColumn, targetTable, targetColumn, type⟩

def readNamedLink (o : Origin) (v : Json) : Reading NamedLink := do
  readLinkMembers (← members o v)

/-- how many steps may be taken back at once -/
def stepLimit : Int := 50

def readSteps (ms : List (String × Json)) : Reading Int := optional ms "steps" 1 (readBounded 1 stepLimit)

/-- two texts -/
def readNames (ms : List (String × Json)) (first second : String) : Reading (String × String) :=
  both (required ms first readText) (required ms second readText)

/-- a column inside the action that adds it, where constraints are a plain list -/
def readAddedColumn (ms : List (String × Json)) : Reading (String × ColumnSpec) := do
  let (table, name, type, constraints) ←
    both (required ms "tableName" readText) <|
    both (required ms "name" readText) <|
    both (optional ms "type" .varchar readColumnType) (optional ms "constraints" [] (readList readConstraint))
  return (table, ⟨name, type, constraints⟩)

/-- the members of their own that actions have, by the word for the action -/
def actionReaders (o : Origin) : List (String × (List (String × Json) → Reading Action)) :=
  [("createTable", fun ms => (required ms "name" readText).map .createTable),
    ("createTableWithColumns", fun ms =>
      (both (required ms "name" readText) (optional ms "columns" [] (readList (readColumnSpec o)))).map
        fun (name, columns) => .createTableWithColumns ⟨name, columns⟩),
    ("createMultipleTables", fun ms =>
      (required ms "tables" (readList (readNewTable o))).map .createMultipleTables),
    ("renameTable", fun ms => (readNames ms "tableName" "newName").map fun (t, n) => .renameTable t n),
    ("deleteTable", fun ms => (required ms "tableName" readText).map .deleteTable),
    ("addColumn", fun ms => (readAddedColumn ms).map fun (t, c) => .addColumn t c),
    ("updateColumn", fun ms =>
      (both (readNames ms "tableName" "columnName") (required ms "updates" (readColumnUpdate o))).map
        fun ((t, c), u) => .updateColumn t c u),
    ("deleteColumn", fun ms => (readNames ms "tableName" "columnName").map fun (t, c) => .deleteColumn t c),
    ("addRelationship", fun ms => (readLinkMembers ms).map .addRelationship),
    ("addMultipleRelationships", fun ms =>
      (required ms "relationships" (readList (readNamedLink o))).map .addMultipleRelationships),
    ("updateRelationship", fun ms =>
      (both (required ms "relationshipId" readText) (required ms "updates" (readRelationshipUpdate o))).map
        fun (id, u) => .updateRelationship id u),
    ("deleteRelationship", fun ms => (required ms "relationshipId" readText).map .deleteRelationship),
    ("deleteAllRelationships", fun _ => .ok .deleteAllRelationships),
    ("generateJunctionTable", fun ms =>
      (readNames ms "sourceTable" "targetTable").map fun (s, t) => .generateJunctionTable s t),
    ("resetSchema", fun _ => .ok .resetSchema),
    ("undo", fun ms => (readSteps ms).map .undo),
    ("redo", fun ms => (readSteps ms).map .redo)]

/-- the text of a request and its action; flaws are listed with the text first, but for a relationship's own members -/
def readRequestMembers (name : String) (readAction : List (String × Json) → Reading Action)
    (ms : List (String × Json)) : Reading ActionRequest :=
  let message := optional ms "message" "" readText
  if name = "addRelationship" then (both (readAction ms) message).map fun (a, m) => ⟨m, a⟩
  else (both message (readAction ms)).map fun (m, a) => ⟨m, a⟩

def readRequest (o : Origin) (v : Json) : Reading ActionRequest := do
  let ms ← members .request v
  match ms.lookup "action" with
  | none => flaw .unionTagNotFound
  | some (.text name) =>
    match (actionReaders o).lookup name with
    | some readAction => within (.key name) (readRequestMembers name readAction ms)
    | none => flaw .unionTagInvalid
  | some _ => flaw .unionTagInvalid

def readRequests (o : Origin) : Json → Reading (List ActionRequest) := readList (readRequest o)

/-! ## Writing -/

def newTableJson (t : NewTable) : Json :=
  .object [("name", .text t.name), ("columns", .array (t.columns.map columnSpecJson))]

def linkMembers (l : NamedLink) : List (String × Json) :=
  [("sourceTable", .text l.sourceTable), ("sourceColumn", .text l.sourceColumn), ("targetTable", .text l.targetTable),
    ("targetColumn", .text l.targetColumn), ("type", .text l.type.name)]

/-- the members of its own that an action has -/
def actionMembers : Action → List (String × Json)
  | .createTable name => [("name", .text name)]
  | .createTableWithColumns t => [("name", .text t.name), ("columns", .array (t.columns.map columnSpecJson))]
  | .createMultipleTables ts => [("tables", .array (ts.map newTableJson))]
  | .renameTable t n => [("tableName", .text t), ("newName", .text n)]
  | .deleteTable t => [("tableName", .text t)]
  | .addColumn t c =>
    [("tableName", .text t), ("name", .text c.name), ("type", .text c.type.name),
      ("constraints", constraintsJson c.constraints)]
  | .updateColumn t c u => [("tableName", .text t), ("columnName", .text c), ("updates", columnUpdateJson u)]
  | .deleteColumn t c => [("tableName", .text t), ("columnName", .text c)]
  | .addRelationship l => linkMembers l
  | .addMultipleRelationships ls => [("relationships", .array (ls.map fun l => .object (linkMembers l)))]
  | .updateRelationship id u => [("relationshipId", .text id), ("updates", relationshipUpdateJson u)]
  | .deleteRelationship id => [("relationshipId", .text id)]
  | .deleteAllRelationships => []
  | .generateJunctionTable s t => [("sourceTable", .text s), ("targetTable", .text t)]
  | .resetSchema => []
  | .undo n => [("steps", .int n)]
  | .redo n => [("steps", .int n)]

def requestJson (r : ActionRequest) : Json :=
  .object (("message", .text r.message) :: ("action", .text r.action.name) :: actionMembers r.action)

end Crowfoot.Document
