import Crowfoot.Document.Entity
import Crowfoot.Json.Reader
import Crowfoot.Json.Writer
import Crowfoot.Schema.Issue

/-
Schema documents: the JSON form in which schemas are stored and exchanged. A document must have a version number and
lists of tables and of relationships before its entities are looked at. What edits are given is written in the same way,
with null for a part that is kept, and so are issues with their counts and flaws with their places.
-/

namespace Crowfoot.Document

/-! ## Writing -/

def positionJson (p : Position Float) : Json := .object [("x", .float p.x), ("y", .float p.y)]

def constraintsJson (cs : List Constraint) : Json := Json.texts (cs.map Constraint.name)

def columnJson (c : Column) : Json :=
  .object [("id", .text c.id), ("name", .text c.name), ("type", .text c.type.name),
    ("constraints", constraintsJson c.constraints)]

def tableJson (t : Table Float) : Json :=
  .object [("id", .text t.id), ("name", .text t.name), ("position", positionJson t.position),
    ("columns", .array (t.columns.map columnJson))]

def endpointJson (e : Endpoint) : Json := .object [("tableId", .text e.tableId), ("columnId", .text e.columnId)]

def relationshipJson (r : Relationship) : Json :=
  .object [("id", .text r.id), ("source", endpointJson r.source), ("target", endpointJson r.target),
    ("type", .text r.type.name)]

def schemaJson (s : Schema Float) : Json :=
  .object [("version", .int s.version), ("tables", .array (s.tables.map tableJson)),
    ("relationships", .array (s.relationships.map relationshipJson))]

/-- the text of a schema document -/
def encode (s : Schema Float) : Except Decimal.Overlong String := Json.pretty (schemaJson s)

/-- what has been written of a document when its version turns out to have too many digits -/
def unfinished : String := "\x7b\n  \"version\": "

/-! ## Edits -/

/-- a value that may be missing -/
def orNull {α : Type} (f : α → Json) : Option α → Json
  | some x => f x
  | none => .null

def columnSpecJson (c : ColumnSpec) : Json :=
  .object [("name", .text c.name), ("type", .text c.type.name), ("constraints", constraintsJson c.constraints)]

def relationshipSpecJson (r : RelationshipSpec) : Json :=
  .object [("source", endpointJson r.source), ("target", endpointJson r.target), ("type", .text r.type.name)]

def tableUpdateJson (u : TableUpdate Float) : Json :=
  .object [("name", Json.ofText? u.name), ("position", orNull positionJson u.position)]

def columnUpdateJson (u : ColumnUpdate) : Json :=
  .object [("name", Json.ofText? u.name), ("type", Json.ofText? (u.type.map ColumnType.name)),
    ("constraints", orNull constraintsJson u.constraints)]

def relationshipUpdateJson (u : RelationshipUpdate) : Json :=
  .object [("type", Json.ofText? (u.type.map Cardinality.name)), ("source", orNull endpointJson u.source),
    ("target", orNull endpointJson u.target)]

/-! ## Reports -/

/-- a member for an id that is there and not empty -/
def idMember (name : String) : Option String → List (String × Json)
  | none | some "" => []
  | some id => [(name, .text id)]

def issueJson (i : Issue) : Json :=
  .object ([("type", .text i.severity.name), ("message", .text i.message)] ++ idMember "tableId" i.tableId?
    ++ idMember "columnId" i.columnId? ++ idMember "relationshipId" i.relationshipId?)

def issuesJson (is : List Issue) : Json := .array (is.map issueJson)

def summaryJson (s : IssueSummary) : Json :=
  .object [("total", .int s.total), ("errors", .int s.errors), ("warnings", .int s.warnings), ("valid", .bool s.valid)]

def stepJson : Step → Json
  | .key name => .text name
  | .index i => .int i

def flawJson (f : Flaw) : Json := .object [("loc", .array (f.place.map stepJson)), ("type", .text f.kind.code)]

def flawsJson (fs : List Flaw) : Json := .array (fs.map flawJson)

/-! ## Reading -/

/-- why a text is no schema document -/
inductive FormatError where
  | missingVersion
  | missingTables
  | missingRelationships
  | notJson (message : String)
  | flawed (flaws : List Flaw)
  /-- a plain value where constraints are listed; not a fault of the format in the narrow sense -/
  | notIterable (cause : Uniterable)
  /-- an integer with too many digits; not a fault of the format in the narrow sense either -/
  | overlong (cause : Decimal.Overlong)
  deriving DecidableEq, Repr

namespace FormatError

/-- how many flaws there are, in words -/
def countText (n : Nat) : String := toString n ++ (if n = 1 then " validation error" else " validation errors")

def message : FormatError → String
  | missingVersion => "Invalid schema: missing version"
  | missingTables => "Invalid schema: missing tables array"
  | missingRelationships => "Invalid schema: missing relationships array"
  | notJson m => "Invalid JSON: " ++ m
  | flawed fs => "Invalid schema: " ++ countText fs.length ++ " for Schema"
  | notIterable u => u.message
  | overlong c => c.message

/-- whether an error is a fault of the format -/
def ofFormat : FormatError → Bool
  | notIterable _ | overlong _ => false
  | _ => true

end FormatError

def isNumber : Json → Bool
  | .int _ | .float _ => true
  | _ => false

def isArray : Json → Bool
  | .array _ => true
  | _ => false

/-- the schema of a JSON value -/
def decodeJson (v : Json) : Except FormatError (Schema Float) :=
  if !((v.member? "version").map isNumber).getD false then .error .missingVersion
  else if !((v.member? "tables").map isArray).getD false then .error .missingTables
  else if !((v.member? "relationships").map isArray).getD false then .error .missingRelationships
  else
    match readSchema .value v with
    | .ok s => .ok s
    | .error (.flawed fs) => .error (.flawed fs)
    | .error (.notIterable u) => .error (.notIterable u)

/-- the schema of a text -/
def decode (text : String) : Except FormatError (Schema Float) :=
  match Json.parse text with
  | .error (.malformed f) => .error (.notJson (f.message text.toList))
  | .error (.overlong c) => .error (.overlong c)
  | .ok v => decodeJson v

end Crowfoot.Document
