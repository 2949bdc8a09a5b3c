import Crowfoot.Document.Scalar
import Crowfoot.Schema.Edit

/-
The entities of a schema, and what edits are given, as JSON objects.
-/

namespace Crowfoot.Document

open Reading

def readPosition (o : Origin) (v : Json) : Reading (Position Float) := do
  let ms ← members o v
  let (x, y) ← both (optional ms "x" 0 readFloat) (optional ms "y" 0 readFloat)
  return ⟨x, y⟩

def readColumn (o : Origin) (v : Json) : Reading Column := do
  let ms ← members o v
  let (id, name, type, constraints) ←
    both (required ms "id" readText) <|
    both (required ms "name" readText) <|
    both (optional ms "type" .varchar readColumnType) (optional ms "constraints" [] readConstraints)
  return ⟨id, name, type, constraints⟩

/-- a fixed sequence of parts -/
def readTuple {α : Type} (read : Json → Reading α) : Json → Reading (List α)
  | .array vs => items read vs
  | _ => flaw .tupleType

def readList {α : Type} (read : Json → Reading α) : Json → Reading (List α)
  | .array vs => items read vs
  | _ => flaw .listType

def readTable (o : Origin) (v : Json) : Reading (Table Float) := do
  let ms ← members o v
  let (id, name, position, columns) ←
    both (required ms "id" readText) <|
    both (required ms "name" readText) <|
    both (optional ms "position" ⟨0, 0⟩ (readPosition o)) (optional ms "columns" [] (readTuple (readColumn o)))
  return ⟨id, name, position, columns⟩

def readEndpoint (o : Origin) (v : Json) : Reading Endpoint := do
  let ms ← members o v
  let (tableId, columnId) ← both (required ms "tableId" readText) (required ms "columnId" readText)
  return ⟨tableId, columnId⟩

def readRelationship (o : Origin) (v : Json) : Reading Relationship := do
  let ms ← members o v
  let (id, source, target, type) ←
    both (required ms "id" readText) <|
    both (required ms "source" (readEndpoint o)) <|
    both (required ms "target" (readEndpoint o)) (optional ms "type" .oneToMany readCardinality)
  return ⟨id, source, target, type⟩

def readSchema (o : Origin) (v : Json) : Reading (Schema Float) := do
  let ms ← members o v
  let (version, tables, relationships) ←
    both (optional ms "version" 1 readInt) <|
    both (optional ms "tables" [] (readTuple (readTable o)))
      (optional ms "relationships" [] (readTuple (readRelationship o)))
  return ⟨version, tables, relationships⟩

/-! ## What edits are given -/

def readColumnSpec (o : Origin) (v : Json) : Reading ColumnSpec := do
  let ms ← members o v
  let (name, type, constraints) ←
    both (required ms "name" readText) <|
    both (optional ms "type" .varchar readColumnType) (optional ms "constraints" [] readConstraints)
  return ⟨name, type, constraints⟩

def readRelationshipSpec (o : Origin) (v : Json) : Reading RelationshipSpec := do
  let ms ← members o v
  let (source, target, type) ←
    both (required ms "source" (readEndpoint o)) <|
    both (required ms "target" (readEndpoint o)) (optional ms "type" .oneToMany readCardinalityOrShort)
  return ⟨source, target, type⟩

def readTableUpdate (o : Origin) (v : Json) : Reading (TableUpdate Float) := do
  let ms ← members o v
  let (name, position) ←
    both (optional ms "name" none (nullable readText)) (optional ms "position" none (nullable (readPosition o)))
  return ⟨name, position⟩

def readColumnUpdate (o : Origin) (v : Json) : Reading ColumnUpdate := do
  let ms ← members o v
  let (name, type, constraints) ←
    both (optional ms "name" none (nullable readText)) <|
    both (optional ms "type" none (nullable readColumnType))
      (optional ms "constraints" none (nullable readConstraints))
  return ⟨name, type, constraints⟩

def readRelationshipUpdate (o : Origin) (v : Json) : Reading RelationshipUpdate := do
  let ms ← members o v
  let (type, source, target) ←
    both (optional ms "type" none (nullable readCardinalityOrShort)) <|
    both (optional ms "source" none (nullable (readEndpoint o)))
      (optional ms "target" none (nullable (readEndpoint o)))
  return ⟨type, source, target⟩

end Crowfoot.Document
