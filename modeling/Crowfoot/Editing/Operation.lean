import Crowfoot.Layout.Drawing
import Crowfoot.Schema.Junction

/-
Edits as values. An operation names one change of a schema by the ids of what it changes; a run applies operations
one after another, each to what the one before it left, with one source of ids for all.
-/

namespace Crowfoot

inductive Operation (κ : Type) where
  | addTable (name : String) (position : Position κ) (columns : List ColumnSpec)
  | updateTable (tableId : String) (update : TableUpdate κ)
  | removeTable (tableId : String)
  | addColumn (tableId : String) (column : ColumnSpec)
  | updateColumn (tableId columnId : String) (update : ColumnUpdate)
  | removeColumn (tableId columnId : String)
  | reorderColumns (tableId : String) (source target : Int)
  | addRelationship (relationship : RelationshipSpec)
  | updateRelationship (relationshipId : String) (update : RelationshipUpdate)
  | removeRelationship (relationshipId : String)
  | removeAllRelationships
  | applyPositions (positions : List (String × Position κ))
  | relayout
  | junction (tableIdA tableIdB : String)
  deriving DecidableEq, Repr

namespace Operation

variable {κ σ : Type} [Coordinate κ] [IdSupply σ]

/-- the schema after an operation, and the source of ids; only a new layout can fail -/
def apply (s : Schema κ) (ids : σ) : Operation κ → Except (Layout.Fault String) (Schema κ × σ)
  | addTable name position columns => .ok (s.addTable name position columns ids)
  | updateTable tableId update => .ok (s.updateTable tableId update, ids)
  | removeTable tableId => .ok (s.removeTable tableId, ids)
  | addColumn tableId column => .ok (s.addColumn tableId column ids)
  | updateColumn tableId columnId update => .ok (s.updateColumn tableId columnId update, ids)
  | removeColumn tableId columnId => .ok (s.removeColumn tableId columnId, ids)
  | reorderColumns tableId source target => .ok (s.reorderColumns tableId source target, ids)
  | addRelationship relationship => .ok (s.addRelationship relationship ids)
  | updateRelationship relationshipId update => .ok (s.updateRelationship relationshipId update, ids)
  | removeRelationship relationshipId => .ok (s.removeRelationship relationshipId, ids)
  | removeAllRelationships => .ok (s.removeAllRelationships, ids)
  | applyPositions positions => .ok (s.applyPositions positions, ids)
  | relayout => (s.relayout).map fun s => (s, ids)
  | junction tableIdA tableIdB => .ok (s.junction tableIdA tableIdB ids)

/-- one step of a run: an operation that fails changes nothing -/
def step (state : Schema κ × σ) (o : Operation κ) : Schema κ × σ :=
  match o.apply state.1 state.2 with
  | .ok next => next
  | .error _ => state

def run (state : Schema κ × σ) (os : List (Operation κ)) : Schema κ × σ := os.foldl step state

end Operation

end Crowfoot
