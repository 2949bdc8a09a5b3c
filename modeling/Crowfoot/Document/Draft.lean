import Crowfoot.Document.Entity
import Crowfoot.Editing.Operation

/-
Operations whose parts are still documents. A part is read when the operation comes to it, so that ids drawn before a
part that is refused are gone all the same.
-/

namespace Crowfoot.Document

inductive Draft where
  | addTable (name position : Json) (columns : List Json)
  | updateTable (tableId : String) (update : Json)
  | removeTable (tableId : String)
  | addColumn (tableId : String) (column : Json)
  | updateColumn (tableId columnId : String) (update : Json)
  | removeColumn (tableId columnId : String)
  | reorderColumns (tableId : String) (source target : Int)
  | addRelationship (relationship : Json)
  | updateRelationship (relationshipId : String) (update : Json)
  | removeRelationship (relationshipId : String)
  | removeAllRelationships
  | applyPositions (positions : List (String × Json))
  | relayout
  | junction (tableIdA tableIdB : String)

/-- why a draft does nothing -/
inductive DraftError where
  | refused (cause : Refusal)
  /-- a place given by less than two numbers -/
  | tooFewCoordinates (count : Nat)
  | tooManyCoordinates
  | layout (cause : Layout.Fault String)
  deriving DecidableEq, Repr

/-- a place: the list of both coordinates, or an object -/
def readPlace : Json → Except DraftError (Position Float)
  | .array [x, y] =>
    match Reading.both (Reading.within (.key "x") (readFloat x)) (Reading.within (.key "y") (readFloat y)) with
    | .ok (x, y) => .ok ⟨x, y⟩
    | .error r => .error (.refused r)
  | .array vs => .error (if vs.length < 2 then .tooFewCoordinates vs.length else .tooManyCoordinates)
  | v => (readPosition .value v).mapError .refused

/-- the columns before the first one that is refused, and why that one is -/
def leadingColumns : List Json → List ColumnSpec × Option Refusal
  | [] => ([], none)
  | v :: rest =>
    match readColumnSpec .value v with
    | .error r => ([], some r)
    | .ok spec =>
      let (specs, refusal) := leadingColumns rest
      (spec :: specs, refusal)

/-- what a new table needs beside its columns: a place, which is read first, and a name -/
def readHeading (name position : Json) : Except DraftError (String × Position Float) := do
  let p ← readPlace position
  let n ← (Reading.within (.key "name") (readText name)).mapError DraftError.refused
  return (n, p)

/-- where tables move to; only what is said of tables that exist is read, and null means nowhere -/
def readMoves (positions : List (String × Json)) (tableIds : List String) :
    Except DraftError (List (String × Position Float)) := do
  let moves ← tableIds.mapM fun id => match positions.lookup id with
    | none | some .null => return none
    | some v => return some (id, ← readPlace v)
  return moves.reduceOption

namespace Draft

variable {σ : Type} [IdSupply σ]

/-- an operation that is complete as soon as one part has been read -/
def applyRead {α : Type} (s : Schema Float) (ids : σ) (part : Reading α) (f : α → Operation Float) :
    Except DraftError (Schema Float) × σ :=
  match part with
  | .error r => (.error (.refused r), ids)
  | .ok x =>
    match (f x).apply s ids with
    | .ok (s, ids) => (.ok s, ids)
    | .error fault => (.error (.layout fault), ids)

/-- the schema after a draft, or why there is none; in either case the source of ids as it is left -/
def apply (s : Schema Float) (ids : σ) : Draft → Except DraftError (Schema Float) × σ
  | addTable name position columns =>
    let (specs, refusal) := leadingColumns columns
    let heading : Except DraftError (String × Position Float) := match refusal with
      | some r => .error (.refused r)
      | none => readHeading name position
    match heading with
    | .error e => (.error e, (s.addTable "" ⟨0, 0⟩ specs ids).2)
    | .ok (name, position) =>
      let (s, ids) := s.addTable name position specs ids
      (.ok s, ids)
  | updateTable tableId update => applyRead s ids (readTableUpdate .value update) (.updateTable tableId)
  | removeTable tableId => applyRead s ids (.ok ()) fun _ => .removeTable tableId
  | addColumn tableId column => applyRead s ids (readColumnSpec .value column) (.addColumn tableId)
  | updateColumn tableId columnId update =>
    applyRead s ids (readColumnUpdate .value update) (.updateColumn tableId columnId)
  | removeColumn tableId columnId => applyRead s ids (.ok ()) fun _ => .removeColumn tableId columnId
  | reorderColumns tableId source target => applyRead s ids (.ok ()) fun _ => .reorderColumns tableId source target
  | addRelationship relationship => applyRead s ids (readRelationshipSpec .value relationship) .addRelationship
  | updateRelationship relationshipId update =>
    applyRead s ids (readRelationshipUpdate .value update) (.updateRelationship relationshipId)
  | removeRelationship relationshipId => applyRead s ids (.ok ()) fun _ => .removeRelationship relationshipId
  | removeAllRelationships => applyRead s ids (.ok ()) fun _ => .removeAllRelationships
  | applyPositions positions =>
    match readMoves positions (s.tables.map (·.id)) with
    | .error e => (.error e, ids)
    | .ok moves => (.ok (s.applyPositions moves), ids)
  | relayout => applyRead s ids (.ok ()) fun _ => .relayout
  | junction tableIdA tableIdB => applyRead s ids (.ok ()) fun _ => .junction tableIdA tableIdB

/-- what is left of a draft: one that does nothing leaves the schema as it is, and the source of ids as it left it -/
def settle (s : Schema Float) : Except DraftError (Schema Float) × σ → Schema Float × σ
  | (.ok s', ids) => (s', ids)
  | (.error _, ids) => (s, ids)

def step (state : Schema Float × σ) (d : Draft) : Schema Float × σ := settle state.1 (d.apply state.1 state.2)

def run (state : Schema Float × σ) (ds : List Draft) : Schema Float × σ := ds.foldl step state

end Draft

end Crowfoot.Document
