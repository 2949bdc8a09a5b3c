import Crowfoot.Schema.Edit

/-
Junction tables. A many-to-many link between two tables is drawn as a third table between them, with a column that
refers to the key of each. It needs both tables to have exactly one primary key.
-/

namespace Crowfoot

variable {κ σ : Type}

/-- how far below the middle of its two tables a junction table is put -/
def junctionDrop : Int := 100

/-- the only primary key of a table -/
def Table.soleKey? (t : Table κ) : Option Column :=
  match t.primaryKeys with
  | [key] => some key
  | _ => none

/-- the middle of two tables, moved down -/
def junctionPosition [Coordinate κ] (a b : Table κ) : Position κ :=
  ⟨Coordinate.mean a.position.x b.position.x,
    Coordinate.add (Coordinate.mean a.position.y b.position.y) (Coordinate.ofInt junctionDrop)⟩

/-- the column of a junction table that refers to a table's key -/
def junctionColumn (parent : Table κ) (key : Column) : ColumnSpec := ⟨parent.name ++ "_id", key.type, [.notNull]⟩

namespace Schema

/-- the id of the last column of the last table -/
def lastColumnId (s : Schema κ) : String :=
  ((s.tables.getLast?.bind (·.columns.getLast?)).map (·.id)).getD ""

/-- give the last table a column for the key of each of two tables, then a relationship from each of these columns -/
def linkLast [IdSupply σ] (s : Schema κ) (a b : Table κ) (keyA keyB : Column) (ids : σ) : Schema κ × σ :=
  let junctionId := (s.tables.getLast?.map (·.id)).getD ""
  let (s, ids) := s.addColumn junctionId (junctionColumn a keyA) ids
  let linkA := s.lastColumnId
  let (s, ids) := s.addColumn junctionId (junctionColumn b keyB) ids
  let linkB := s.lastColumnId
  let (s, ids) := s.addRelationship ⟨⟨junctionId, linkA⟩, ⟨a.id, keyA.id⟩, .oneToMany⟩ ids
  s.addRelationship ⟨⟨junctionId, linkB⟩, ⟨b.id, keyB.id⟩, .oneToMany⟩ ids

/-- add the junction of two tables with their keys -/
def addJunction [Coordinate κ] [IdSupply σ] (s : Schema κ) (a b : Table κ) (keyA keyB : Column) (ids : σ) :
    Schema κ × σ :=
  let made := s.addTable (a.name ++ "_" ++ b.name) (junctionPosition a b) [] ids
  made.1.linkLast a b keyA keyB made.2

/-- the junction of two tables; none when one is missing or has no single key -/
def junction? [Coordinate κ] [IdSupply σ] (s : Schema κ) (idA idB : String) (ids : σ) : Option (Schema κ × σ) := do
  let a ← s.table? idA
  let b ← s.table? idB
  let keyA ← a.soleKey?
  let keyB ← b.soleKey?
  return s.addJunction a b keyA keyB ids

/-- the schema with the junction of two tables, or unchanged -/
def junction [Coordinate κ] [IdSupply σ] (s : Schema κ) (idA idB : String) (ids : σ) : Schema κ × σ :=
  (s.junction? idA idB ids).getD (s, ids)

end Schema

end Crowfoot
