import Crowfoot.Layout.Rank
import Crowfoot.Layout.Crossing
import Crowfoot.Layout.Placement
import Crowfoot.Schema.Edit

/-
The layered drawing of a schema: tables that refer to others stand above them. Cycles are broken, tables ranked, long
edges cut, crossings reduced and coordinates assigned; then everything is moved to start at the corner of the canvas
and each table's corner is put on the grid.
-/

namespace Crowfoot.Layout

/-! ## Sizes -/

def tableWidth : Int := 280

def headerHeight : Int := 40

def columnHeight : Int := 30

/-- the gap to either side of a table, half of which belongs to it -/
def tableGap : Int := 60

/-- the same for a bend -/
def bendGap : Int := 20

def gridSize : Int := 16

/-- the height of a table with so many columns -/
def heightOf (columns : Nat) : Int := headerHeight + columns * columnHeight

variable {κ ι : Type}

/-- the number of the line nearest to a coordinate on a grid of some size, where halfway means the higher one -/
def lineOf [Coordinate κ] (size x : κ) : Except NotFinite Int :=
  Coordinate.floor (Coordinate.add (Coordinate.div x size) (Coordinate.half (Coordinate.ofInt 1)))

/-- the same on the grid that tables are put on -/
def gridLine [Coordinate κ] (x : κ) : Except NotFinite Int := lineOf (Coordinate.ofInt gridSize) x

/-- the nearest coordinate on the grid -/
def snap [Coordinate κ] (x : κ) : Except NotFinite Int := (gridLine x).map (· * gridSize)

/-- the nearest coordinate on a grid of a whole size; a grid without a positive size has none -/
def snapTo? [Coordinate κ] (size : Int) (x : κ) : Except NotFinite (Option Int) :=
  if size ≤ 0 then .ok none else (lineOf (Coordinate.ofInt size) x).map fun k => some (k * size)

/-- the nearest coordinate on a grid whose size need not be whole; one without a positive size moves nothing -/
def snapToFine (size x : Float) : Except NotFinite Float :=
  if size ≤ 0 then .ok x else (lineOf size x).map fun k => Float.ofInt k * size

namespace Node

def width : Node ι → Int
  | table _ => tableWidth
  | bend _ => 0

/-- the gap that a node asks for at either side -/
def gap : Node ι → Int
  | table _ => tableGap
  | bend _ => bendGap

/-- the least distance between the middles of two neighbours in a row -/
def separation [Coordinate κ] (a b : Node ι) : κ :=
  Coordinate.add (Coordinate.half (Coordinate.ofInt (a.width + b.width)))
    (Coordinate.half (Coordinate.ofInt (a.gap + b.gap)))

end Node

/-! ## Drawing -/

/-- what a drawing needs to know of a table -/
structure Box (ι : Type) where
  id : ι
  height : Int
  deriving DecidableEq, Repr

/-- why there is no drawing -/
inductive Fault (ι : Type) where
  | unplaced (node : Node ι)
  | notFinite (cause : NotFinite)
  deriving DecidableEq, Repr

def Fault.message : Fault String → String
  | unplaced (.table id) => "No place for the table " ++ Text.quoted id
  | unplaced (.bend _) => "No place for a bend"
  | notFinite c => c.message

variable [Coordinate κ] [DecidableEq ι]

/-- the layers of a drawing and its edges, which join neighbouring layers -/
def arrange (ids : List ι) (links : List (ι × ι)) : Except (Node ι) (List (List (Node ι)) × List (Edge (Node ι))) := do
  let edges := breakCycles ids (linkEdges ids links)
  let ranks ← (assignRanks ids edges).mapError Node.table
  let tableRank (id : ι) : Nat := ((ranks.lookup id).getD 0).toNat
  let ranked := splitEdges tableRank edges
  let depth := ((ids.map tableRank) ++ ranked.bends).max?.getD 0
  let layers := layersOf (ranked.rankOf tableRank) depth (walkOrder (ids.map Node.table) ranked.edges)
  let layers ← orderLayers ranked.edges layers
  return (layers, ranked.edges)

/-- the least of some coordinates -/
def least (xs : List κ) : κ :=
  match xs with
  | [] => Coordinate.ofInt 0
  | x :: rest => rest.foldl Coordinate.smaller x

/-- half of an integer length -/
def halfLength (n : Int) : κ := Coordinate.half (Coordinate.ofInt n)

/-- the corner of one node on the grid, when the drawing starts at `left` and `top` -/
def cornerOf (xs ys : Rows (Node ι) κ) (height : Node ι → Int) (left top : κ) (n : Node ι) :
    Except NotFinite (Int × Int) := do
  let x ← snap (Coordinate.sub (Coordinate.sub (coordinateOf xs n) left) (halfLength n.width))
  let y ← snap (Coordinate.sub (Coordinate.sub (coordinateOf ys n) top) (halfLength (height n)))
  return (x, y)

/-- the corners of all boxes, each id once, in order of first occurrence; of boxes with one id the last one's height
counts -/
def draw (κ : Type) [Coordinate κ] (boxes : List (Box ι)) (links : List (ι × ι)) :
    Except (Fault ι) (List (ι × Int × Int)) := do
  let ids := boxes.map (·.id)
  let (layers, edges) ← (arrange ids links).mapError Fault.unplaced
  let height : Node ι → Int
    | .table id => ((boxes.reverse.find? (·.id = id)).map (·.height)).getD 0
    | .bend _ => 0
  let xs : Rows (Node ι) κ := horizontal Node.separation edges layers
  let ys : Rows (Node ι) κ := verticalFrom height (Coordinate.ofInt 0) layers
  let left := least (xs.flatten.map fun (n, x) => Coordinate.sub x (halfLength n.width))
  let top := least (ys.flatten.map fun (n, y) => Coordinate.sub y (halfLength (height n)))
  ((distinct ids).mapM fun id => do
    let (x, y) ← cornerOf xs ys height left top (.table id)
    return (id, x, y)).mapError Fault.notFinite

end Crowfoot.Layout

namespace Crowfoot

variable {κ : Type} [Coordinate κ]

namespace Table

/-- the height of a table as it is drawn -/
def height (t : Table κ) : Int := Layout.heightOf t.columns.length

def box (t : Table κ) : Layout.Box String := ⟨t.id, t.height⟩

end Table

namespace Schema

/-- the pairs of tables that relationships join -/
def links (s : Schema κ) : List (String × String) := s.relationships.map fun r => (r.source.tableId, r.target.tableId)

/-- where the drawing of a schema puts its tables -/
def drawing (s : Schema κ) : Except (Layout.Fault String) (List (String × Int × Int)) :=
  if s.tables.isEmpty then .ok [] else Layout.draw κ (s.tables.map Table.box) s.links

/-- the schema with its tables moved to where the drawing puts them -/
def relayout (s : Schema κ) : Except (Layout.Fault String) (Schema κ) := do
  let places ← s.drawing
  return s.applyPositions (places.map fun (id, x, y) => (id, ⟨Coordinate.ofInt x, Coordinate.ofInt y⟩))

end Schema

end Crowfoot
