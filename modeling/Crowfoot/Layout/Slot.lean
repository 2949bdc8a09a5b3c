import Crowfoot.Layout.Drawing

/-
A free place for a new table. The grid point nearest to the wanted one is tried first, then the cells of growing
square rings around it; if they are all covered, a fixed offset is used.
-/

namespace Crowfoot.Layout

variable {κ : Type} [Coordinate κ]

def slotStepX : Int := 300

def slotStepY : Int := 250

/-- the ring after which the search gives up -/
def slotRings : Nat := 20

def slotFallback : Int := 400

/-- the size that a new table is looked for a place with: one column -/
def slotHeight : Int := heightOf 1

/-- the rectangle of a table on the canvas -/
structure Area (κ : Type) where
  corner : Position κ
  height : Int

/-- whether a new table at a grid point would cover part of an area -/
def Area.covers (a : Area κ) (x y : Int) : Bool :=
  Coordinate.intBelow x (Coordinate.add a.corner.x (Coordinate.ofInt tableWidth))
    && Coordinate.intAbove (x + tableWidth) a.corner.x
    && Coordinate.intBelow y (Coordinate.add a.corner.y (Coordinate.ofInt a.height))
    && Coordinate.intAbove (y + slotHeight) a.corner.y

def isFree (areas : List (Area κ)) (p : Int × Int) : Bool := !areas.any fun a => a.covers p.1 p.2

/-- the cells at one distance from the centre, column by column -/
def ring (r : Nat) : List (Int × Int) :=
  let side : List Int := (List.range (2 * r + 1)).map fun i : Nat => (i : Int) - r
  side.flatMap fun dx => (side.filter fun dy => dx.natAbs = r || dy.natAbs = r).map fun dy => (dx, dy)

/-- the cells in the order of the search -/
def spiral : List (Int × Int) := (List.range slotRings).flatMap fun i => ring (i + 1)

/-- an integer coordinate on the grid; one too large to be represented stays as it is -/
def snapInt (κ : Type) [Coordinate κ] (n : Int) : Int :=
  match snap (Coordinate.ofInt n : κ) with
  | .ok m => m
  | .error _ => n

/-- the grid point of a cell around a centre -/
def cellCorner (κ : Type) [Coordinate κ] (cx cy : Int) (cell : Int × Int) : Int × Int :=
  (snapInt κ (cx + cell.1 * slotStepX), snapInt κ (cy + cell.2 * slotStepY))

/-- the first free grid point around a centre -/
def openSlot (areas : List (Area κ)) (centre : Position κ) : Except NotFinite (Int × Int) := do
  let cx ← snap centre.x
  let cy ← snap centre.y
  if isFree areas (cx, cy) then return (cx, cy)
  else
    match (spiral.map (cellCorner κ cx cy)).find? (isFree areas) with
    | some p => return p
    | none => return (snapInt κ (cx + slotFallback), snapInt κ (cy + slotFallback))

end Crowfoot.Layout

namespace Crowfoot

variable {κ : Type} [Coordinate κ]

/-- the area of a table -/
def Table.area (t : Table κ) : Layout.Area κ := ⟨t.position, t.height⟩

/-- a free place for a new table in a schema, near a point -/
def Schema.openPosition (s : Schema κ) (centre : Position κ) : Except NotFinite (Position κ) := do
  let (x, y) ← Layout.openSlot (s.tables.map Table.area) centre
  return ⟨Coordinate.ofInt x, Coordinate.ofInt y⟩

end Crowfoot
