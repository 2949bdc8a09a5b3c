import Crowfoot.Layout.Rank

/-
Coordinates of the nodes of a layered drawing. Rows are stacked by height. Along a row every node is drawn towards
the median of its neighbours in the row above or below, in sweeps down and up, and neighbours keep their distance.
-/

namespace Crowfoot.Layout

variable {κ ν : Type} [Coordinate κ]

/-- how many sweeps are made -/
def placementSweeps : Nat := 8

/-- the vertical gap between two rows -/
def rowGap : Int := 80

open Coordinate

/-- the middle value, or the mean of the two middle ones -/
def median (xs : List κ) : κ :=
  let sorted := xs.mergeSort fun a b => !lt b a
  let middle := sorted.length / 2
  let at' (i : Nat) : κ := sorted[i]?.getD (ofInt 0)
  if sorted.length % 2 = 1 then at' middle else mean (at' (middle - 1)) (at' middle)

/-! ## One row -/

/-- a row's items with the distance that each must keep from the one before it -/
def distances (separation : ν → ν → κ) : List ν → List κ
  | a :: b :: rest => separation a b :: distances separation (b :: rest)
  | _ => []

/-- push each item far enough right of the one before, which ends at `last` -/
def pushRight : κ → List κ → List κ → List κ
  | last, gap :: gaps, x :: xs =>
    let here := larger x (add last gap)
    here :: pushRight here gaps xs
  | _, _, _ => []

/-- push each item far enough left of the one after it, which stands at `last`; the lists run from right to left -/
def pushLeft : κ → List κ → List κ → List κ
  | last, gap :: gaps, x :: xs =>
    let here := smaller x (sub last gap)
    here :: pushLeft here gaps xs
  | _, _, _ => []

/-- places near the desired ones that keep the distances: the mean of pushing right and of pushing left -/
def placeRow (gaps desired : List κ) : List κ :=
  let right := match desired with
    | [] => []
    | x :: xs => x :: pushRight x gaps xs
  let left := match desired.reverse with
    | [] => []
    | x :: xs => (x :: pushLeft x gaps.reverse xs).reverse
  right.zipWith mean left

/-! ## All rows -/

/-- rows of nodes, each with the coordinate of its middle -/
abbrev Rows (ν κ : Type) := List (List (ν × κ))

/-- where a node is; the origin if it is nowhere -/
def coordinateOf [DecidableEq ν] (rows : Rows ν κ) (n : ν) : κ := (rows.findSome? (·.lookup n)).getD (ofInt 0)

/-- a row packed from left to right -/
def packedFrom (separation : ν → ν → κ) : ν → κ → List ν → List κ
  | _, _, [] => []
  | last, x, n :: rest =>
    let here := add x (separation last n)
    here :: packedFrom separation n here rest

/-- a row packed and centred on zero -/
def packed (separation : ν → ν → κ) : List ν → List (ν × κ)
  | [] => []
  | n :: rest =>
    let xs := ofInt 0 :: packedFrom separation n (ofInt 0) rest
    let shift := half (xs.getLast?.getD (ofInt 0))
    (n :: rest).zip (xs.map fun x => sub x shift)

/-- draw the nodes of one row towards the medians of their neighbours -/
def settleRow [DecidableEq ν] (separation : ν → ν → κ) (neighbours : ν → List ν) (rows : Rows ν κ) (r : Nat) :
    Rows ν κ :=
  let row := rows[r]?.getD []
  let nodes := row.map (·.1)
  let desired := row.map fun (n, x) =>
    match (neighbours n).map (coordinateOf rows) with
    | [] => x
    | xs => median xs
  rows.set r (nodes.zip (placeRow (distances separation nodes) desired))

/-- one sweep: down from the second row, or up from the last but one -/
def settleRows [DecidableEq ν] (separation : ν → ν → κ) (above below : ν → List ν) (down : Bool) (rows : Rows ν κ) :
    Rows ν κ :=
  if down then ((List.range rows.length).drop 1).foldl (settleRow separation above) rows
  else (List.range (rows.length - 1)).reverse.foldl (settleRow separation below) rows

/-- the rows after all sweeps -/
def settled [DecidableEq ν] (separation : ν → ν → κ) (above below : ν → List ν) (rows : Rows ν κ) : Rows ν κ :=
  (List.range placementSweeps).foldl (fun rows i => settleRows separation above below (i % 2 == 0) rows) rows

/-- the horizontal middle of every node -/
def horizontal [DecidableEq ν] (separation : ν → ν → κ) (edges : List (Edge ν)) (layers : List (List ν)) : Rows ν κ :=
  settled separation (predecessors edges) (successors edges) (layers.map (packed separation))

/-- the vertical middle of every node: rows from `top` down, each as high as its highest node -/
def verticalFrom (height : ν → Int) : κ → List (List ν) → Rows ν κ
  | _, [] => []
  | top, layer :: rest =>
    let rowHeight := (layer.map height).max?.getD 0
    layer.map (fun n => (n, add top (half (ofInt rowHeight))))
      :: verticalFrom height (add top (ofInt (rowHeight + rowGap))) rest

end Crowfoot.Layout
