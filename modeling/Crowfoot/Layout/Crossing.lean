import Crowfoot.Layout.Graph

/-
Crossings between neighbouring layers, and fewer of them: a node moves to the mean place of its neighbours in the
layer above or below, in sweeps down and up, and the best arrangement met on the way is kept.
-/

namespace Crowfoot.Layout

variable {α : Type} [DecidableEq α]

/-- how many sweeps are made at most -/
def orderingSweeps : Nat := 24

/-- the places of some nodes in a layer; a node that is not there is the error -/
def placesIn (layer : List α) (ns : List α) : Except α (List Nat) :=
  ns.mapM fun n => match layer.idxOf? n with
    | some i => .ok i
    | none => .error n

/-! ## Counting -/

/-- the two ends of each edge from a layer to the next as places -/
def edgeEnds (below : α → List α) (upper lower : List α) : Except α (List (Nat × Nat)) := do
  let ends ← upper.zipIdx.mapM fun (n, i) => do
    let places ← placesIn lower (below n)
    return places.map fun j => (i, j)
  return ends.flatten

def endsInOrder (a b : Nat × Nat) : Bool := a.1 < b.1 || (a.1 == b.1 && a.2 ≤ b.2)

/-- the pairs of an item and a later one that go down on the right while starting further left -/
def inversions : List (Nat × Nat) → Nat
  | [] => 0
  | a :: rest => rest.countP (fun b => a.1 < b.1 && b.2 < a.2) + inversions rest

/-- the crossings between two layers -/
def crossingsBetween (below : α → List α) (upper lower : List α) : Except α Nat := do
  let ends ← edgeEnds below upper lower
  return inversions (ends.mergeSort endsInOrder)

/-- the crossings of a whole drawing -/
def countCrossings (below : α → List α) : List (List α) → Except α Nat
  | upper :: lower :: rest => do
    let here ← crossingsBetween below upper lower
    let further ← countCrossings below (lower :: rest)
    return here + further
  | _ => .ok 0

/-! ## Ordering -/

/-- a node that may move: the places of its neighbours, and its own place -/
structure Movable (α : Type) where
  sum : Nat
  count : Nat
  place : Nat
  node : α

/-- by the mean of the neighbours' places, and of equal means by place -/
def Movable.before (a b : Movable α) : Bool :=
  a.sum * b.count < b.sum * a.count || (a.sum * b.count == b.sum * a.count && a.place ≤ b.place)

/-- put nodes into the layer at the given places, in order -/
def fillPlaces : List Nat → List α → List α → List α
  | p :: ps, n :: ns, layer => fillPlaces ps ns (layer.set p n)
  | _, _, layer => layer

/-- sort the nodes with neighbours in a fixed layer by where these are; the others keep their places -/
def reorderLayer (neighbours : α → List α) (fixed layer : List α) : Except α (List α) := do
  let places ← layer.zipIdx.mapM fun (n, i) => do
    let found ← placesIn fixed (neighbours n)
    return (⟨found.foldr Nat.add 0, found.length, i, n⟩ : Movable α)
  let movable := places.filter fun m => 0 < m.count
  return fillPlaces (movable.map (·.place)) ((movable.mergeSort Movable.before).map (·.node)) layer

/-- reorder each layer by the one before it, which has already been reordered -/
def sweepFrom (neighbours : α → List α) : List α → List (List α) → Except α (List (List α))
  | _, [] => .ok []
  | fixed, layer :: rest => do
    let layer ← reorderLayer neighbours fixed layer
    let rest ← sweepFrom neighbours layer rest
    return layer :: rest

/-- a sweep away from the first layer -/
def sweep (neighbours : α → List α) : List (List α) → Except α (List (List α))
  | [] => .ok []
  | first :: rest => do
    let rest ← sweepFrom neighbours first rest
    return first :: rest

/-- a sweep down, or up from the last layer -/
def sweepOnce (above below : α → List α) (down : Bool) (layers : List (List α)) : Except α (List (List α)) :=
  if down then sweep above layers else (sweep below layers.reverse).map List.reverse

/-- the search for a better order: sweeps alternate, and the first of the best arrangements is kept -/
def improve (above below : α → List α) : Nat → Bool → List (List α) → List (List α) → Nat →
    Except α (List (List α))
  | 0, _, _, best, _ => .ok best
  | sweeps + 1, down, current, best, fewest =>
    if fewest = 0 then .ok best
    else do
      let current ← sweepOnce above below down current
      let crossings ← countCrossings below current
      if crossings < fewest then improve above below sweeps (!down) current current crossings
      else improve above below sweeps (!down) current best fewest

/-- the layers with their nodes in an order that crosses fewer edges -/
def orderLayers (edges : List (Edge α)) (layers : List (List α)) : Except α (List (List α)) := do
  let below := successors edges
  let fewest ← countCrossings below layers
  improve (predecessors edges) below orderingSweeps true layers layers fewest

end Crowfoot.Layout
