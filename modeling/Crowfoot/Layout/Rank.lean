import Crowfoot.Layout.Graph

/-
Ranks and layers: the rows of a drawing, numbered from the top, and the nodes of each from left to right. Along every
edge the rank grows; a node is as high up as its predecessors allow, except that a node without predecessors moves down
to just above its closest successor. An edge over several ranks is cut into a chain with a bend on every rank between, so
that edges join neighbouring layers only.
-/

namespace Crowfoot.Layout

variable {α : Type} [DecidableEq α]

/-- a number for each of some nodes -/
abbrev Ranks (α : Type) := List (α × Int)

/-- set the number of a node, which keeps its place in the list if it is there -/
def setRank (k : α) (n : Int) : Ranks α → Ranks α
  | [] => [(k, n)]
  | (j, m) :: rest => if j = k then (j, n) :: rest else (j, m) :: setRank k n rest

/-! ## Topological order -/

/-- nodes ready to be listed, how many edges into each node have not been followed, and the nodes listed so far -/
structure Sorting (α : Type) where
  queue : List α
  waiting : Ranks α
  listed : List α

namespace Sorting

/-- follow one edge into a node; with the last one the node becomes ready -/
def follow (s : Sorting α) (v : α) : Sorting α :=
  let n := (s.waiting.lookup v).getD 0 - 1
  { s with waiting := setRank v n s.waiting, queue := if n = 0 then s.queue ++ [v] else s.queue }

/-- list the first ready node and follow the edges that leave it -/
def run (next : α → List α) : Nat → Sorting α → Sorting α
  | 0, s => s
  | fuel + 1, s =>
    match s.queue with
    | [] => s
    | u :: rest => run next fuel ((next u).foldl follow { s with queue := rest, listed := s.listed ++ [u] })

end Sorting

/-- the nodes in an order in which edges lead forward; ready nodes are taken in the order given -/
def topological (order : List α) (edges : List (Edge α)) : List α :=
  let waiting : Ranks α := (distinct order).map fun k => (k, ((predecessors edges k).length : Int))
  let ready := order.filter fun k => waiting.lookup k = some 0
  ((⟨ready, waiting, []⟩ : Sorting α).run (successors edges) (2 * order.length)).listed

/-! ## Ranks -/

/-- the ranks of some nodes; a node that has none is the error -/
def ranksOf (ranks : Ranks α) (ks : List α) : Except α (List Int) :=
  ks.mapM fun k => match ranks.lookup k with
    | some n => .ok n
    | none => .error k

/-- one below the lowest of the predecessors, or the top -/
def rankBelow (edges : List (Edge α)) (ranks : Ranks α) (k : α) : Except α (Ranks α) := do
  let above ← ranksOf ranks (predecessors edges k)
  return setRank k ((above.map (· + 1)).max?.getD 0) ranks

/-- a node with successors only moves to just above the highest of them -/
def pullDown (edges : List (Edge α)) (ranks : Ranks α) (k : α) : Except α (Ranks α) := do
  if (predecessors edges k).isEmpty && !(successors edges k).isEmpty then
    let below ← ranksOf ranks (successors edges k)
    return setRank k (below.min?.getD 0 - 1) ranks
  else return ranks

/-- the ranks of a graph, the smallest of them zero -/
def assignRanks (order : List α) (edges : List (Edge α)) : Except α (Ranks α) := do
  let listed := topological order edges
  let ranks ← listed.foldlM (rankBelow edges) []
  let ranks ← listed.reverse.foldlM (pullDown edges) ranks
  let lowest := (ranks.map (·.2)).min?.getD 0
  return ranks.map fun r => (r.1, r.2 - lowest)

/-! ## Layers -/

/-- a table, or a bend on a long edge -/
inductive Node (ι : Type) where
  | table (id : ι)
  | bend (number : Nat)
  deriving DecidableEq, Repr

variable {ι : Type} [DecidableEq ι]

/-- a graph whose nodes have ranks -/
structure Ranked (ι : Type) where
  edges : List (Edge (Node ι))
  /-- the rank of each bend, in the order of their numbers -/
  bends : List Nat

/-- the rank of a node, given those of the tables -/
def Ranked.rankOf (g : Ranked ι) (rank : ι → Nat) : Node ι → Nat
  | .table id => rank id
  | .bend n => g.bends[n]?.getD 0

/-- the nodes along one edge, with new bends on the ranks between its ends -/
def chain (rank : ι → Nat) (firstBend : Nat) (e : Edge ι) : List (Node ι) :=
  .table e.1 :: (List.range (rank e.2 - (rank e.1 + 1))).map (fun i => .bend (firstBend + i)) ++ [.table e.2]

/-- cut every edge into steps from one rank to the next -/
def splitEdges (rank : ι → Nat) (edges : List (Edge ι)) : Ranked ι :=
  edges.foldl (fun g e =>
    let nodes := chain rank g.bends.length e
    ⟨g.edges ++ nodes.zip nodes.tail,
      g.bends ++ (List.range (nodes.length - 2)).map (fun i => rank e.1 + 1 + i)⟩) ⟨[], []⟩

/-! ## Filling the layers -/

/-- depth-first from the nodes on a stack, each node once; `seen` holds the nodes visited before, in order -/
def preorder (next : α → List α) : Nat → List α → List α → List α
  | 0, _, seen => seen
  | _ + 1, [], seen => seen
  | fuel + 1, u :: rest, seen =>
    if seen.contains u then preorder next fuel rest seen
    else preorder next fuel (next u ++ rest) (seen ++ [u])

/-- the nodes in the order in which walks from each start first meet them -/
def walkOrder (starts : List α) (edges : List (Edge α)) : List α :=
  starts.foldl (fun seen s => preorder (successors edges) (edges.length + 1) [s] seen) []

/-- the nodes of each rank from zero up to a depth, in the order given -/
def layersOf (rank : α → Nat) (depth : Nat) (nodes : List α) : List (List α) :=
  (List.range (depth + 1)).map fun r => nodes.filter fun n => rank n = r

end Crowfoot.Layout
