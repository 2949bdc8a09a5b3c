import Crowfoot.Schema.Basic

/-
Directed graphs as lists of edges. The edges of a drawing are the pairs of distinct tables joined by a relationship;
a depth-first walk finds the edges that lead back to a node still being visited, and turning those round leaves a
graph without cycles.
-/

namespace Crowfoot.Layout

variable {α : Type} [DecidableEq α]

abbrev Edge (α : Type) := α × α

/-- the heads of the edges that leave a node, in edge order -/
def successors (edges : List (Edge α)) (u : α) : List α := (edges.filter (·.1 = u)).map (·.2)

/-- the tails of the edges that enter a node, in edge order -/
def predecessors (edges : List (Edge α)) (v : α) : List α := (edges.filter (·.2 = v)).map (·.1)

/-- the items in order of first occurrence, each of them once -/
def distinct (xs : List α) : List α :=
  xs.foldl (fun seen x => if seen.contains x then seen else seen ++ [x]) []

/-- one edge for every pair of distinct nodes that is linked, in order of first occurrence -/
def linkEdges (nodes : List α) (links : List (α × α)) : List (Edge α) :=
  distinct (links.filter fun e => e.1 ≠ e.2 && nodes.contains e.1 && nodes.contains e.2)

/-! ## The depth-first walk -/

/-- a walk under way: the nodes being visited, innermost first, each with the successors still to be looked at; the
nodes left behind, latest first; and the edges found to lead back -/
structure Walk (α : Type) where
  path : List (α × List α)
  finished : List α
  back : List (Edge α)

namespace Walk

def start : Walk α := ⟨[], [], []⟩

def isOpen (w : Walk α) (v : α) : Bool := w.path.any (·.1 = v)

def hasSeen (w : Walk α) (v : α) : Bool := w.isOpen v || w.finished.contains v

/-- look at one more successor of the innermost node, or leave it when there is none -/
def step (next : α → List α) (w : Walk α) : Walk α :=
  match w.path with
  | [] => w
  | (u, []) :: rest => { w with path := rest, finished := u :: w.finished }
  | (u, v :: vs) :: rest =>
    let path := (u, vs) :: rest
    if w.isOpen v then { w with path := path, back := (u, v) :: w.back }
    else if w.finished.contains v then { w with path := path }
    else { w with path := (v, next v) :: path }

/-- step until no node is being visited -/
def finish (next : α → List α) : Nat → Walk α → Walk α
  | 0, w => w
  | fuel + 1, w => if w.path.isEmpty then w else finish next fuel (w.step next)

/-- visit everything that can be reached from a node -/
def visit (next : α → List α) (fuel : Nat) (w : Walk α) (u : α) : Walk α :=
  if w.hasSeen u then w else finish next fuel { w with path := [(u, next u)] }

end Walk

/-- the walk through the whole graph: every node is entered and left once and every edge looked at once -/
def walkGraph (order : List α) (edges : List (Edge α)) : Walk α :=
  order.foldl (Walk.visit (successors edges) (order.length + edges.length)) Walk.start

/-- turn an edge round if it leads back -/
def turned (back : List (Edge α)) (e : Edge α) : Edge α := if back.contains e then (e.2, e.1) else e

/-- the edges with those that lead back turned round -/
def breakCycles (order : List α) (edges : List (Edge α)) : List (Edge α) :=
  distinct (edges.map (turned (walkGraph order edges).back))

end Crowfoot.Layout
