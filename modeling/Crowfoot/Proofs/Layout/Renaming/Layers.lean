import Crowfoot.Proofs.Layout.Renaming.Ranks
import Crowfoot.Layout.Crossing
import Crowfoot.Layout.Rank

/-
Other names for the tables of a drawing, from ranks to ordered layers. A table under its new name is another node, a bend
is the same, as bends have numbers of their own and never the names of tables.

- `Node.map`: a node under new names. Different nodes stay different.
- `splitEdges_map`, `walkOrder_map`, `layersOf_map`: the layers before they are ordered.
- `reorderLayer_map`: nodes are sorted by places, and by their own place where these are even, hence never by name.
- `orderLayers_map`: the ordered layers, or the node that is not where it is looked for.
-/

namespace Crowfoot.Layout

variable {α β : Type} {f : α → β}

/-! ## Nodes -/

/-- a node, when tables have new names -/
def Node.map (f : α → β) : Node α → Node β
  | table id => table (f id)
  | bend n => bend n

theorem Node.map_injective (hf : Function.Injective f) : Function.Injective (Node.map f) := by
  rintro (a | m) (b | n) h
  · rw [hf (table.inj h)]
  · cases h
  · cases h
  · exact congrArg bend (bend.inj h)

/-- a graph with ranks, when tables have new names -/
def Ranked.map (f : α → β) (g : Ranked α) : Ranked β := ⟨renameEdges (Node.map f) g.edges, g.bends⟩

section Ranks

variable {rank : α → ℕ} {rank' : β → ℕ} (hrank : ∀ id, rank' (f id) = rank id)
include hrank

theorem Ranked.rankOf_map (g : Ranked α) (n : Node α) : (g.map f).rankOf rank' (n.map f) = g.rankOf rank n := by
  cases n with
  | table id => exact hrank id
  | bend n => rfl

theorem chain_map (firstBend : ℕ) (e : Edge α) :
    chain rank' firstBend (Prod.map f f e) = (chain rank firstBend e).map (Node.map f) := by
  simp [chain, hrank, Node.map, Function.comp_def]

theorem splitEdges_map (edges : List (Edge α)) :
    splitEdges rank' (renameEdges f edges) = (splitEdges rank edges).map f := by
  rw [splitEdges, splitEdges, renameEdges, List.foldl_map]
  show edges.foldl _ (Ranked.map f ⟨[], []⟩) = _
  refine List.foldl_hom (Ranked.map f) fun g e => ?_
  have hchain : chain rank' (g.map f).bends.length (Prod.map f f e) =
      (chain rank g.bends.length e).map (Node.map f) := chain_map hrank _ e
  rw [hchain]
  simp only [Ranked.map, renameEdges, List.map_append, List.length_map, ← List.map_tail, List.zip_map, Prod.map_fst,
    hrank]

theorem layersOf_map (depth : ℕ) (nodes : List α) :
    layersOf rank' depth (nodes.map f) = (layersOf rank depth nodes).map (List.map f) := by
  rw [layersOf, layersOf, List.map_map]
  refine List.map_congr_left fun r _ => ?_
  rw [Function.comp_apply, List.filter_map]
  congr 1
  exact List.filter_congr fun n _ => by simp [hrank]

end Ranks

variable [DecidableEq α] [DecidableEq β] (hf : Function.Injective f)
include hf

theorem preorder_map {next : α → List α} {next' : β → List β} (hnext : Follows f next next') (fuel : ℕ)
    (stack seen : List α) :
    preorder next' fuel (stack.map f) (seen.map f) = (preorder next fuel stack seen).map f := by
  induction fuel generalizing stack seen with
  | zero => rfl
  | succ fuel ih =>
    cases stack with
    | nil => rfl
    | cons u rest =>
      have hentered := ih (next u ++ rest) (seen ++ [u])
      rw [List.map_append, List.map_append] at hentered
      rw [List.map_cons, preorder, preorder, contains_map hf, hnext u, ih]
      split_ifs
      · rfl
      · exact hentered

theorem walkOrder_map (starts : List α) (edges : List (Edge α)) :
    walkOrder (starts.map f) (renameEdges f edges) = (walkOrder starts edges).map f := by
  rw [walkOrder, walkOrder, List.foldl_map, List.length_map]
  show starts.foldl (fun seen s => preorder _ _ [f s] seen) ([].map f) = _
  exact List.foldl_hom (List.map f) fun seen s => preorder_map hf (successors_map hf edges) _ [s] seen

/-! ## Crossings -/

theorem placesIn_map (layer ns : List α) : placesIn (layer.map f) (ns.map f) = bimap f id (placesIn layer ns) := by
  have hplace : ∀ n, (layer.map f).idxOf? (f n) = layer.idxOf? n := by
    intro n
    rw [List.idxOf?, List.idxOf?, List.findIdx?_map]
    congr 1
    funext m
    simp [hf.eq_iff]
  have hmap : placesIn (layer.map f) (ns.map f) = bimap f (List.map id) (placesIn layer ns) :=
    mapM_bimap ns fun n _ => by
      rw [hplace]
      cases layer.idxOf? n <;> rfl
  rw [List.map_id_fun] at hmap
  exact hmap

section Neighbours

variable {below : α → List α} {below' : β → List β} (hbelow : Follows f below below')
include hbelow

theorem edgeEnds_map (upper lower : List α) :
    edgeEnds below' (upper.map f) (lower.map f) = bimap f id (edgeEnds below upper lower) := by
  rw [edgeEnds, edgeEnds, List.zipIdx_map]
  have hends : (upper.zipIdx.map (Prod.map f id)).mapM (fun p => do
        let places ← placesIn (lower.map f) (below' p.1)
        return places.map fun j => (p.2, j)) =
      bimap f (List.map id) (upper.zipIdx.mapM fun p => do
        let places ← placesIn lower (below p.1)
        return places.map fun j => (p.2, j)) :=
    mapM_bimap _ fun p _ => by
      rw [Prod.map_fst, hbelow, placesIn_map hf]
      exact bimap_bind fun places => rfl
  rw [hends]
  exact bimap_bind fun ends => by rw [List.map_id_fun]; rfl

theorem crossingsBetween_map (upper lower : List α) :
    crossingsBetween below' (upper.map f) (lower.map f) = bimap f id (crossingsBetween below upper lower) := by
  rw [crossingsBetween, crossingsBetween, edgeEnds_map hf hbelow]
  exact bimap_bind fun ends => rfl

theorem countCrossings_map (layers : List (List α)) :
    countCrossings below' (layers.map (List.map f)) = bimap f id (countCrossings below layers) := by
  induction layers with
  | nil => rfl
  | cons upper layers ih =>
    cases layers with
    | nil => rfl
    | cons lower rest =>
      simp only [List.map_cons] at ih ⊢
      rw [countCrossings, countCrossings, crossingsBetween_map hf hbelow, ih]
      exact bimap_bind fun here => bimap_bind fun further => rfl

end Neighbours

/-! ## Ordering -/

omit [DecidableEq α] [DecidableEq β] hf in
/-- a node that may move, under its new name -/
def Movable.map (f : α → β) (m : Movable α) : Movable β := ⟨m.sum, m.count, m.place, f m.node⟩

omit [DecidableEq α] [DecidableEq β] hf in
theorem fillPlaces_map (ps : List ℕ) (ns layer : List α) :
    fillPlaces ps (ns.map f) (layer.map f) = (fillPlaces ps ns layer).map f := by
  induction ps generalizing ns layer with
  | nil => rfl
  | cons p ps ih =>
    cases ns with
    | nil => rfl
    | cons n ns =>
      rw [List.map_cons, fillPlaces, ← List.map_set, ih]
      rfl

section Neighbours

variable {next : α → List α} {next' : β → List β} (hnext : Follows f next next')
include hnext

theorem reorderLayer_map (fixed layer : List α) :
    reorderLayer next' (fixed.map f) (layer.map f) = bimap f (List.map f) (reorderLayer next fixed layer) := by
  rw [reorderLayer, reorderLayer, List.zipIdx_map]
  have hplaces : (layer.zipIdx.map (Prod.map f id)).mapM (fun p => do
        let found ← placesIn (fixed.map f) (next' p.1)
        return (⟨found.foldr Nat.add 0, found.length, p.2, p.1⟩ : Movable β)) =
      bimap f (List.map (Movable.map f)) (layer.zipIdx.mapM fun p => do
        let found ← placesIn fixed (next p.1)
        return (⟨found.foldr Nat.add 0, found.length, p.2, p.1⟩ : Movable α)) :=
    mapM_bimap _ fun p _ => by
      rw [Prod.map_fst, hnext, placesIn_map hf]
      exact bimap_bind fun found => rfl
  rw [hplaces]
  refine bimap_bind fun places => congrArg Except.ok ?_
  have hmovable : (places.map (Movable.map f)).filter (fun m => 0 < m.count) =
      (places.filter fun m => 0 < m.count).map (Movable.map f) := by
    rw [List.filter_map]
    rfl
  have hbefore : ∀ a b : Movable α, a.before b = (a.map f).before (b.map f) := fun _ _ => rfl
  have hsorted : ((places.filter fun m => 0 < m.count).map (Movable.map f)).mergeSort Movable.before =
      ((places.filter fun m => 0 < m.count).mergeSort Movable.before).map (Movable.map f) :=
    (List.map_mergeSort fun a _ b _ => hbefore a b).symm
  have hnodes : ∀ ms : List (Movable α), (ms.map (Movable.map f)).map (·.node) = (ms.map (·.node)).map f := by
    intro ms
    rw [List.map_map, List.map_map]
    rfl
  rw [hmovable, hsorted, hnodes, ← fillPlaces_map, List.map_map]
  rfl

theorem sweepFrom_map (fixed : List α) (layers : List (List α)) :
    sweepFrom next' (fixed.map f) (layers.map (List.map f)) =
      bimap f (List.map (List.map f)) (sweepFrom next fixed layers) := by
  induction layers generalizing fixed with
  | nil => rfl
  | cons layer rest ih =>
    rw [List.map_cons, sweepFrom, sweepFrom, reorderLayer_map hf hnext]
    refine bimap_bind fun layer => ?_
    rw [ih layer]
    exact bimap_bind fun rest => rfl

theorem sweep_map (layers : List (List α)) :
    sweep next' (layers.map (List.map f)) = bimap f (List.map (List.map f)) (sweep next layers) := by
  cases layers with
  | nil => rfl
  | cons first rest =>
    rw [List.map_cons, sweep, sweep, sweepFrom_map hf hnext]
    exact bimap_bind fun rest => rfl

end Neighbours

variable {above below : α → List α} {above' below' : β → List β} (habove : Follows f above above')
  (hbelow : Follows f below below')
include habove hbelow

theorem sweepOnce_map (down : Bool) (layers : List (List α)) :
    sweepOnce above' below' down (layers.map (List.map f)) =
      bimap f (List.map (List.map f)) (sweepOnce above below down layers) := by
  unfold sweepOnce
  split_ifs
  · exact sweep_map hf habove layers
  · rw [← List.map_reverse, sweep_map hf hbelow]
    exact map_bimap (fun layers => List.map_reverse.symm) _

theorem improve_map (sweeps : ℕ) (down : Bool) (current best : List (List α)) (fewest : ℕ) :
    improve above' below' sweeps down (current.map (List.map f)) (best.map (List.map f)) fewest =
      bimap f (List.map (List.map f)) (improve above below sweeps down current best fewest) := by
  induction sweeps generalizing down current best fewest with
  | zero => rfl
  | succ sweeps ih =>
    rw [improve, improve, sweepOnce_map hf habove hbelow]
    split_ifs
    · rfl
    · refine bimap_bind fun current => ?_
      rw [countCrossings_map hf hbelow]
      refine bimap_bind fun crossings => ?_
      dsimp only [id]
      split_ifs
      · exact ih _ current current crossings
      · exact ih _ current best fewest

omit habove hbelow in
theorem orderLayers_map (edges : List (Edge α)) (layers : List (List α)) :
    orderLayers (renameEdges f edges) (layers.map (List.map f)) =
      bimap f (List.map (List.map f)) (orderLayers edges layers) := by
  rw [orderLayers, orderLayers, countCrossings_map hf (successors_map hf edges)]
  exact bimap_bind fun fewest =>
    improve_map hf (predecessors_map hf edges) (successors_map hf edges) _ _ layers layers fewest

end Crowfoot.Layout
