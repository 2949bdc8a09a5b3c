import Crowfoot.Proofs.Outcome
import Crowfoot.Proofs.Items
import Crowfoot.Layout.Rank

/-
Other names for the nodes of a graph: from the edges to the ranks, every stage of a drawing does with other names what it
does with the first ones. All that is asked of the names is that different nodes have different ones; no stage compares
them otherwise, and where an order matters it is the order in which nodes are given.

- `successors_map`, `predecessors_map`, `distinct_map`, `linkEdges_map`: the edges.
- `Walk.step_map`: one step of the depth-first walk, and `breakCycles_map` what comes of it.
- `Sorting.follow_map`: one step of the topological order, and `topological_map` the whole of it.
- `assignRanks_map`: the ranks, or the node that has none.
-/

namespace Crowfoot.Layout

variable {α β : Type} {f : α → β}

/-- one function on nodes gives under new names what another gives under old ones -/
def Follows (f : α → β) (next : α → List α) (next' : β → List β) : Prop := ∀ u, next' (f u) = (next u).map f

/-- the edges under new names -/
abbrev renameEdges (f : α → β) (edges : List (Edge α)) : List (Edge β) := edges.map (Prod.map f f)

/-- numbers of nodes under new names -/
abbrev renameRanks (f : α → β) (ranks : Ranks α) : Ranks β := ranks.map (Prod.map f id)

theorem contains_map [BEq α] [LawfulBEq α] [BEq β] [LawfulBEq β] (hf : Function.Injective f) (xs : List α) (x : α) :
    (xs.map f).contains (f x) = xs.contains x := by
  rw [Bool.eq_iff_iff, List.contains_iff_mem, List.contains_iff_mem, List.mem_map_of_injective hf]

variable [DecidableEq α] [DecidableEq β] (hf : Function.Injective f)
include hf

/-! ## Edges -/

theorem successors_map (edges : List (Edge α)) : Follows f (successors edges) (successors (renameEdges f edges)) := by
  intro u
  simp only [successors, List.filter_map, List.map_map]
  congr 1
  exact List.filter_congr fun e _ => by simp [hf.eq_iff]

theorem predecessors_map (edges : List (Edge α)) :
    Follows f (predecessors edges) (predecessors (renameEdges f edges)) := by
  intro v
  simp only [predecessors, List.filter_map, List.map_map]
  congr 1
  exact List.filter_congr fun e _ => by simp [hf.eq_iff]

theorem distinct_map (xs : List α) : distinct (xs.map f) = (distinct xs).map f := by
  rw [distinct_eq_eraseDups, distinct_eq_eraseDups]
  exact eraseDups_map fun _ _ _ _ heq => hf heq

theorem linkEdges_map (nodes : List α) (links : List (α × α)) :
    linkEdges (nodes.map f) (renameEdges f links) = renameEdges f (linkEdges nodes links) := by
  rw [linkEdges, linkEdges, List.filter_map, renameEdges, ← distinct_map (hf.prodMap hf)]
  congr 2
  exact List.filter_congr fun e _ => by simp [hf.eq_iff]

/-! ## The walk -/

omit [DecidableEq α] [DecidableEq β] hf in
/-- a walk under new names -/
def Walk.map (f : α → β) (w : Walk α) : Walk β :=
  ⟨w.path.map (Prod.map f (List.map f)), w.finished.map f, renameEdges f w.back⟩

namespace Walk

variable {next : α → List α} {next' : β → List β}

theorem isOpen_map (w : Walk α) (v : α) : (w.map f).isOpen (f v) = w.isOpen v := by
  simp only [isOpen, Walk.map, List.any_map]
  congr 1
  funext p
  simp [hf.eq_iff]

theorem step_map (hnext : Follows f next next') (w : Walk α) : (w.map f).step next' = (w.step next).map f := by
  obtain ⟨path, finished, back⟩ := w
  cases path with
  | nil => rfl
  | cons p rest =>
    obtain ⟨u, vs⟩ := p
    cases vs with
    | nil => rfl
    | cons v vs =>
      have hopen := isOpen_map hf ⟨(u, v :: vs) :: rest, finished, back⟩ v
      simp only [Walk.map, List.map_cons, Prod.map_apply] at hopen
      simp only [step, Walk.map, List.map_cons, Prod.map_apply, hopen, contains_map hf, hnext v]
      split_ifs <;> rfl

theorem finish_map (hnext : Follows f next next') (fuel : ℕ) (w : Walk α) :
    finish next' fuel (w.map f) = (finish next fuel w).map f := by
  induction fuel generalizing w with
  | zero => rfl
  | succ fuel ih =>
    have hempty : (w.map f).path.isEmpty = w.path.isEmpty := by simp [Walk.map]
    rw [finish, finish, hempty, step_map hf hnext, ih]
    split_ifs <;> rfl

theorem visit_map (hnext : Follows f next next') (fuel : ℕ) (w : Walk α) (u : α) :
    visit next' fuel (w.map f) (f u) = (visit next fuel w u).map f := by
  have hseen : (w.map f).hasSeen (f u) = w.hasSeen u := by
    rw [hasSeen, hasSeen, isOpen_map hf]
    exact congrArg _ (contains_map hf w.finished u)
  have hstart : ({ w.map f with path := [(f u, next' (f u))] } : Walk β) =
      Walk.map f { w with path := [(u, next u)] } := by
    rw [hnext u]
    rfl
  rw [visit, visit, hseen, hstart, finish_map hf hnext]
  split_ifs <;> rfl

end Walk

theorem walkGraph_map (order : List α) (edges : List (Edge α)) :
    walkGraph (order.map f) (renameEdges f edges) = (walkGraph order edges).map f := by
  rw [walkGraph, walkGraph, List.foldl_map, List.length_map, List.length_map]
  show order.foldl (fun w u => Walk.visit _ _ w (f u)) (Walk.map f Walk.start) = _
  exact List.foldl_hom (Walk.map f) fun w u => Walk.visit_map hf (successors_map hf edges) _ w u

theorem turned_map (back : List (Edge α)) (e : Edge α) :
    turned (renameEdges f back) (Prod.map f f e) = Prod.map f f (turned back e) := by
  rw [turned, turned, renameEdges, contains_map (hf.prodMap hf)]
  split_ifs <;> rfl

theorem breakCycles_map (order : List α) (edges : List (Edge α)) :
    breakCycles (order.map f) (renameEdges f edges) = renameEdges f (breakCycles order edges) := by
  rw [breakCycles, breakCycles, walkGraph_map hf, renameEdges, List.map_map, renameEdges,
    ← distinct_map (hf.prodMap hf), List.map_map]
  congr 1
  exact List.map_congr_left fun e _ => turned_map hf _ e

/-! ## The topological order -/

theorem lookup_map {γ : Type} (entries : List (α × γ)) (k : α) :
    (entries.map (Prod.map f id)).lookup (f k) = entries.lookup k :=
  lookup_map_of_told fun _ _ heq => hf heq

theorem setRank_map (k : α) (n : ℤ) (ranks : Ranks α) :
    setRank (f k) n (renameRanks f ranks) = renameRanks f (setRank k n ranks) := by
  induction ranks with
  | nil => rfl
  | cons r ranks ih =>
    obtain ⟨j, m⟩ := r
    simp only [renameRanks, List.map_cons, Prod.map_apply, setRank, hf.eq_iff] at ih ⊢
    rw [ih]
    split_ifs <;> rfl

omit [DecidableEq α] [DecidableEq β] hf in
/-- a topological order under way, under new names -/
def Sorting.map (f : α → β) (s : Sorting α) : Sorting β := ⟨s.queue.map f, renameRanks f s.waiting, s.listed.map f⟩

namespace Sorting

variable {next : α → List α} {next' : β → List β}

theorem follow_map (s : Sorting α) (v : α) : (s.map f).follow (f v) = (s.follow v).map f := by
  simp only [follow, Sorting.map, lookup_map hf, setRank_map hf]
  split_ifs
  · rw [List.map_append]
    rfl
  · rfl

theorem run_map (hnext : Follows f next next') (fuel : ℕ) (s : Sorting α) :
    run next' fuel (s.map f) = (run next fuel s).map f := by
  induction fuel generalizing s with
  | zero => rfl
  | succ fuel ih =>
    obtain ⟨queue, waiting, listed⟩ := s
    cases queue with
    | nil => rfl
    | cons u rest =>
      have hlisted : ({ queue := rest.map f, waiting := renameRanks f waiting, listed := listed.map f ++ [f u] } :
          Sorting β) = Sorting.map f ⟨rest, waiting, listed ++ [u]⟩ := by
        simp [Sorting.map]
      simp only [run, Sorting.map, List.map_cons, hnext u, List.foldl_map]
      rw [hlisted, List.foldl_hom (Sorting.map f) fun s v => follow_map hf s v]
      exact ih _

end Sorting

theorem topological_map (order : List α) (edges : List (Edge α)) :
    topological (order.map f) (renameEdges f edges) = (topological order edges).map f := by
  let waiting : Ranks α := (distinct order).map fun k => (k, ((predecessors edges k).length : ℤ))
  have hwaiting : (distinct (order.map f)).map (fun k => (k, ((predecessors (renameEdges f edges) k).length : ℤ))) =
      renameRanks f waiting := by
    rw [distinct_map hf, List.map_map, renameRanks, List.map_map]
    exact List.map_congr_left fun k _ => by simp [predecessors_map hf edges k]
  have hready : (order.map f).filter (fun k => (renameRanks f waiting).lookup k = some 0) =
      (order.filter fun k => waiting.lookup k = some 0).map f := by
    rw [List.filter_map]
    congr 1
    exact List.filter_congr fun k _ => by simp [lookup_map hf]
  have hrun := Sorting.run_map hf (successors_map hf edges) (2 * order.length)
    ⟨order.filter fun k => waiting.lookup k = some 0, waiting, []⟩
  rw [topological, hwaiting, List.length_map, hready]
  exact congrArg Sorting.listed hrun

/-! ## Ranks -/

theorem ranksOf_map (ranks : Ranks α) (ks : List α) :
    ranksOf (renameRanks f ranks) (ks.map f) = bimap f id (ranksOf ranks ks) := by
  have hmap : ranksOf (renameRanks f ranks) (ks.map f) = bimap f (List.map id) (ranksOf ranks ks) :=
    mapM_bimap ks fun k _ => by
      rw [lookup_map hf]
      cases ranks.lookup k <;> rfl
  rw [List.map_id_fun] at hmap
  exact hmap

theorem rankBelow_map (edges : List (Edge α)) (ranks : Ranks α) (k : α) :
    rankBelow (renameEdges f edges) (renameRanks f ranks) (f k) =
      bimap f (renameRanks f) (rankBelow edges ranks k) := by
  rw [rankBelow, predecessors_map hf, ranksOf_map hf]
  exact bimap_bind fun above => congrArg Except.ok (setRank_map hf k _ ranks)

theorem pullDown_map (edges : List (Edge α)) (ranks : Ranks α) (k : α) :
    pullDown (renameEdges f edges) (renameRanks f ranks) (f k) = bimap f (renameRanks f) (pullDown edges ranks k) := by
  rw [pullDown, predecessors_map hf, successors_map hf, ranksOf_map hf, List.isEmpty_map, List.isEmpty_map, pullDown]
  split_ifs
  · exact bimap_bind fun below => congrArg Except.ok (setRank_map hf k _ ranks)
  · rfl

theorem assignRanks_map (order : List α) (edges : List (Edge α)) :
    assignRanks (order.map f) (renameEdges f edges) = bimap f (renameRanks f) (assignRanks order edges) := by
  have hbelow := foldlM_bimap (rankBelow_map hf edges) (topological order edges) []
  have hpulled := fun ranks => foldlM_bimap (pullDown_map hf edges) (topological order edges).reverse ranks
  rw [assignRanks, topological_map hf, ← List.map_reverse]
  dsimp only
  rw [show ([] : Ranks β) = renameRanks f [] from rfl, hbelow]
  refine bimap_bind fun ranks => ?_
  rw [hpulled]
  refine bimap_bind fun ranks => congrArg Except.ok ?_
  rw [renameRanks, List.map_map, List.map_map, renameRanks, List.map_map]
  rfl

end Crowfoot.Layout
