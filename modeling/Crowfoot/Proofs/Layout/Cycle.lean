import Mathlib.Logic.Relation
import Crowfoot.Proofs.Layout.Walk

/-
Which edges the depth-first walk finds to lead back: only those that close a cycle of the graph. A graph without
cycles is left as it is, and in any other all edges are kept, some of them turned round.

- `Walk.Trail`: the nodes being visited are a path through the graph, so that an edge from the innermost of them to
  another closes a cycle.
- `step_trail`, `walkGraph_trail`: this is kept by every step, hence it holds of the whole walk.
- `breakCycles_eq_distinct`: in a graph without cycles no edge is turned round.
- `acyclic_iff_cycleFree`: the graphs without cycles are those whose nodes can be numbered along the edges, as the walk
  through one numbers them.
- `breakCycles_orients`: what becomes of a graph, with cycles or without; and the walk through it comes to an end.
-/

namespace Crowfoot.Layout

open scoped List

variable {α : Type}

/-- no node leads back to itself along one or more edges -/
def CycleFree (edges : List (Edge α)) : Prop := ∀ u, ¬ Relation.TransGen (fun u v => (u, v) ∈ edges) u u

/-- numbers that grow along edges grow along every path, so that none comes back -/
theorem Acyclic.cycleFree {edges : List (Edge α)} (h : Acyclic edges) : CycleFree edges := by
  obtain ⟨height, hheight⟩ := h
  have hpath : ∀ u v, Relation.TransGen (fun u v => (u, v) ∈ edges) u v → height u < height v := by
    intro u v huv
    induction huv with
    | single he => exact hheight _ he
    | tail _ he ih => exact ih.trans (hheight _ he)
  exact fun u hu => (hpath u u hu).false

namespace Walk

/-- following successors any number of times, one node leads to another -/
def Reaches (next : α → List α) : α → α → Prop := Relation.ReflTransGen fun u v => v ∈ next u

/-- what a walk has found so far is in the graph -/
structure Trail (next : α → List α) (w : Walk α) : Prop where
  /-- every node being visited was entered from the one outside it -/
  chain : w.path.IsChain fun p q => p.1 ∈ next q.1
  left : ∀ p ∈ w.path, p.2 ⊆ next p.1
  /-- an edge that leads back is an edge, and its end leads to its start -/
  back : ∀ e ∈ w.back, e.2 ∈ next e.1 ∧ Reaches next e.2 e.1

variable {next : α → List α} {w : Walk α}

theorem start_trail : Trail next Walk.start := by
  constructor <;> simp [Walk.start]

/-- along a chain of nodes, each entered from the next, all lead to the first -/
theorem reaches_head {p : α × List α} {rest : List (α × List α)}
    (h : (p :: rest).IsChain fun p q => p.1 ∈ next q.1) : ∀ q ∈ p :: rest, Reaches next q.1 p.1 := by
  induction rest generalizing p with
  | nil =>
    intro q hq
    rw [List.mem_singleton.1 hq]
    exact Relation.ReflTransGen.refl
  | cons p' rest ih =>
    obtain ⟨hentered, hrest⟩ := List.isChain_cons_cons.1 h
    intro q hq
    rcases List.mem_cons.1 hq with rfl | hq
    · exact Relation.ReflTransGen.refl
    · exact (ih hrest q hq).tail hentered

/-- a walk that has come to look at the successors that follow one -/
theorem Trail.look {u v : α} {vs : List α} {rest : List (α × List α)} (h : Trail next w)
    (hpath : w.path = (u, v :: vs) :: rest) : Trail next { w with path := (u, vs) :: rest } := by
  have hchain := h.chain
  have hleft := h.left
  simp only [hpath, List.mem_cons, forall_eq_or_imp] at hchain hleft
  refine ⟨?_, ?_, h.back⟩
  · -- of the innermost node only the name matters
    cases rest with
    | nil => exact List.isChain_singleton _
    | cons p rest => exact List.isChain_cons_cons.2 (List.isChain_cons_cons.1 hchain)
  · simp only [List.mem_cons, forall_eq_or_imp]
    exact ⟨(List.cons_subset.1 hleft.1).2, hleft.2⟩

theorem Trail.enter {v : α} (h : Trail next w) (hv : ∀ p ∈ w.path.head?, v ∈ next p.1) :
    Trail next { w with path := (v, next v) :: w.path } := by
  refine ⟨?_, ?_, h.back⟩
  · have hchain := h.chain
    cases hpath : w.path with
    | nil => exact List.isChain_singleton _
    | cons p rest =>
      rw [hpath] at hchain
      exact List.isChain_cons_cons.2 ⟨hv p (by rw [hpath]; rfl), hchain⟩
  · simp only [List.mem_cons, forall_eq_or_imp]
    exact ⟨List.Subset.refl _, h.left⟩

variable [DecidableEq α]

theorem step_trail (h : Trail next w) : Trail next (w.step next) := by
  unfold step
  split
  · exact h
  · rename_i u rest hpath
    refine ⟨?_, fun p hp => h.left p (hpath ▸ List.mem_cons_of_mem _ hp), h.back⟩
    have hchain := h.chain
    rw [hpath] at hchain
    exact hchain.tail
  · rename_i u v vs rest hpath
    have hv : v ∈ next u := h.left (u, v :: vs) (hpath ▸ List.mem_cons_self) List.mem_cons_self
    have hlook := h.look hpath
    dsimp only
    split_ifs with hopen hfinished
    · -- the node is being visited, so that the path leads from it to the innermost node
      obtain ⟨p, hp, rfl⟩ : ∃ p ∈ w.path, p.1 = v := by simpa [isOpen] using hopen
      have hcycle : Reaches next p.1 u := by
        have hchain := h.chain
        rw [hpath] at hchain hp
        exact reaches_head hchain p hp
      refine ⟨hlook.chain, hlook.left, fun e he => ?_⟩
      rcases List.mem_cons.1 he with rfl | he
      · exact ⟨hv, hcycle⟩
      · exact h.back e he
    · exact hlook
    · exact hlook.enter (by simpa using hv)

theorem finish_trail (fuel : ℕ) (h : Trail next w) : Trail next (finish next fuel w) := by
  induction fuel generalizing w with
  | zero => exact h
  | succ fuel ih =>
    unfold finish
    split_ifs
    · exact h
    · exact ih (step_trail h)

theorem visit_trail (fuel : ℕ) (u : α) (h : Trail next w) : Trail next (visit next fuel w u) := by
  unfold visit
  split_ifs
  · exact h
  · refine finish_trail fuel ⟨List.isChain_singleton _, ?_, h.back⟩
    simp

end Walk

variable [DecidableEq α]

theorem walkGraph_trail (order : List α) (edges : List (Edge α)) :
    Walk.Trail (successors edges) (walkGraph order edges) :=
  List.foldlRecOn order _ Walk.start_trail fun _ h u _ => Walk.visit_trail _ u h

/-- **No cycles, nothing turned.** In a graph in which no node leads to itself, no edge leads back. -/
theorem breakCycles_eq_distinct (order : List α) {edges : List (Edge α)} (h : CycleFree edges) :
    breakCycles order edges = distinct edges := by
  have hnone : (walkGraph order edges).back = [] := by
    refine List.eq_nil_iff_forall_not_mem.2 fun e he => ?_
    obtain ⟨hedge, hcycle⟩ := (walkGraph_trail order edges).back e he
    simp only [Walk.Reaches, mem_successors] at hedge hcycle
    exact h e.1 (Relation.TransGen.head' hedge hcycle)
  have hturned : edges.map (turned (walkGraph order edges).back) = edges := by
    rw [hnone]
    exact (List.map_congr_left fun e _ => by simp [turned]).trans (List.map_id edges)
  rw [breakCycles, hturned]

omit [DecidableEq α] in
theorem CycleFree.simple {order : List α} {edges : List (Edge α)} (h : CycleFree edges)
    (hends : ∀ e ∈ edges, e.1 ∈ order ∧ e.2 ∈ order) : Simple order edges := by
  refine fun e he => ⟨(hends e he).1, (hends e he).2, fun heq => h e.1 (Relation.TransGen.single ?_)⟩
  have hloop : (e.1, e.1) = e := Prod.ext rfl heq
  rwa [hloop]

/-- a graph without cycles is left as it is by the walk, which numbers its nodes -/
theorem acyclic_iff_cycleFree {edges : List (Edge α)} : Acyclic edges ↔ CycleFree edges := by
  refine ⟨Acyclic.cycleFree, fun h => ?_⟩
  let order := edges.flatMap fun e => [e.1, e.2]
  have hsimple : Simple order edges :=
    h.simple fun e he => ⟨List.mem_flatMap.2 ⟨e, he, by simp⟩, List.mem_flatMap.2 ⟨e, he, by simp⟩⟩
  obtain ⟨height, hheight⟩ := breakCycles_acyclic hsimple
  rw [breakCycles_eq_distinct order h] at hheight
  exact ⟨height, fun e he => hheight e (mem_distinct.2 he)⟩

/-! ## Turned edges -/

variable {order : List α} {edges : List (Edge α)}

theorem turned_cases (back : List (Edge α)) (e : Edge α) : turned back e = e ∨ turned back e = e.swap := by
  unfold turned
  split_ifs
  · exact Or.inr rfl
  · exact Or.inl rfl

theorem mem_breakCycles {e : Edge α} :
    e ∈ breakCycles order edges ↔ ∃ e' ∈ edges, turned (walkGraph order edges).back e' = e := by
  rw [breakCycles, mem_distinct, List.mem_map]

/-- **Broken cycles.** Through any graph without loops, in any order of its nodes, the walk comes to an end after every
start. The edges that it leaves are all different and run in no cycle. Each of them is an edge of the graph or the
reverse of one, and every edge of the graph is among them or its reverse is; and a graph that has no cycle is left
as it is. -/
theorem breakCycles_orients (hedges : Simple order edges) (hnodup : edges.Nodup) :
    (∀ starts, starts <+: order → ∀ fuel, order.length + edges.length ≤ fuel →
      (starts.foldl (Walk.visit (successors edges) fuel) Walk.start).path = []) ∧
    (breakCycles order edges).Nodup ∧ CycleFree (breakCycles order edges) ∧
    (∀ e ∈ breakCycles order edges, e ∈ edges ∨ e.swap ∈ edges) ∧
    (∀ e ∈ edges, e ∈ breakCycles order edges ∨ e.swap ∈ breakCycles order edges) ∧
    (CycleFree edges → breakCycles order edges = edges) := by
  refine ⟨fun starts hstarts fuel hfuel => ?_, distinct_nodup _, (breakCycles_acyclic hedges).cycleFree, fun e he => ?_,
    fun e he => ?_, fun hfree => ?_⟩
  · exact (visits_end hedges hfuel hstarts.subset).2.1
  · obtain ⟨e', he', rfl⟩ := mem_breakCycles.1 he
    rcases turned_cases (walkGraph order edges).back e' with heq | heq
    · exact Or.inl (heq.symm ▸ he')
    · exact Or.inr (by rwa [heq, Prod.swap_swap])
  · have hkept : turned (walkGraph order edges).back e ∈ breakCycles order edges := mem_breakCycles.2 ⟨e, he, rfl⟩
    rcases turned_cases (walkGraph order edges).back e with heq | heq
    · exact Or.inl (heq ▸ hkept)
    · exact Or.inr (heq ▸ hkept)
  · rw [breakCycles_eq_distinct order hfree, distinct_eq_self hnodup]

/-- orders, people and addresses refer to each other in a ring, and people to orders besides -/
def ringEdges : List (Edge String) :=
  [("orders", "people"), ("people", "addresses"), ("addresses", "orders"), ("people", "orders")]

/-- the last two edges are turned round, the second of them into one that is there already -/
theorem breakCycles_orients_ring :
    Simple ["orders", "people", "addresses"] ringEdges ∧ ringEdges.Nodup ∧
      CycleFree (breakCycles ["orders", "people", "addresses"] ringEdges) ∧
      breakCycles ["orders", "people", "addresses"] ringEdges =
        [("orders", "people"), ("people", "addresses"), ("orders", "addresses")] := by
  have hsimple : Simple ["orders", "people", "addresses"] ringEdges := by unfold Simple; decide
  have hnodup : ringEdges.Nodup := by decide
  obtain ⟨-, -, hfree, -⟩ := breakCycles_orients hsimple hnodup
  exact ⟨hsimple, hnodup, hfree, by decide⟩

end Crowfoot.Layout
