import Crowfoot.Proofs.Layout.Walk
import Crowfoot.Layout.Rank

/-
Layers. Once long edges are cut, every edge leads from one layer to the next, and both its ends are there.

- `splitEdges_eq`: the cut edges are the steps of one chain for each edge, with bends numbered through.
- `splitEdges_along`: so every chain goes over bends of its own, and `splitEdges_targets` says what steps lead to.
- `splitEdges_step`: a step leads one rank down; `splitEdges_reached`: its ends are met by whoever starts at the tables
  and follows edges.
- `walkOrder_spec`: the walk meets every start once, and with a node its successors; `walkOrder_met`: nothing else.
- `layersOf_joined`: so every layer that it fills holds what the one before it leads to.
- `layersOf_perm`: layers that are deep enough hold every node once.
-/

namespace Crowfoot.Layout

open scoped List

/-! ## Cutting edges -/

variable {ι : Type}

/-- how many bends an edge gets -/
def bendsOf (rank : ι → ℕ) (e : Edge ι) : ℕ := rank e.2 - (rank e.1 + 1)

/-- the chains of some edges, given the number of the first bend -/
def chainsFrom (rank : ι → ℕ) : ℕ → List (Edge ι) → List (List (Node ι))
  | _, [] => []
  | first, e :: edges => chain rank first e :: chainsFrom rank (first + bendsOf rank e) edges

/-- the edges along a list of nodes -/
def stepsOf {α : Type} (nodes : List α) : List (Edge α) := nodes.zip nodes.tail

/-- the ranks of the bends of an edge -/
def bendRanks (rank : ι → ℕ) (e : Edge ι) : List ℕ := (List.range (bendsOf rank e)).map (rank e.1 + 1 + ·)

@[simp] theorem chain_length (rank : ι → ℕ) (first : ℕ) (e : Edge ι) :
    (chain rank first e).length = bendsOf rank e + 2 := by
  simp [chain, bendsOf]

theorem splitEdges_eq (rank : ι → ℕ) (edges : List (Edge ι)) :
    splitEdges rank edges = ⟨(chainsFrom rank 0 edges).flatMap stepsOf, edges.flatMap (bendRanks rank)⟩ := by
  have hfold : ∀ (g : Ranked ι), edges.foldl (fun g e =>
      let nodes := chain rank g.bends.length e
      ⟨g.edges ++ nodes.zip nodes.tail,
        g.bends ++ (List.range (nodes.length - 2)).map (fun i => rank e.1 + 1 + i)⟩) g =
      ⟨g.edges ++ (chainsFrom rank g.bends.length edges).flatMap stepsOf,
        g.bends ++ edges.flatMap (bendRanks rank)⟩ := by
    induction edges with
    | nil => simp [chainsFrom]
    | cons e edges ih =>
      intro g
      rw [List.foldl_cons, ih]
      simp [chainsFrom, bendRanks, stepsOf, bendsOf, chain_length]
  exact (hfold ⟨[], []⟩).trans (by simp)

/-- along a list of nodes whose ranks are consecutive, every step leads one rank down -/
theorem stepsOf_rank {α : Type} {nodes : List α} {r : α → ℕ} {s n : ℕ} (h : nodes.map r = List.range' s n) {e : Edge α}
    (he : e ∈ stepsOf nodes) : r e.2 = r e.1 + 1 := by
  obtain ⟨i, hi, rfl⟩ := List.mem_iff_getElem.1 he
  have hrank : ∀ j (hj : j < nodes.length), r nodes[j] = s + j := by
    intro j hj
    have hget : (nodes.map r)[j]? = some (r nodes[j]) := by rw [List.getElem?_map, List.getElem?_eq_getElem hj]; rfl
    rw [h] at hget
    obtain ⟨_, heq⟩ := List.getElem?_eq_some_iff.1 hget
    rw [← heq, List.getElem_range', Nat.one_mul]
  simp only [stepsOf, List.getElem_zip, List.getElem_tail]
  rw [hrank, hrank]
  omega

theorem mem_of_mem_stepsOf {α : Type} {nodes : List α} {e : Edge α} (he : e ∈ stepsOf nodes) :
    e.1 ∈ nodes ∧ e.2 ∈ nodes :=
  ⟨(List.of_mem_zip he).1, List.mem_of_mem_tail (List.of_mem_zip he).2⟩

/-- who is at the first node and follows all steps comes to every node -/
theorem subset_of_stepsOf {α : Type} {nodes : List α} {reached : List α} (hstart : ∀ n ∈ nodes.head?, n ∈ reached)
    (hsteps : ∀ e ∈ stepsOf nodes, e.1 ∈ reached → e.2 ∈ reached) : nodes ⊆ reached := by
  induction nodes with
  | nil => exact List.nil_subset _
  | cons a nodes ih =>
    have ha : a ∈ reached := hstart a rfl
    refine List.cons_subset.2 ⟨ha, ih (fun b hb => ?_) fun e he => hsteps e ?_⟩
    · obtain ⟨rest, rfl⟩ := List.head?_eq_some_iff.1 hb
      exact hsteps (a, b) List.mem_cons_self ha
    · cases nodes with
      | nil => cases he
      | cons b rest => exact List.mem_cons_of_mem _ he

/-- the ranks along the chain of an edge run through all numbers between those of its ends -/
theorem chain_ranks {rank : ι → ℕ} {e : Edge ι} (he : rank e.1 < rank e.2) (edges : List (Edge (Node ι)))
    (before after : List ℕ) :
    (chain rank before.length e).map ((⟨edges, before ++ (bendRanks rank e ++ after)⟩ : Ranked ι).rankOf rank) =
      List.range' (rank e.1) (bendsOf rank e + 2) := by
  have hbend : ∀ i ∈ List.range (bendsOf rank e),
      (⟨edges, before ++ (bendRanks rank e ++ after)⟩ : Ranked ι).rankOf rank (.bend (before.length + i)) =
        rank e.1 + 1 + i := by
    intro i hi
    have hlt : i < (bendRanks rank e).length := by simpa [bendRanks] using hi
    simp only [Ranked.rankOf]
    rw [List.getElem?_append_right (Nat.le_add_right _ _), Nat.add_sub_cancel_left, List.getElem?_append_left hlt]
    simp [bendRanks, List.mem_range.1 hi]
  have hlast : rank e.2 = rank e.1 + 1 + bendsOf rank e := by unfold bendsOf; omega
  rw [chain, List.map_append, List.map_cons, List.map_map, List.range'_succ, List.range'_concat, Nat.one_mul,
    ← List.cons_append]
  refine congrArg₂ (· ++ ·) (congrArg₂ (· :: ·) rfl ?_) (by simp [Ranked.rankOf, hlast])
  rw [List.range'_eq_map_range]
  exact List.map_congr_left hbend

theorem chainsFrom_step {rank : ι → ℕ} {edges : List (Edge ι)} (hrank : ∀ e ∈ edges, rank e.1 < rank e.2)
    (cut : List (Edge (Node ι))) (before : List ℕ) :
    ∀ nodes ∈ chainsFrom rank before.length edges, ∀ e ∈ stepsOf nodes,
      (⟨cut, before ++ edges.flatMap (bendRanks rank)⟩ : Ranked ι).rankOf rank e.2 =
        (⟨cut, before ++ edges.flatMap (bendRanks rank)⟩ : Ranked ι).rankOf rank e.1 + 1 := by
  induction edges generalizing before with
  | nil => simp [chainsFrom]
  | cons e edges ih =>
    simp only [List.mem_cons, forall_eq_or_imp] at hrank
    intro nodes hnodes
    rw [List.flatMap_cons]
    rcases List.mem_cons.1 hnodes with rfl | hnodes
    · exact fun step hstep => stepsOf_rank (chain_ranks hrank.1 cut before _) hstep
    · have hlen : before.length + bendsOf rank e = (before ++ bendRanks rank e).length := by simp [bendRanks]
      rw [← List.append_assoc]
      exact ih hrank.2 _ nodes (hlen ▸ hnodes)

/-- **Cut edges.** Where ranks grow along edges, every cut edge leads from one rank to the next. -/
theorem splitEdges_step {rank : ι → ℕ} {edges : List (Edge ι)} (hrank : ∀ e ∈ edges, rank e.1 < rank e.2)
    {e : Edge (Node ι)} (he : e ∈ (splitEdges rank edges).edges) :
    (splitEdges rank edges).rankOf rank e.2 = (splitEdges rank edges).rankOf rank e.1 + 1 := by
  rw [splitEdges_eq] at he ⊢
  obtain ⟨nodes, hnodes, hstep⟩ := List.mem_flatMap.1 he
  exact chainsFrom_step hrank _ [] nodes hnodes e hstep

/-! ## Bends -/

/-- the nodes along an edge that goes over some bends -/
def along (e : Edge ι) (bends : List ℕ) : List (Node ι) := .table e.1 :: bends.map .bend ++ [.table e.2]

/-- the bends of some edges, edge by edge, given the number of the first bend -/
def bendsFrom (rank : ι → ℕ) : ℕ → List (Edge ι) → List (List ℕ)
  | _, [] => []
  | first, e :: edges => List.range' first (bendsOf rank e) :: bendsFrom rank (first + bendsOf rank e) edges

theorem chain_eq_along (rank : ι → ℕ) (first : ℕ) (e : Edge ι) :
    chain rank first e = along e (List.range' first (bendsOf rank e)) := by
  rw [along, List.range'_eq_map_range, List.map_map]
  rfl

theorem chainsFrom_eq_along (rank : ι → ℕ) (first : ℕ) (edges : List (Edge ι)) :
    chainsFrom rank first edges = List.zipWith along edges (bendsFrom rank first edges) := by
  induction edges generalizing first with
  | nil => rfl
  | cons e edges ih => rw [chainsFrom, bendsFrom, List.zipWith_cons_cons, chain_eq_along, ih]

theorem bendsFrom_length (rank : ι → ℕ) (first : ℕ) (edges : List (Edge ι)) :
    (bendsFrom rank first edges).length = edges.length := by
  induction edges generalizing first with
  | nil => rfl
  | cons e edges ih => rw [bendsFrom, List.length_cons, List.length_cons, ih]

/-- the bends of all edges are numbered through -/
theorem bendsFrom_flatten (rank : ι → ℕ) (first : ℕ) (edges : List (Edge ι)) :
    (bendsFrom rank first edges).flatten = List.range' first (edges.flatMap (bendRanks rank)).length := by
  induction edges generalizing first with
  | nil => rfl
  | cons e edges ih =>
    have hlen : (bendRanks rank e).length = bendsOf rank e := by simp [bendRanks]
    rw [bendsFrom, List.flatten_cons, ih, List.flatMap_cons, List.length_append, hlen, List.range'_append_1]

/-- **Chains.** Every edge is cut into the steps of a chain over bends of its own, and all bends are those of some
edge. -/
theorem splitEdges_along (rank : ι → ℕ) (edges : List (Edge ι)) :
    ∃ bends : List (List ℕ), bends.length = edges.length ∧
      bends.flatten = List.range (splitEdges rank edges).bends.length ∧
      (splitEdges rank edges).edges = (List.zipWith along edges bends).flatMap stepsOf := by
  refine ⟨bendsFrom rank 0 edges, bendsFrom_length rank 0 edges, ?_, ?_⟩
  · rw [bendsFrom_flatten, splitEdges_eq, List.range_eq_range']
  · rw [splitEdges_eq, chainsFrom_eq_along]

theorem stepsOf_map_snd {α : Type} (nodes : List α) : (stepsOf nodes).map (·.2) = nodes.tail :=
  List.map_snd_zip (by simp)

/-- each bend is what one step leads to, and so is the end of each edge -/
theorem splitEdges_targets (rank : ι → ℕ) (edges : List (Edge ι)) :
    (splitEdges rank edges).edges.map (·.2) ~
      (List.range (splitEdges rank edges).bends.length).map .bend ++ edges.map fun e => .table e.2 := by
  obtain ⟨bends, hlen, hflatten, hedges⟩ := splitEdges_along rank edges
  have hchains : ∀ (edges : List (Edge ι)) (bends : List (List ℕ)), bends.length = edges.length →
      ((List.zipWith along edges bends).flatMap stepsOf).map (·.2) ~
        bends.flatten.map .bend ++ edges.map fun e => .table e.2 := by
    intro edges
    induction edges with
    | nil => intro bends hlen; rw [List.length_eq_zero_iff.1 hlen]; exact List.Perm.refl _
    | cons e edges ih =>
      intro bends hlen
      cases bends with
      | nil => cases hlen
      | cons ks bends =>
        have hsteps : (stepsOf (along e ks)).map (·.2) = ks.map .bend ++ [.table e.2] := stepsOf_map_snd (along e ks)
        rw [List.zipWith_cons_cons, List.flatMap_cons, List.map_append, hsteps, List.flatten_cons, List.map_append,
          List.map_cons, List.append_assoc, List.append_assoc]
        refine List.Perm.append_left _ ?_
        rw [List.singleton_append]
        exact ((ih bends (Nat.succ.inj hlen)).cons _).trans List.perm_middle.symm
  rw [hedges, ← hflatten]
  exact hchains edges bends hlen

theorem head?_of_mem_chainsFrom {rank : ι → ℕ} {edges : List (Edge ι)} {first : ℕ} {nodes : List (Node ι)}
    (h : nodes ∈ chainsFrom rank first edges) : ∃ e ∈ edges, nodes.head? = some (.table e.1) := by
  induction edges generalizing first with
  | nil => cases h
  | cons e edges ih =>
    rcases List.mem_cons.1 h with rfl | h
    · exact ⟨e, List.mem_cons_self, rfl⟩
    · obtain ⟨e', he', hhead⟩ := ih h
      exact ⟨e', List.mem_cons_of_mem _ he', hhead⟩

/-- who starts at the tables and follows the cut edges comes to both ends of each -/
theorem splitEdges_reached {rank : ι → ℕ} {edges : List (Edge ι)} {reached : List (Node ι)}
    (hstart : ∀ e ∈ edges, .table e.1 ∈ reached)
    (hclosed : ∀ e ∈ (splitEdges rank edges).edges, e.1 ∈ reached → e.2 ∈ reached) {e : Edge (Node ι)}
    (he : e ∈ (splitEdges rank edges).edges) : e.1 ∈ reached ∧ e.2 ∈ reached := by
  rw [splitEdges_eq] at he hclosed
  obtain ⟨nodes, hnodes, hstep⟩ := List.mem_flatMap.1 he
  have hsub : nodes ⊆ reached := by
    refine subset_of_stepsOf (fun n hn => ?_) fun e he => hclosed e (List.mem_flatMap.2 ⟨nodes, hnodes, he⟩)
    obtain ⟨e', he', hhead⟩ := head?_of_mem_chainsFrom hnodes
    rw [hhead] at hn
    cases hn
    exact hstart e' he'
  exact ⟨hsub (mem_of_mem_stepsOf hstep).1, hsub (mem_of_mem_stepsOf hstep).2⟩

/-! ## Filling layers -/

variable {α : Type}

/-- what follows a node that the walk has met has been met, or is on the stack -/
def Followed (next : α → List α) (seen stack : List α) : Prop := ∀ u ∈ seen, ∀ v ∈ next u, v ∈ seen ∨ v ∈ stack

theorem Followed.closed {next : α → List α} {seen : List α} (h : Followed next seen []) : ∀ u ∈ seen, next u ⊆ seen :=
  fun u hu v hv => (h u hu v hv).resolve_right (List.not_mem_nil)

/-- a node on the stack that has been met before -/
theorem Followed.skip {next : α → List α} {seen rest : List α} {u : α} (h : Followed next seen (u :: rest))
    (hu : u ∈ seen) : Followed next seen rest := by
  intro w hw v hv
  rcases h w hw v hv with hv | hv
  · exact Or.inl hv
  · rcases List.mem_cons.1 hv with rfl | hv
    · exact Or.inl hu
    · exact Or.inr hv

/-- a node on the stack that is new -/
theorem Followed.meet {next : α → List α} {seen rest : List α} {u : α} (h : Followed next seen (u :: rest)) :
    Followed next (seen ++ [u]) (next u ++ rest) := by
  intro w hw v hv
  rcases List.mem_append.1 hw with hw | hw
  · have hor := h w hw v hv
    simp only [List.mem_append, List.mem_cons] at hor ⊢
    tauto
  · rw [List.mem_singleton.1 hw] at hv
    exact Or.inr (List.mem_append_left _ hv)

variable [DecidableEq α]

/-- the edges of a new node move from those not yet met to the stack -/
theorem sum_unmet_le {next : α → List α} {nodes : Finset α} (hnodes : ∀ u ∉ nodes, next u = []) {seen : List α} {u : α}
    (hseen : u ∉ seen) : (next u).length + ∑ w ∈ nodes \ (seen ++ [u]).toFinset, (next w).length ≤
      ∑ w ∈ nodes \ seen.toFinset, (next w).length := by
  have hunion : (seen ++ [u]).toFinset = insert u seen.toFinset := by ext; simp
  rw [hunion, Finset.sdiff_insert]
  by_cases hu : u ∈ nodes
  · rw [Finset.add_sum_erase _ (fun w => (next w).length) (by simp [hu, hseen])]
  · rw [hnodes u hu, Finset.erase_eq_of_notMem (by simp [hu])]
    simp

/-- with fuel for every item of the stack and every edge from a node not yet met, the walk meets all that is on the
stack and all that follows -/
theorem preorder_spec {next : α → List α} {nodes : Finset α} (hnodes : ∀ u ∉ nodes, next u = []) (fuel : ℕ)
    {stack seen : List α} (hfuel : stack.length + ∑ u ∈ nodes \ seen.toFinset, (next u).length ≤ fuel)
    (hnodup : seen.Nodup) (hfollowed : Followed next seen stack) :
    (preorder next fuel stack seen).Nodup ∧ seen ⊆ preorder next fuel stack seen ∧
      stack ⊆ preorder next fuel stack seen ∧
      ∀ u ∈ preorder next fuel stack seen, next u ⊆ preorder next fuel stack seen := by
  induction fuel generalizing stack seen with
  | zero =>
    have hstack : stack = [] := List.length_eq_zero_iff.1 (by omega)
    subst hstack
    exact ⟨hnodup, List.Subset.refl _, List.nil_subset _, hfollowed.closed⟩
  | succ fuel ih =>
    cases stack with
    | nil => exact ⟨hnodup, List.Subset.refl _, List.nil_subset _, hfollowed.closed⟩
    | cons u rest =>
      rw [List.length_cons] at hfuel
      simp only [preorder, List.contains_iff_mem]
      split_ifs with hseen
      · obtain ⟨hnodup', hsub, hrest, hnext⟩ := ih (by omega) hnodup (hfollowed.skip hseen)
        exact ⟨hnodup', hsub, List.cons_subset.2 ⟨hsub hseen, hrest⟩, hnext⟩
      · have hmove := sum_unmet_le hnodes hseen
        have hnodup' : (seen ++ [u]).Nodup := List.concat_eq_append ▸ hnodup.concat hseen
        obtain ⟨hnodup'', hsub, hstack, hnext⟩ :=
          ih (by simp only [List.length_append]; omega) hnodup' hfollowed.meet
        obtain ⟨hseen', hu⟩ := List.append_subset.1 hsub
        exact ⟨hnodup'', hseen', List.cons_subset.2 ⟨hu (by simp), (List.append_subset.1 hstack).2⟩, hnext⟩

/-- the walk from some starts meets no node twice, all starts, and with a node its successors -/
theorem walkOrder_spec (starts : List α) (edges : List (Edge α)) :
    (walkOrder starts edges).Nodup ∧ starts ⊆ walkOrder starts edges ∧
      ∀ e ∈ edges, e.1 ∈ walkOrder starts edges → e.2 ∈ walkOrder starts edges := by
  have hnodes : ∀ u ∉ (edges.map (·.1)).toFinset, successors edges u = [] := by
    intro u hu
    refine List.eq_nil_iff_forall_not_mem.2 fun v hv => hu ?_
    exact List.mem_toFinset.2 (List.mem_map.2 ⟨_, mem_successors.1 hv, rfl⟩)
  have hfold : ∀ seen : List α, seen.Nodup → (∀ u ∈ seen, successors edges u ⊆ seen) →
      ∀ starts : List α,
        let met := starts.foldl (fun seen s => preorder (successors edges) (edges.length + 1) [s] seen) seen
        met.Nodup ∧ seen ⊆ met ∧ starts ⊆ met ∧ ∀ u ∈ met, successors edges u ⊆ met := by
    intro seen hnodup hclosed starts
    induction starts generalizing seen with
    | nil => exact ⟨hnodup, List.Subset.refl _, List.nil_subset _, hclosed⟩
    | cons s starts ih =>
      have hfuel : [s].length + ∑ u ∈ (edges.map (·.1)).toFinset \ seen.toFinset, (successors edges u).length ≤
          edges.length + 1 := by
        have := sum_successors_le edges ((edges.map (·.1)).toFinset \ seen.toFinset)
        simp only [List.length_singleton]
        omega
      obtain ⟨hnodup', hsub, hs, hclosed'⟩ :=
        preorder_spec hnodes (edges.length + 1) hfuel hnodup fun u hu v hv => Or.inl (hclosed u hu hv)
      obtain ⟨hmet, hseen, hstarts, hnext⟩ := ih _ hnodup' hclosed'
      exact ⟨hmet, List.Subset.trans hsub hseen, List.cons_subset.2 ⟨hseen (hs (by simp)), hstarts⟩, hnext⟩
  obtain ⟨hmet, -, hstarts, hnext⟩ := hfold [] List.nodup_nil nofun starts
  exact ⟨hmet, hstarts, fun e he hin => hnext e.1 hin (mem_successors.2 he)⟩

/-- the walk meets only what is on the stack and what it is led to -/
theorem preorder_met {next : α → List α} {met : α → Prop} (hnext : ∀ u, ∀ v ∈ next u, met v) (fuel : ℕ)
    {stack seen : List α} (hstack : ∀ n ∈ stack, met n) (hseen : ∀ n ∈ seen, met n) :
    ∀ n ∈ preorder next fuel stack seen, met n := by
  induction fuel generalizing stack seen with
  | zero => exact hseen
  | succ fuel ih =>
    cases stack with
    | nil => exact hseen
    | cons u rest =>
      obtain ⟨hu, hrest⟩ := List.forall_mem_cons.1 hstack
      simp only [preorder]
      split_ifs
      · exact ih hrest hseen
      · exact ih (List.forall_mem_append.2 ⟨hnext u, hrest⟩)
          (List.forall_mem_append.2 ⟨hseen, List.forall_mem_singleton.2 hu⟩)

theorem walkOrder_met {starts : List α} {edges : List (Edge α)} {n : α} (h : n ∈ walkOrder starts edges) :
    n ∈ starts ∨ n ∈ edges.map (·.2) := by
  have hnext : ∀ u, ∀ v ∈ successors edges u, v ∈ starts ∨ v ∈ edges.map (·.2) := fun u v hv =>
    Or.inr (List.mem_map.2 ⟨_, mem_successors.1 hv, rfl⟩)
  have hall : ∀ n ∈ walkOrder starts edges, n ∈ starts ∨ n ∈ edges.map (·.2) :=
    List.foldlRecOn starts _ (motive := fun seen => ∀ n ∈ seen, n ∈ starts ∨ n ∈ edges.map (·.2)) (by simp)
      fun seen hseen s hs => preorder_met hnext _ (List.forall_mem_singleton.2 (Or.inl hs)) hseen
  exact hall n h

/-- two layers, one above the other, that hold both ends of every edge from the one and into the other -/
def Joined (edges : List (Edge α)) (upper lower : List α) : Prop :=
  (∀ n ∈ upper, successors edges n ⊆ lower) ∧ ∀ n ∈ lower, predecessors edges n ⊆ upper

/-- where edges lead from one rank to the next, neighbouring layers are joined -/
theorem layersOf_joined {edges : List (Edge α)} {rank : α → ℕ} (depth : ℕ) {nodes : List α}
    (hstep : ∀ e ∈ edges, rank e.2 = rank e.1 + 1) (hends : ∀ e ∈ edges, e.1 ∈ nodes ∧ e.2 ∈ nodes) :
    (layersOf rank depth nodes).IsChain (Joined edges) := by
  unfold layersOf
  rw [List.isChain_map, List.isChain_range_succ]
  refine fun r _ => ⟨fun n hn v hv => ?_, fun n hn u hu => ?_⟩
  · have he := mem_successors.1 hv
    have hr : rank n = r := by simpa using (List.mem_filter.1 hn).2
    have hv : rank v = rank n + 1 := hstep _ he
    exact List.mem_filter.2 ⟨(hends _ he).2, by simp only [decide_eq_true_eq]; omega⟩
  · have he := mem_predecessors.1 hu
    have hr : rank n = r + 1 := by simpa using (List.mem_filter.1 hn).2
    have hu : rank n = rank u + 1 := hstep _ he
    exact List.mem_filter.2 ⟨(hends _ he).1, by simp only [decide_eq_true_eq]; omega⟩

omit [DecidableEq α] in
theorem getElem?_layersOf {rank : α → ℕ} {depth r : ℕ} {nodes layer : List α} :
    (layersOf rank depth nodes)[r]? = some layer ↔ r ≤ depth ∧ layer = nodes.filter fun n => rank n = r := by
  rw [layersOf, List.getElem?_map]
  by_cases hr : r < depth + 1
  · rw [List.getElem?_range hr, Option.map_some, Option.some.injEq]
    exact ⟨fun h => ⟨Nat.lt_succ_iff.1 hr, h.symm⟩, fun h => h.2.symm⟩
  · rw [List.getElem?_eq_none (by simpa using hr), Option.map_none]
    exact ⟨nofun, fun h => absurd (Nat.lt_succ_iff.2 h.1) hr⟩

omit [DecidableEq α] in
/-- layers hold nothing twice -/
theorem layersOf_nodup (rank : α → ℕ) (depth : ℕ) {nodes : List α} (h : nodes.Nodup) :
    (layersOf rank depth nodes).flatten.Nodup := by
  unfold layersOf
  refine List.nodup_flatten.2 ⟨fun layer hlayer => ?_, List.pairwise_map.2 ?_⟩
  · obtain ⟨r, -, rfl⟩ := List.mem_map.1 hlayer
    exact h.filter _
  · refine List.nodup_range.imp fun {r r'} hne n hn hn' => hne ?_
    have hr : rank n = r := by simpa using (List.mem_filter.1 hn).2
    have hr' : rank n = r' := by simpa using (List.mem_filter.1 hn').2
    exact hr.symm.trans hr'

omit [DecidableEq α] in
/-- layers down to the largest rank hold every node -/
theorem layersOf_perm {rank : α → ℕ} {depth : ℕ} {nodes : List α} (h : nodes.Nodup)
    (hdepth : ∀ n ∈ nodes, rank n ≤ depth) : (layersOf rank depth nodes).flatten ~ nodes := by
  refine (List.perm_ext_iff_of_nodup (layersOf_nodup rank depth h) h).2 fun n => ⟨fun hn => ?_, fun hn => ?_⟩
  · obtain ⟨layer, hlayer, hin⟩ := List.mem_flatten.1 hn
    obtain ⟨r, hr⟩ := List.mem_iff_getElem?.1 hlayer
    rw [(getElem?_layersOf.1 hr).2] at hin
    exact (List.mem_filter.1 hin).1
  · have hlayer : (layersOf rank depth nodes)[rank n]? = some (nodes.filter fun m => rank m = rank n) :=
      getElem?_layersOf.2 ⟨hdepth n hn, rfl⟩
    exact List.mem_flatten.2 ⟨_, List.mem_of_getElem? hlayer, List.mem_filter.2 ⟨hn, decide_eq_true rfl⟩⟩

end Crowfoot.Layout
