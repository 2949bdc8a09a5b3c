import Crowfoot.Proofs.Layout.Walk
import Crowfoot.Layout.Rank

/-
The topological order of a graph without cycles. Nodes are listed as often as they are given if no edge leads to them,
and once otherwise; every node is listed.

- `Sorting.Inv`: how far the listing has come when some edges have been followed. What is kept for a node is the number
  of edges into it that have not been followed. It is below zero where a node is listed twice, and its edges are
  followed as often.
- `Inv.follow`, `Inv.pop`: the two things that a step is made of, and `run_spec`: with as much fuel as there are nodes
  nothing that is ready is left.
- `Sorting.Inv.predecessors_subset`: where no node that edges leave is listed twice, a node is ready only when all its
  predecessors are listed.
- `topological_spec`: so edges lead forward then, and in any case everything is listed, as a node is ready when all its
  predecessors are.
-/

namespace Crowfoot.Layout

open scoped List

variable {α : Type} [DecidableEq α]

/-! ## Numbers by node -/

theorem lookup_cons_ite {β : Type} (j k : α) (b : β) (kbs : List (α × β)) :
    ((k, b) :: kbs).lookup j = if j = k then some b else kbs.lookup j := by
  rw [List.lookup_cons]
  by_cases h : j = k
  · simp [h]
  · simp [h, beq_false_of_ne h]

theorem lookup_setRank (k j : α) (n : ℤ) (ranks : Ranks α) :
    (setRank k n ranks).lookup j = if j = k then some n else ranks.lookup j := by
  induction ranks with
  | nil => rw [setRank, lookup_cons_ite]
  | cons r ranks ih =>
    simp only [setRank]
    split_ifs with hr hj hj
    · rw [lookup_cons_ite, if_pos (hj.trans hr.symm)]
    · have hne : j ≠ r.1 := fun heq => hj (heq.trans hr)
      rw [lookup_cons_ite, lookup_cons_ite, if_neg hne, if_neg hne]
    · rw [lookup_cons_ite, ih, if_neg fun heq => hr (heq.symm.trans hj), if_pos hj]
    · rw [lookup_cons_ite, ih, if_neg hj, lookup_cons_ite]

theorem lookup_map_self {β : Type} (f : α → β) {xs : List α} {x : α} (h : x ∈ xs) :
    (xs.map fun k => (k, f k)).lookup x = some (f x) := by
  induction xs with
  | nil => cases h
  | cons y xs ih =>
    rw [List.map_cons, lookup_cons_ite]
    split_ifs with heq
    · rw [heq]
    · exact ih ((List.mem_cons.1 h).resolve_left heq)

/-! ## Counting edges -/

/-- the edges from one node to another, counted at either end -/
theorem count_successors (edges : List (Edge α)) (u v : α) :
    (successors edges u).count v = (predecessors edges v).count u := by
  induction edges with
  | nil => rfl
  | cons e edges ih =>
    simp only [successors, predecessors, List.filter_cons, decide_eq_true_eq] at ih ⊢
    split_ifs with hu hv hv
    · simp [hu, hv, ih]
    · simp [hv, ih]
    · simp [hu, ih]
    · exact ih

/-- the common items of two lists, counted from either side -/
theorem sum_count_comm (xs ys : List α) : (xs.map (ys.count ·)).sum = (ys.map (xs.count ·)).sum := by
  have hcons : ∀ x (xs ys : List α), (ys.map ((x :: xs).count ·)).sum = ys.count x + (ys.map (xs.count ·)).sum := by
    intro x xs ys
    induction ys with
    | nil => rfl
    | cons y ys ih =>
      rw [List.map_cons, List.sum_cons, ih, List.map_cons, List.sum_cons, List.count_cons, List.count_cons, BEq.comm]
      omega
  induction xs with
  | nil => simp
  | cons x xs ih => rw [List.map_cons, List.sum_cons, ih, hcons]

/-- how often edges from some nodes lead to a node -/
theorem count_flatMap_successors (edges : List (Edge α)) (us : List α) (v : α) :
    (us.flatMap (successors edges)).count v = ((predecessors edges v).map (us.count ·)).sum := by
  rw [List.count_flatMap, ← sum_count_comm]
  simp only [Function.comp_def, count_successors]

/-! ## Listing -/

/-- every node of a list comes after all its predecessors -/
def Forward (edges : List (Edge α)) (listed : List α) : Prop :=
  ∀ before v, before ++ [v] <+: listed → predecessors edges v ⊆ before

theorem Forward.nil (edges : List (Edge α)) : Forward edges [] := by
  intro before v h
  simpa using h.length_le

theorem forward_concat {edges : List (Edge α)} {listed : List α} {v : α} :
    Forward edges (listed ++ [v]) ↔ Forward edges listed ∧ predecessors edges v ⊆ listed := by
  constructor
  · intro h
    exact ⟨fun before w hw => h before w (hw.trans (List.prefix_append _ _)), h listed v (List.prefix_refl _)⟩
  · rintro ⟨h, hv⟩ before w hw
    rcases List.prefix_concat_iff.1 hw with heq | hw
    · obtain ⟨rfl, hlast⟩ := List.append_inj' heq rfl
      rw [List.singleton_inj.1 hlast]
      exact hv
    · exact h before w hw

theorem Forward.predecessors_subset {edges : List (Edge α)} {listed : List α} (h : Forward edges listed) {v : α}
    (hv : v ∈ listed) : predecessors edges v ⊆ listed := by
  obtain ⟨before, after, rfl⟩ := List.append_of_mem hv
  have hbefore := h before v ⟨after, by simp⟩
  exact fun u hu => List.mem_append_left _ (hbefore hu)

/-- no node that is given twice has successors but no predecessors -/
def Unrepeated (order : List α) (edges : List (Edge α)) : Prop :=
  ∀ e ∈ edges, predecessors edges e.1 = [] → order.count e.1 ≤ 1

theorem unrepeated_of_nodup {order : List α} (h : order.Nodup) (edges : List (Edge α)) : Unrepeated order edges :=
  fun e _ _ => List.nodup_iff_count_le_one.1 h e.1

namespace Sorting

/-- how often a node is ready or listed by now: always, if no edge leads to it, and else once as many edges have been
followed as lead to it -/
def entries (order : List α) (edges : List (Edge α)) (followed : List α) (v : α) : ℕ :=
  if predecessors edges v = [] then order.count v
  else if (predecessors edges v).length ≤ followed.count v then 1 else 0

/-- how far the listing of a graph's nodes has come, when the edges followed have led to these nodes -/
structure Inv (order : List α) (edges : List (Edge α)) (followed : List α) (s : Sorting α) : Prop where
  waiting : ∀ v ∈ order, s.waiting.lookup v = some ((predecessors edges v).length - followed.count v : ℤ)
  count : ∀ v, (s.listed ++ s.queue).count v = entries order edges followed v

variable {order : List α} {edges : List (Edge α)} {s : Sorting α} {u v : α} {followed : List α}

theorem Inv.follow (h : Inv order edges followed s) (hv : v ∈ order) (hne : predecessors edges v ≠ []) :
    Inv order edges (followed ++ [v]) (s.follow v) := by
  have hself : (followed ++ [v]).count v = followed.count v + 1 := by simp
  have hother : ∀ w, w ≠ v → (followed ++ [v]).count w = followed.count w := fun w hw => by simp [hw.symm]
  have hn : (s.waiting.lookup v).getD 0 - 1 = ((predecessors edges v).length - (followed ++ [v]).count v : ℤ) := by
    rw [h.waiting v hv, hself, Option.getD_some]
    omega
  refine ⟨fun w hw => ?_, fun w => ?_⟩
  · simp only [Sorting.follow, hn, lookup_setRank]
    split_ifs with heq
    · rw [heq]
    · rw [h.waiting w hw, hother w heq]
  · -- the node becomes ready with the last edge into it, and not again with those that are followed twice
    have hcount := h.count w
    simp only [entries] at hcount ⊢
    simp only [Sorting.follow, hn]
    by_cases heq : w = v
    · subst heq
      rw [if_neg hne] at hcount ⊢
      rw [hself]
      split_ifs with hzero hle hle
      · rw [← List.append_assoc, List.count_append, hcount, List.count_singleton_self]
        split_ifs <;> omega
      · omega
      · rw [hcount]
        split_ifs <;> omega
      · rw [hcount, if_neg (by omega)]
    · rw [hother w heq, ← hcount]
      split_ifs
      · rw [← List.append_assoc, List.count_append, List.count_singleton, beq_false_of_ne (Ne.symm heq)]
        rfl
      · rfl

theorem Inv.follows (h : Inv order edges followed s) {vs : List α}
    (hvs : ∀ v ∈ vs, v ∈ order ∧ predecessors edges v ≠ []) :
    Inv order edges (followed ++ vs) (vs.foldl Sorting.follow s) := by
  induction vs generalizing s followed with
  | nil => simpa using h
  | cons v vs ih =>
    simp only [List.mem_cons, forall_eq_or_imp] at hvs
    simpa using ih (h.follow hvs.1.1 hvs.1.2) hvs.2

theorem follows_listed (vs : List α) (s : Sorting α) : (vs.foldl Sorting.follow s).listed = s.listed := by
  induction vs generalizing s with
  | nil => rfl
  | cons v vs ih => exact ih (s.follow v)

/-- a ready node is listed, and the edges that leave it are followed -/
theorem Inv.pop {rest : List α} (h : Inv order edges (s.listed.flatMap (successors edges)) s)
    (hqueue : s.queue = u :: rest) (hedges : Simple order edges) :
    let s' := (successors edges u).foldl Sorting.follow { s with queue := rest, listed := s.listed ++ [u] }
    Inv order edges (s'.listed.flatMap (successors edges)) s' ∧ s'.listed = s.listed ++ [u] := by
  intro s'
  have hlisted : s'.listed = s.listed ++ [u] := follows_listed _ _
  have hpopped : Inv order edges (s.listed.flatMap (successors edges))
      { s with queue := rest, listed := s.listed ++ [u] } := by
    refine ⟨h.waiting, fun v => ?_⟩
    rw [← h.count v, hqueue]
    simp
  have hsuccessors : ∀ v ∈ successors edges u, v ∈ order ∧ predecessors edges v ≠ [] := fun v hv =>
    ⟨(hedges _ (mem_successors.1 hv)).2.1, List.ne_nil_of_mem (mem_predecessors.2 (mem_successors.1 hv))⟩
  refine ⟨?_, hlisted⟩
  rw [hlisted, List.flatMap_append, List.flatMap_singleton]
  exact hpopped.follows hsuccessors

/-- no node is ready or listed more often than it is given -/
theorem Inv.subperm (h : Inv order edges followed s) (hedges : Simple order edges) :
    s.listed ++ s.queue <+~ order := by
  refine List.subperm_ext_iff.2 fun v _ => ?_
  rw [h.count v, entries]
  split_ifs with hnil
  · exact le_rfl
  · obtain ⟨u, hu⟩ := List.exists_mem_of_ne_nil _ hnil
    exact List.count_pos_iff.2 (hedges _ (mem_predecessors.1 hu)).2.1
  · exact Nat.zero_le _

/-- where no node that edges leave is listed twice, what leads to a ready node is listed: each of its predecessors counts
for one of its edges at most, and all of these have been followed -/
theorem Inv.predecessors_subset (h : Inv order edges (s.listed.flatMap (successors edges)) s)
    (hone : Unrepeated order edges) (hu : u ∈ s.queue) : predecessors edges u ⊆ s.listed := by
  intro p hp
  by_contra hnot
  have hentered : 0 < entries order edges (s.listed.flatMap (successors edges)) u := by
    rw [← h.count u]
    exact List.count_pos_iff.2 (List.mem_append_right _ hu)
  have hall : (predecessors edges u).length ≤ ((predecessors edges u).map (s.listed.count ·)).sum := by
    rw [entries, if_neg (List.ne_nil_of_mem hp), count_flatMap_successors] at hentered
    by_contra hlt
    simp [hlt] at hentered
  have hmost : ∀ q ∈ predecessors edges u, s.listed.count q ≤ 1 := by
    intro q hq
    have hcount := h.count q
    rw [List.count_append, entries] at hcount
    split_ifs at hcount with hnil
    · have hle : order.count q ≤ 1 := hone (q, u) (mem_predecessors.1 hq) hnil
      omega
    · omega
    · omega
  have hless := List.sum_lt_sum (s.listed.count ·) (fun _ => 1) hmost
    ⟨p, hp, by rw [List.count_eq_zero_of_not_mem hnot]; exact Nat.one_pos⟩
  simp only [List.map_const', List.sum_replicate, smul_eq_mul, mul_one] at hless
  omega

/-- with a unit of fuel for every node that is not listed, no node is left that is ready -/
theorem run_spec (hedges : Simple order edges) (fuel : ℕ)
    (h : Inv order edges (s.listed.flatMap (successors edges)) s) (hfuel : order.length ≤ fuel + s.listed.length) :
    let s' := run (successors edges) fuel s
    Inv order edges (s'.listed.flatMap (successors edges)) s' ∧ s'.queue = [] ∧
      (Unrepeated order edges → Forward edges s.listed → Forward edges s'.listed) := by
  induction fuel generalizing s with
  | zero =>
    have hlen := (h.subperm hedges).length_le
    rw [List.length_append] at hlen
    have hnone : s.queue.length = 0 := by omega
    exact ⟨h, List.length_eq_zero_iff.1 hnone, fun _ hforward => hforward⟩
  | succ fuel ih =>
    unfold run
    split
    · exact ⟨h, by assumption, fun _ hforward => hforward⟩
    · rename_i u rest hqueue
      obtain ⟨hinv, hlisted⟩ := h.pop hqueue hedges
      obtain ⟨hinv', hempty, hforward'⟩ := ih hinv (by
        rw [hlisted, List.length_append, List.length_singleton]
        omega)
      refine ⟨hinv', hempty, fun hone hforward => hforward' hone ?_⟩
      rw [hlisted, forward_concat]
      exact ⟨hforward, h.predecessors_subset hone (hqueue ▸ List.mem_cons_self)⟩

/-- where there is no cycle and nothing is ready, everything is listed: the lowest node that is not listed would have
all its predecessors listed -/
theorem Inv.complete (h : Inv order edges (s.listed.flatMap (successors edges)) s) (hempty : s.queue = [])
    (hedges : Simple order edges) (hacyclic : Acyclic edges) : order ⊆ s.listed := by
  obtain ⟨height, hheight⟩ := hacyclic
  have hall : ∀ n, ∀ v ∈ order, height v = n → v ∈ s.listed := by
    intro n
    induction n using Nat.strong_induction_on with
    | _ n ih =>
      intro v hv hn
      have hpreds : ∀ u ∈ predecessors edges v, 1 ≤ s.listed.count u := fun u hu =>
        have he := mem_predecessors.1 hu
        List.count_pos_iff.2 (ih (height u) (hn ▸ hheight _ he) u (hedges _ he).1 rfl)
      have hcount := h.count v
      rw [hempty, List.append_nil, entries, count_flatMap_successors] at hcount
      refine List.count_pos_iff.1 (hcount ▸ ?_)
      split_ifs with hnil hle
      · exact List.count_pos_iff.2 hv
      · exact Nat.one_pos
      · refine absurd ?_ hle
        have hsum := List.sum_le_sum hpreds
        simpa using hsum
  exact fun v hv => hall (height v) v hv rfl

end Sorting

/-- **Topological order.** Of a graph without cycles, every node is listed, and nothing else. Edges lead forward, unless
some node that is given twice has successors but no predecessors. -/
theorem topological_spec {order : List α} {edges : List (Edge α)} (hedges : Simple order edges)
    (hacyclic : Acyclic edges) :
    order ⊆ topological order edges ∧ topological order edges ⊆ order ∧
      (Unrepeated order edges → Forward edges (topological order edges)) := by
  let waiting : Ranks α := (distinct order).map fun k => (k, ((predecessors edges k).length : ℤ))
  have hwaiting : ∀ v ∈ order, waiting.lookup v = some ((predecessors edges v).length : ℤ) :=
    fun v hv => lookup_map_self _ (mem_distinct.2 hv)
  let start : Sorting α := ⟨order.filter fun k => waiting.lookup k = some 0, waiting, []⟩
  have hstart : Sorting.Inv order edges (start.listed.flatMap (successors edges)) start := by
    refine ⟨fun v hv => by simpa [start] using hwaiting v hv, fun v => ?_⟩
    show (order.filter fun k => waiting.lookup k = some 0).count v = Sorting.entries order edges [] v
    rw [Sorting.entries]
    by_cases hv : v ∈ order
    · by_cases hnil : predecessors edges v = []
      · rw [if_pos hnil, List.count_filter (by simp [hwaiting v hv, hnil])]
      · have hnot : v ∉ order.filter fun k => waiting.lookup k = some 0 := by simp [hwaiting v hv, hnil]
        rw [if_neg hnil, List.count_eq_zero_of_not_mem hnot]
        simp [hnil]
    · have hnil : predecessors edges v = [] := List.eq_nil_iff_forall_not_mem.2 fun u hu =>
        hv (hedges _ (mem_predecessors.1 hu)).2.1
      rw [if_pos hnil, List.count_eq_zero_of_not_mem hv]
      exact List.count_eq_zero_of_not_mem fun hin => hv (List.mem_of_mem_filter hin)
  obtain ⟨hinv, hempty, hforward⟩ := Sorting.run_spec hedges (2 * order.length) hstart (by omega)
  have hsub := (hinv.subperm hedges).subset
  exact ⟨hinv.complete hempty hedges hacyclic, (List.append_subset.1 hsub).1,
    fun hone => hforward hone (Forward.nil edges)⟩

end Crowfoot.Layout
