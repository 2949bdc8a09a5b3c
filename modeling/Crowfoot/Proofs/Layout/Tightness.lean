import Crowfoot.Proofs.Layout.Walk

/-
Ranks by formulas. In a graph without cycles the depth of a node is one more than the largest depth of its predecessors.
Loose nodes, which have successors only, then move down to just above the highest of these. What comes of it is tight:
no node could be further up, no loose one further down, and no rank is left out.

- `depthOf`, `pulledRank`: the two formulas. Only loose nodes move, and no edge leads to them, so that the nodes that
  edges lead to keep their depths.
- `Depths.exists_predecessor`: a node that has predecessors stays just below the lowest of them, as those that have
  moved down stay above their successors.
- `Depths.exists_above`: below the top there is a node on every rank. Above a loose node that has moved down this is
  a predecessor of a predecessor of its closest successor.
- `Depths.tight`: the ranks as a whole.
-/

namespace Crowfoot.Layout

variable {α : Type} [DecidableEq α] {order : List α} {edges : List (Edge α)}

/-- one more than the largest rank of the predecessors, zero where there are none -/
def depthOf (edges : List (Edge α)) (rank : α → ℤ) (v : α) : ℤ :=
  ((predecessors edges v).map (rank · + 1)).max?.getD 0

/-- whether a node has successors only -/
def isLoose (edges : List (Edge α)) (v : α) : Bool := (predecessors edges v).isEmpty && !(successors edges v).isEmpty

/-- one less than the smallest rank of the successors -/
def brinkOf (edges : List (Edge α)) (rank : α → ℤ) (v : α) : ℤ := ((successors edges v).map rank).min?.getD 0 - 1

/-- the rank of a node once loose nodes are moved down -/
def pulledRank (edges : List (Edge α)) (rank : α → ℤ) (v : α) : ℤ :=
  if isLoose edges v then brinkOf edges rank v else rank v

/-! ## The formulas -/

theorem le_depthOf (rank : α → ℤ) {u v : α} (h : (u, v) ∈ edges) : rank u + 1 ≤ depthOf edges rank v := by
  have hmem : rank u + 1 ∈ (predecessors edges v).map (rank · + 1) :=
    List.mem_map_of_mem (f := (rank · + 1)) (mem_predecessors.2 h)
  cases hmax : ((predecessors edges v).map (rank · + 1)).max? with
  | none => rw [List.max?_eq_none_iff.1 hmax] at hmem; cases hmem
  | some m =>
    rw [depthOf, hmax]
    exact (List.max?_eq_some_iff.1 hmax).2 _ hmem

theorem exists_depthOf (rank : α → ℤ) {v : α} (h : predecessors edges v ≠ []) :
    ∃ u, (u, v) ∈ edges ∧ depthOf edges rank v = rank u + 1 := by
  cases hmax : ((predecessors edges v).map (rank · + 1)).max? with
  | none => exact absurd (List.map_eq_nil_iff.1 (List.max?_eq_none_iff.1 hmax)) h
  | some m =>
    obtain ⟨u, hu, heq⟩ := List.mem_map.1 (List.max?_eq_some_iff.1 hmax).1
    exact ⟨u, mem_predecessors.1 hu, by rw [depthOf, hmax, ← heq]; rfl⟩

theorem depthOf_eq_zero (rank : α → ℤ) {v : α} (h : predecessors edges v = []) : depthOf edges rank v = 0 := by
  rw [depthOf, h]
  rfl

theorem depthOf_congr {rank rank' : α → ℤ} {v : α} (h : ∀ u, (u, v) ∈ edges → rank u = rank' u) :
    depthOf edges rank v = depthOf edges rank' v := by
  unfold depthOf
  congr 2
  exact List.map_congr_left fun u hu => by rw [h u (mem_predecessors.1 hu)]

theorem brinkOf_lt {rank : α → ℤ} {u v : α} (h : (u, v) ∈ edges) : brinkOf edges rank u < rank v := by
  have hmem : rank v ∈ (successors edges u).map rank := List.mem_map_of_mem (mem_successors.2 h)
  cases hmin : ((successors edges u).map rank).min? with
  | none => rw [List.min?_eq_none_iff.1 hmin] at hmem; cases hmem
  | some m =>
    have hle := (List.min?_eq_some_iff.1 hmin).2 _ hmem
    rw [brinkOf, hmin, Option.getD_some]
    omega

theorem exists_brinkOf (rank : α → ℤ) {u : α} (h : successors edges u ≠ []) :
    ∃ v, (u, v) ∈ edges ∧ brinkOf edges rank u + 1 = rank v := by
  cases hmin : ((successors edges u).map rank).min? with
  | none => exact absurd (List.map_eq_nil_iff.1 (List.min?_eq_none_iff.1 hmin)) h
  | some m =>
    obtain ⟨v, hv, heq⟩ := List.mem_map.1 (List.min?_eq_some_iff.1 hmin).1
    refine ⟨v, mem_successors.1 hv, ?_⟩
    rw [brinkOf, hmin, Option.getD_some, heq]
    omega

theorem brinkOf_congr {rank rank' : α → ℤ} {u : α} (h : ∀ v, (u, v) ∈ edges → rank v = rank' v) :
    brinkOf edges rank u = brinkOf edges rank' u := by
  unfold brinkOf
  congr 3
  exact List.map_congr_left fun v hv => h v (mem_successors.1 hv)

theorem isLoose_iff {v : α} : isLoose edges v = true ↔ predecessors edges v = [] ∧ successors edges v ≠ [] := by
  simp [isLoose]

/-- a node with a predecessor is not loose -/
theorem isLoose_of_mem {u v : α} (h : (u, v) ∈ edges) : isLoose edges v = false := by
  have hne : predecessors edges v ≠ [] := List.ne_nil_of_mem (mem_predecessors.2 h)
  simp [isLoose, hne]

/-- the end of an edge does not move -/
theorem pulledRank_of_mem (rank : α → ℤ) {u v : α} (h : (u, v) ∈ edges) : pulledRank edges rank v = rank v := by
  rw [pulledRank, isLoose_of_mem h]
  rfl

/-! ## Tight ranks -/

/-- ranks at which no node could be further up, no loose one further down, and none of which is left out -/
structure Tight (order : List α) (edges : List (Edge α)) (rank : α → ℤ) : Prop where
  /-- the smallest rank is zero -/
  smallest : order ≠ [] → (order.map rank).min? = some 0
  /-- a node with predecessors is one below the lowest of them -/
  below : ∀ v ∈ order, predecessors edges v ≠ [] → ((predecessors edges v).map (rank · + 1)).max? = some (rank v)
  /-- a node with successors only is one above the highest of them -/
  above : ∀ v ∈ order, predecessors edges v = [] → successors edges v ≠ [] →
    ((successors edges v).map (rank · - 1)).min? = some (rank v)
  /-- a node without edges is at the top -/
  alone : ∀ v ∈ order, predecessors edges v = [] → successors edges v = [] → rank v = 0
  /-- no rank above that of some node is left out -/
  full : ∀ v ∈ order, ∀ n, 0 ≤ n → n ≤ rank v → ∃ u ∈ order, rank u = n

theorem Tight.nonneg {rank : α → ℤ} (h : Tight order edges rank) {v : α} (hv : v ∈ order) : 0 ≤ rank v :=
  (List.min?_eq_some_iff.1 (h.smallest (List.ne_nil_of_mem hv))).2 _ (List.mem_map_of_mem hv)

/-- tight ranks grow along edges -/
theorem Tight.lt {rank : α → ℤ} (h : Tight order edges rank) {e : Edge α} (he : e ∈ edges) (hin : e.2 ∈ order) :
    rank e.1 < rank e.2 := by
  have hmem : e.1 ∈ predecessors edges e.2 := mem_predecessors.2 he
  have hmax := h.below e.2 hin (List.ne_nil_of_mem hmem)
  have hle := (List.max?_eq_some_iff.1 hmax).2 _ (List.mem_map_of_mem (f := (rank · + 1)) hmem)
  omega

/-- only the ranks of the nodes of a graph matter -/
theorem Tight.congr {rank rank' : α → ℤ} (hends : ∀ e ∈ edges, e.1 ∈ order ∧ e.2 ∈ order)
    (h : Tight order edges rank) (hsame : ∀ v ∈ order, rank' v = rank v) : Tight order edges rank' := by
  refine ⟨fun hne => ?_, fun v hv hpreds => ?_, fun v hv hpreds hsuccs => ?_, fun v hv hpreds hsuccs => ?_,
    fun v hv n hn hle => ?_⟩
  · rw [List.map_congr_left hsame]
    exact h.smallest hne
  · have hmap : (predecessors edges v).map (rank' · + 1) = (predecessors edges v).map (rank · + 1) :=
      List.map_congr_left fun u hu => by rw [hsame u (hends _ (mem_predecessors.1 hu)).1]
    rw [hmap, hsame v hv]
    exact h.below v hv hpreds
  · have hmap : (successors edges v).map (rank' · - 1) = (successors edges v).map (rank · - 1) :=
      List.map_congr_left fun u hu => by rw [hsame u (hends _ (mem_successors.1 hu)).2]
    rw [hmap, hsame v hv]
    exact h.above v hv hpreds hsuccs
  · rw [hsame v hv]
    exact h.alone v hv hpreds hsuccs
  · obtain ⟨u, hu, hrank⟩ := h.full v hv n hn (by rwa [← hsame v hv])
    exact ⟨u, hu, by rw [hsame u hu, hrank]⟩

/-! ## Depths -/

/-- the depths of a graph's nodes, each by those of its predecessors -/
structure Depths (order : List α) (edges : List (Edge α)) (depth : α → ℤ) : Prop where
  acyclic : Acyclic edges
  ends : ∀ e ∈ edges, e.1 ∈ order ∧ e.2 ∈ order
  depth_eq : ∀ v ∈ order, depth v = depthOf edges depth v

namespace Depths

variable {depth : α → ℤ} {u v : α}

theorem source_mem (h : Depths order edges depth) (he : (u, v) ∈ edges) : u ∈ order := (h.ends _ he).1

theorem target_mem (h : Depths order edges depth) (he : (u, v) ∈ edges) : v ∈ order := (h.ends _ he).2

theorem lt (h : Depths order edges depth) (he : (u, v) ∈ edges) : depth u < depth v := by
  have hle := le_depthOf depth he
  rw [← h.depth_eq v (h.target_mem he)] at hle
  omega

/-- depths are counted from zero: the induction is on a numbering along the edges -/
theorem nonneg (h : Depths order edges depth) (hv : v ∈ order) : 0 ≤ depth v := by
  obtain ⟨height, hheight⟩ := h.acyclic
  induction hn : height v using Nat.strong_induction_on generalizing v with
  | _ n ih =>
    rw [h.depth_eq v hv]
    by_cases hpreds : predecessors edges v = []
    · rw [depthOf_eq_zero depth hpreds]
    · obtain ⟨u, he, hu⟩ := exists_depthOf depth hpreds
      have hle := ih (height u) (hn ▸ hheight _ he) (h.source_mem he) rfl
      omega

theorem eq_zero (h : Depths order edges depth) (hv : v ∈ order) (hpreds : predecessors edges v = []) : depth v = 0 := by
  rw [h.depth_eq v hv, depthOf_eq_zero depth hpreds]

/-- moving a node down does not move it up: it was at the top before -/
theorem le_pulledRank (h : Depths order edges depth) (v : α) : depth v ≤ pulledRank edges depth v := by
  unfold pulledRank
  split_ifs with hloose
  · obtain ⟨hpreds, hsuccs⟩ := isLoose_iff.1 hloose
    obtain ⟨w, he, hbrink⟩ := exists_brinkOf depth hsuccs
    have hlt := h.lt he
    omega
  · exact le_rfl

/-- a node that is moved down stays above its successors -/
theorem pulledRank_lt (h : Depths order edges depth) (he : (u, v) ∈ edges) :
    pulledRank edges depth u < pulledRank edges depth v := by
  rw [pulledRank_of_mem depth he, pulledRank]
  split_ifs
  · exact brinkOf_lt he
  · exact h.lt he

/-- the deepest predecessor of a node is just above it and has not moved, as it could not without reaching the node -/
theorem exists_predecessor (h : Depths order edges depth) (hv : v ∈ order) (hpreds : predecessors edges v ≠ []) :
    ∃ u, (u, v) ∈ edges ∧ pulledRank edges depth v = pulledRank edges depth u + 1 := by
  obtain ⟨u, he, hu⟩ := exists_depthOf depth hpreds
  rw [← h.depth_eq v hv] at hu
  have hkept := pulledRank_of_mem depth he
  have hlt := h.pulledRank_lt he
  have hle := h.le_pulledRank u
  exact ⟨u, he, by omega⟩

/-- on the rank above a node there is another one, unless the node is at the top -/
theorem exists_above (h : Depths order edges depth) (hv : v ∈ order) (hpos : 0 < pulledRank edges depth v) :
    ∃ u ∈ order, pulledRank edges depth u + 1 = pulledRank edges depth v := by
  by_cases hpreds : predecessors edges v = []
  · by_cases hsuccs : successors edges v = []
    · -- a node without edges does not move
      have hzero := h.eq_zero hv hpreds
      rw [pulledRank, if_neg (by simp [isLoose_iff, hsuccs])] at hpos
      omega
    · -- the deepest predecessor of the closest successor is as deep as the node has come, hence not loose itself
      obtain ⟨w, he, hw⟩ := exists_brinkOf depth hsuccs
      have hbrink : pulledRank edges depth v = brinkOf edges depth v := if_pos (isLoose_iff.2 ⟨hpreds, hsuccs⟩)
      have hwpreds : predecessors edges w ≠ [] := List.ne_nil_of_mem (mem_predecessors.2 he)
      obtain ⟨u, he', hu⟩ := exists_depthOf depth hwpreds
      rw [← h.depth_eq w (h.target_mem he)] at hu
      have hin := h.source_mem he'
      have hupreds : predecessors edges u ≠ [] := by
        intro hnil
        have hzero := h.eq_zero hin hnil
        omega
      have hkept : pulledRank edges depth u = depth u := by
        rw [pulledRank, if_neg (by simp [isLoose_iff, hupreds])]
      obtain ⟨t, he'', ht⟩ := h.exists_predecessor hin hupreds
      exact ⟨t, h.source_mem he'', by omega⟩
  · obtain ⟨u, he, hu⟩ := h.exists_predecessor hv hpreds
    exact ⟨u, h.source_mem he, hu.symm⟩

/-- from any node the ranks above it can be gone through up to the top -/
theorem exists_rank (h : Depths order edges depth) (hv : v ∈ order) {n : ℤ} (hn : 0 ≤ n)
    (hle : n ≤ pulledRank edges depth v) : ∃ u ∈ order, pulledRank edges depth u = n := by
  obtain ⟨k, hk⟩ := Int.le.dest hle
  induction k generalizing v with
  | zero => exact ⟨v, hv, by omega⟩
  | succ k ih =>
    obtain ⟨u, hu, habove⟩ := h.exists_above hv (by omega)
    exact ih hu (by omega) (by omega)

/-- **Tight ranks.** The depths of a graph's nodes, loose nodes moved down, are tight. -/
theorem tight (h : Depths order edges depth) : Tight order edges (pulledRank edges depth) := by
  have hnonneg : ∀ v ∈ order, 0 ≤ pulledRank edges depth v := fun v hv => (h.nonneg hv).trans (h.le_pulledRank v)
  refine ⟨fun hne => ?_, fun v hv hpreds => ?_, fun v hv hpreds hsuccs => ?_, fun v hv hpreds hsuccs => ?_,
    fun v hv n hn hle => h.exists_rank hv hn hle⟩
  · obtain ⟨v, hv⟩ := List.exists_mem_of_ne_nil order hne
    obtain ⟨u, hu, hzero⟩ := h.exists_rank hv le_rfl (hnonneg v hv)
    refine List.min?_eq_some_iff.2 ⟨List.mem_map.2 ⟨u, hu, hzero⟩, fun n hn => ?_⟩
    obtain ⟨w, hw, rfl⟩ := List.mem_map.1 hn
    exact hnonneg w hw
  · obtain ⟨u, he, hu⟩ := h.exists_predecessor hv hpreds
    refine List.max?_eq_some_iff.2 ⟨List.mem_map.2 ⟨u, mem_predecessors.2 he, hu.symm⟩, fun n hn => ?_⟩
    obtain ⟨w, hw, rfl⟩ := List.mem_map.1 hn
    exact h.pulledRank_lt (mem_predecessors.1 hw)
  · obtain ⟨w, he, hw⟩ := exists_brinkOf depth hsuccs
    have hbrink : pulledRank edges depth v = brinkOf edges depth v := if_pos (isLoose_iff.2 ⟨hpreds, hsuccs⟩)
    refine List.min?_eq_some_iff.2 ⟨List.mem_map.2 ⟨w, mem_successors.2 he, ?_⟩, fun n hn => ?_⟩
    · rw [pulledRank_of_mem depth he]
      omega
    · obtain ⟨w', hw', rfl⟩ := List.mem_map.1 hn
      have hlt := h.pulledRank_lt (mem_successors.1 hw')
      omega
  · rw [pulledRank, if_neg (by simp [isLoose_iff, hsuccs]), h.eq_zero hv hpreds]

end Depths

end Crowfoot.Layout
