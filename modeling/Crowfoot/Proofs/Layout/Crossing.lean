import Mathlib.Data.List.Sym
import Crowfoot.Proofs.Layout.Ordering

/-
Crossings, and that reducing them makes no drawing worse. Two edges between the same two layers cross if their ends are
in opposite order above and below; edges that share an end do not.

- `crossingNumber`: the unordered pairs of edges that cross, over all neighbouring layers.
- `inversions_eq_countP`: once ends are sorted, an inversion is a pair in opposite order, so that what is counted does
  not depend on how ends are listed. `edgeEnds_perm`: ends are listed layer by layer, and every edge between the two
  layers is there once, as no node of the upper one is there twice.
- `countCrossings_eq`: so the crossings that are counted are the pairs of edges that cross.
- `improve_fewest`: the arrangement that the search keeps never has more crossings than the one it began with.
- `isChain_joined`: edges that join consecutive layers, no two of which share a node, find both of their ends.
- `orderLayers_crossings`: the search as a whole.
-/

namespace Crowfoot.Layout

open scoped List

/-! ## Pairs in opposite order -/

/-- of two pairs of places, one is further left above and further right below -/
def Opposite (a b : ℕ × ℕ) : Prop := a.1 < b.1 ∧ b.2 < a.2 ∨ b.1 < a.1 ∧ a.2 < b.2

instance : DecidableRel Opposite := fun a b => inferInstanceAs (Decidable (a.1 < b.1 ∧ b.2 < a.2 ∨ _))

instance opposite_symm : Std.Symm Opposite := ⟨fun _ _ => Or.symm⟩

theorem endsInOrder_trans (a b c : ℕ × ℕ) (h : endsInOrder a b = true) (h' : endsInOrder b c = true) :
    endsInOrder a c = true := by
  simp only [endsInOrder, Bool.or_eq_true, Bool.and_eq_true, decide_eq_true_eq, beq_iff_eq] at *
  omega

theorem endsInOrder_total (a b : ℕ × ℕ) : (endsInOrder a b || endsInOrder b a) = true := by
  simp only [endsInOrder, Bool.or_eq_true, Bool.and_eq_true, decide_eq_true_eq, beq_iff_eq]
  omega

/-- in a sorted list, the inversions are the unordered pairs in opposite order -/
theorem inversions_eq_countP {xs : List (ℕ × ℕ)} (h : xs.Pairwise fun a b => endsInOrder a b = true) :
    inversions xs = xs.sym2.countP (· ∈ Sym2.fromRel opposite_symm) := by
  induction xs with
  | nil => rfl
  | cons a rest ih =>
    rw [List.pairwise_cons] at h
    have hself : ¬ Opposite a a := by simp [Opposite]
    have hrest : rest.countP (fun b => a.1 < b.1 && b.2 < a.2) = rest.countP fun b => Opposite a b := by
      refine List.countP_congr fun b hb => ?_
      have hsorted := h.1 b hb
      simp only [endsInOrder, Bool.or_eq_true, Bool.and_eq_true, decide_eq_true_eq, beq_iff_eq] at hsorted
      have hopposite : Opposite a b ↔ a.1 < b.1 ∧ b.2 < a.2 := by unfold Opposite; omega
      simp [hopposite]
    rw [inversions, ih h.2, hrest, List.sym2, List.countP_append, List.countP_map, List.countP_cons]
    simp [Function.comp_def, hself]

theorem inversions_mergeSort (xs : List (ℕ × ℕ)) :
    inversions (xs.mergeSort endsInOrder) = xs.sym2.countP (· ∈ Sym2.fromRel opposite_symm) := by
  rw [inversions_eq_countP (List.pairwise_mergeSort endsInOrder_trans endsInOrder_total xs)]
  exact (List.mergeSort_perm xs _).sym2.countP_eq _

/-! ## Counting -/

variable {α : Type} [DecidableEq α]

/-- the places of the ends of an edge, in the layer above and in the layer below -/
def endPlaces (upper lower : List α) (e : Edge α) : ℕ × ℕ := (upper.idxOf e.1, lower.idxOf e.2)

/-- the edges from one layer to another -/
def edgesBetween (edges : List (Edge α)) (upper lower : List α) : List (Edge α) :=
  edges.filter fun e => e.1 ∈ upper ∧ e.2 ∈ lower

/-- the unordered pairs of edges from one layer to another whose ends are in opposite order -/
def crossingPairs (edges : List (Edge α)) (upper lower : List α) : List (Sym2 (Edge α)) :=
  (edgesBetween edges upper lower).sym2.filter fun pair => pair.map (endPlaces upper lower) ∈ Sym2.fromRel opposite_symm

/-- how many pairs of edges cross, from each layer to the next -/
def crossingNumber (edges : List (Edge α)) : List (List α) → ℕ
  | upper :: lower :: rest => (crossingPairs edges upper lower).length + crossingNumber edges (lower :: rest)
  | _ => 0

variable {edges : List (Edge α)}

/-- the edges that leave the nodes of a layer, node by node -/
theorem flatMap_filter_perm {upper : List α} (h : upper.Nodup) (edges : List (Edge α)) :
    upper.flatMap (fun n => edges.filter (·.1 = n)) ~ edges.filter (·.1 ∈ upper) := by
  induction upper with
  | nil => simp
  | cons n rest ih =>
    obtain ⟨hn, hrest⟩ := List.nodup_cons.1 h
    have hsplit := List.filter_append_perm (fun e : Edge α => e.1 = n) (edges.filter (·.1 ∈ n :: rest))
    have hhere : (edges.filter (·.1 ∈ n :: rest)).filter (·.1 = n) = edges.filter (·.1 = n) := by
      rw [List.filter_filter]
      refine List.filter_congr fun e _ => ?_
      by_cases he : e.1 = n <;> simp [he]
    have hothers : (edges.filter (·.1 ∈ n :: rest)).filter (fun e => !decide (e.1 = n)) =
        edges.filter (·.1 ∈ rest) := by
      rw [List.filter_filter]
      refine List.filter_congr fun e _ => ?_
      by_cases he : e.1 = n
      · simp [he, hn]
      · simp [he]
    rw [hhere, hothers] at hsplit
    rw [List.flatMap_cons]
    exact ((ih hrest).append_left _).trans hsplit

/-- each edge from a layer without repetitions to the next is listed once, by the places of its ends -/
theorem edgeEnds_perm {upper lower : List α} (hupper : upper.Nodup)
    (hjoined : ∀ n ∈ upper, successors edges n ⊆ lower) :
    ∃ ends, edgeEnds (successors edges) upper lower = .ok ends ∧
      ends ~ (edgesBetween edges upper lower).map (endPlaces upper lower) := by
  have hplaces : upper.zipIdx = upper.map fun n => (n, upper.idxOf n) := by
    refine List.ext_getElem (by simp) fun i hi _ => ?_
    simp [hupper.idxOf_getElem]
  have hnode : ∀ n ∈ upper,
      (((successors edges n).map fun m => (lower.idxOf? m).getD 0).map fun j => (upper.idxOf n, j)) =
        (edges.filter (·.1 = n)).map (endPlaces upper lower) := by
    intro n hn
    rw [successors, List.map_map, List.map_map]
    refine List.map_congr_left fun e he => ?_
    obtain ⟨hmem, hstart⟩ := List.mem_filter.1 he
    obtain rfl : e.1 = n := of_decide_eq_true hstart
    obtain ⟨i, hi⟩ := Option.ne_none_iff_exists'.1 fun hnone =>
      List.idxOf?_eq_none_iff.1 hnone (hjoined _ hn (mem_successors.2 hmem))
    simp [endPlaces, List.idxOf_eq_getD_idxOf?, hi]
  have hbetween : edges.filter (·.1 ∈ upper) = edgesBetween edges upper lower := by
    refine List.filter_congr fun e he => ?_
    have hend : e.1 ∈ upper → e.2 ∈ lower := fun hstart => hjoined _ hstart (mem_successors.2 he)
    simpa using hend
  refine ⟨_, edgeEnds_eq hjoined, ?_⟩
  rw [hplaces, List.flatMap_map, List.flatMap_congr hnode, ← List.map_flatMap, ← hbetween]
  exact (flatMap_filter_perm hupper edges).map _

theorem crossingsBetween_eq {upper lower : List α} (hupper : upper.Nodup)
    (hjoined : ∀ n ∈ upper, successors edges n ⊆ lower) :
    crossingsBetween (successors edges) upper lower = .ok (crossingPairs edges upper lower).length := by
  obtain ⟨ends, hends, hperm⟩ := edgeEnds_perm hupper hjoined
  have hcount : inversions (ends.mergeSort endsInOrder) = (crossingPairs edges upper lower).length := by
    rw [inversions_mergeSort, hperm.sym2.countP_eq, List.sym2_map, List.countP_map, crossingPairs,
      ← List.countP_eq_length_filter]
    rfl
  rw [crossingsBetween, hends, ← hcount]
  rfl

/-- **Crossings.** In layers without repetitions the crossings that are counted are the pairs of edges that cross. -/
theorem countCrossings_eq {layers : List (List α)} (hnodup : ∀ layer ∈ layers, layer.Nodup)
    (hjoined : layers.IsChain (Joined edges)) :
    countCrossings (successors edges) layers = .ok (crossingNumber edges layers) := by
  induction layers with
  | nil => rfl
  | cons upper layers ih =>
    cases layers with
    | nil => rfl
    | cons lower rest =>
      rw [List.isChain_cons_cons] at hjoined
      rw [List.forall_mem_cons] at hnodup
      rw [countCrossings, crossingsBetween_eq hnodup.1 hjoined.1.1, ih hnodup.2 hjoined.2]
      rfl

/-! ## Keeping the best -/

/-- the search ends with an arrangement that has no more crossings than the best one so far -/
theorem improve_fewest {above below : α → List α} {sweeps : ℕ} {down : Bool} {current best result : List (List α)}
    {fewest : ℕ} (hbest : countCrossings below best = .ok fewest)
    (h : improve above below sweeps down current best fewest = .ok result) :
    ∃ crossings ≤ fewest, countCrossings below result = .ok crossings := by
  induction sweeps generalizing down current best fewest with
  | zero =>
    cases h
    exact ⟨fewest, le_rfl, hbest⟩
  | succ sweeps ih =>
    rw [improve] at h
    split_ifs at h
    · cases h
      exact ⟨fewest, le_rfl, hbest⟩
    · obtain ⟨swept, -, h⟩ := except_bind_eq_ok.1 h
      obtain ⟨crossings, hcrossings, h⟩ := except_bind_eq_ok.1 h
      split_ifs at h with hfewer
      · obtain ⟨n, hn, hcount⟩ := ih hcrossings h
        exact ⟨n, hn.trans hfewer.le, hcount⟩
      · exact ih hbest h

omit [DecidableEq α] in
/-- a node is in one layer only -/
theorem layer_unique {layers : List (List α)} (h : layers.flatten.Nodup) {n : α} {i j : ℕ} {layer layer' : List α}
    (hi : layers[i]? = some layer) (hj : layers[j]? = some layer') (hn : n ∈ layer) (hn' : n ∈ layer') : i = j := by
  obtain ⟨hilt, rfl⟩ := List.getElem?_eq_some_iff.1 hi
  obtain ⟨hjlt, rfl⟩ := List.getElem?_eq_some_iff.1 hj
  have hdisjoint := List.pairwise_iff_getElem.1 (List.nodup_flatten.1 h).2
  rcases lt_trichotomy i j with hlt | heq | hlt
  · exact absurd hn' (hdisjoint i j hilt hjlt hlt hn)
  · exact heq
  · exact absurd hn (hdisjoint j i hjlt hilt hlt hn')

/-- edges that join consecutive layers find their ends there, if no node is in two places -/
theorem isChain_joined {layers : List (List α)} (hnodup : layers.flatten.Nodup)
    (h : ∀ e ∈ edges, ∃ i upper lower, layers[i]? = some upper ∧ layers[i + 1]? = some lower ∧ e.1 ∈ upper ∧
      e.2 ∈ lower) :
    layers.IsChain (Joined edges) := by
  refine List.isChain_iff_getElem.2 fun i hi => ⟨fun n hn v hv => ?_, fun n hn u hu => ?_⟩
  · obtain ⟨j, upper, lower, hupper, hlower, hstart, hend⟩ := h _ (mem_successors.1 hv)
    obtain rfl := layer_unique hnodup hupper (List.getElem?_eq_getElem (Nat.lt_of_succ_lt hi)) hstart hn
    obtain ⟨_, rfl⟩ := List.getElem?_eq_some_iff.1 hlower
    exact hend
  · obtain ⟨j, upper, lower, hupper, hlower, hstart, hend⟩ := h _ (mem_predecessors.1 hu)
    obtain heq := layer_unique hnodup hlower (List.getElem?_eq_getElem hi) hend hn
    obtain rfl := Nat.succ.inj heq
    obtain ⟨_, rfl⟩ := List.getElem?_eq_some_iff.1 hupper
    exact hstart

/-- **Reducing crossings makes no drawing worse.** Of layers without repetitions, each joined to the next, the crossings
that are counted are the pairs of edges between two layers with ends in opposite order. The search gives the layers back
with the nodes of each in some order, with no more crossings; and where there are none, as they were. -/
theorem orderLayers_crossings (edges : List (Edge α)) (layers : List (List α)) (hnodup : ∀ layer ∈ layers, layer.Nodup)
    (hjoined : layers.IsChain (Joined edges)) :
    countCrossings (successors edges) layers = .ok (crossingNumber edges layers) ∧
      ∃ ordered, orderLayers edges layers = .ok ordered ∧ Rearranged ordered layers ∧
        crossingNumber edges ordered ≤ crossingNumber edges layers ∧
        (crossingNumber edges layers = 0 → ordered = layers) := by
  have hcount := countCrossings_eq hnodup hjoined
  obtain ⟨ordered, hordered, hsame⟩ := orderLayers_spec hjoined
  refine ⟨hcount, ordered, hordered, hsame, ?_, fun hzero => ?_⟩
  · have hnodup' : ∀ layer ∈ ordered, layer.Nodup := by
      intro layer hlayer
      obtain ⟨layer', hlayer', hperm⟩ := forall₂_mem_left hsame hlayer
      exact hperm.nodup_iff.2 (hnodup layer' hlayer')
    rw [orderLayers, hcount] at hordered
    obtain ⟨crossings, hle, hcrossings⟩ := improve_fewest hcount hordered
    rw [countCrossings_eq hnodup' (Joined.rearranged hjoined hsame)] at hcrossings
    exact (Except.ok.inj hcrossings).le.trans hle
  · rw [orderLayers, hcount, hzero] at hordered
    exact (Except.ok.inj hordered).symm

/-- two layers over a third, and an edge that crosses another -/
def crossedLayers : List (List String) := [["orders", "visits"], ["shops", "people"], ["places"]]

def crossedEdges : List (Edge String) :=
  [("orders", "people"), ("visits", "shops"), ("visits", "people"), ("shops", "places"), ("people", "places")]

theorem orderLayers_crossings_crossed :
    (∀ layer ∈ crossedLayers, layer.Nodup) ∧ crossedLayers.IsChain (Joined crossedEdges) ∧
      countCrossings (successors crossedEdges) crossedLayers = .ok 1 ∧
      ∃ ordered, orderLayers crossedEdges crossedLayers = .ok ordered ∧ Rearranged ordered crossedLayers ∧
        crossingNumber crossedEdges ordered ≤ 1 ∧
        ordered = [["orders", "visits"], ["people", "shops"], ["places"]] := by
  have hnodup : ∀ layer ∈ crossedLayers, layer.Nodup := by decide
  have hjoined : crossedLayers.IsChain (Joined crossedEdges) := by
    refine isChain_joined (by decide) fun e he => ?_
    simp only [crossedEdges, List.mem_cons, List.not_mem_nil, or_false] at he
    rcases he with rfl | rfl | rfl | rfl | rfl
    · exact ⟨0, _, _, rfl, rfl, by decide, by decide⟩
    · exact ⟨0, _, _, rfl, rfl, by decide, by decide⟩
    · exact ⟨0, _, _, rfl, rfl, by decide, by decide⟩
    · exact ⟨1, _, _, rfl, rfl, by decide, by decide⟩
    · exact ⟨1, _, _, rfl, rfl, by decide, by decide⟩
  obtain ⟨hcount, ordered, hordered, hsame, hle, -⟩ := orderLayers_crossings crossedEdges crossedLayers hnodup hjoined
  rw [show crossingNumber crossedEdges crossedLayers = 1 by decide +kernel] at hcount hle
  -- the shops and the people have changed places
  have heq : orderLayers crossedEdges crossedLayers =
      .ok [["orders", "visits"], ["people", "shops"], ["places"]] := by cbv
  rw [hordered] at heq
  exact ⟨hnodup, hjoined, hcount, ordered, hordered, hsame, hle, Except.ok.inj heq⟩

end Crowfoot.Layout
