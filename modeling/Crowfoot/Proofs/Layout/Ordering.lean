import Crowfoot.Proofs.Outcome
import Crowfoot.Proofs.Layout.Layering
import Crowfoot.Layout.Crossing

/-
Reducing crossings among joined layers. Every neighbour that is looked for is found, and what comes out are the layers
that went in, each with its nodes in some order.

- `reorderLayer_spec`: the movable nodes of a layer are put back into the places that they came from.
- `sweepFrom_spec`, `improve_spec`: sweeps in both directions, each of which finds the layers joined as the one before
  it did.
- `orderLayers_spec`: the search as a whole.
-/

namespace Crowfoot.Layout

open scoped List

variable {α : Type}

/-! ## Filling places -/

/-- an item put in the place of another -/
theorem set_perm {xs : List α} {i : ℕ} {old : α} (h : xs[i]? = some old) (new : α) :
    old :: xs.set i new ~ new :: xs := by
  obtain ⟨hi, rfl⟩ := List.getElem?_eq_some_iff.1 h
  have hset : xs.set i new = xs.take i ++ new :: xs.drop (i + 1) := List.set_eq_take_append_cons_drop.trans (if_pos hi)
  have hxs : xs = xs.take i ++ xs[i] :: xs.drop (i + 1) := by simp
  calc xs[i] :: xs.set i new
      = xs[i] :: (xs.take i ++ new :: xs.drop (i + 1)) := by rw [hset]
    _ ~ xs[i] :: new :: (xs.take i ++ xs.drop (i + 1)) := List.perm_middle.cons _
    _ ~ new :: xs[i] :: (xs.take i ++ xs.drop (i + 1)) := List.Perm.swap _ _ _
    _ ~ new :: (xs.take i ++ xs[i] :: xs.drop (i + 1)) := List.perm_middle.symm.cons _
    _ = new :: xs := by rw [← hxs]

/-- with the items that stood in the places, those that fill them make up what was there -/
theorem fillPlaces_perm {ms : List (ℕ × α)} {ns layer : List α} (hnodup : (ms.map (·.1)).Nodup)
    (hold : ∀ m ∈ ms, layer[m.1]? = some m.2) (hlen : ns.length = ms.length) :
    fillPlaces (ms.map (·.1)) ns layer ++ ms.map (·.2) ~ layer ++ ns := by
  induction ms generalizing ns layer with
  | nil =>
    rw [List.length_eq_zero_iff.1 hlen]
    simp [fillPlaces]
  | cons m ms ih =>
    cases ns with
    | nil => cases hlen
    | cons n ns =>
      rw [List.map_cons, List.nodup_cons] at hnodup
      have hrest : ∀ m' ∈ ms, (layer.set m.1 n)[m'.1]? = some m'.2 := by
        intro m' hm'
        have hne : m.1 ≠ m'.1 := fun heq => hnodup.1 (heq ▸ List.mem_map_of_mem hm')
        rw [List.getElem?_set_ne hne]
        exact hold m' (List.mem_cons_of_mem _ hm')
      have hfill : fillPlaces (ms.map (·.1)) ns (layer.set m.1 n) ++ ms.map (·.2) ~ layer.set m.1 n ++ ns :=
        ih hnodup.2 hrest (by simpa using hlen)
      calc fillPlaces (m.1 :: ms.map (·.1)) (n :: ns) layer ++ (m.2 :: ms.map (·.2))
          ~ m.2 :: (fillPlaces (ms.map (·.1)) ns (layer.set m.1 n) ++ ms.map (·.2)) := List.perm_middle
        _ ~ m.2 :: (layer.set m.1 n ++ ns) := hfill.cons _
        _ ~ n :: layer ++ ns := (set_perm (hold m List.mem_cons_self) n).append_right ns
        _ ~ layer ++ n :: ns := List.perm_middle.symm

variable [DecidableEq α]

/-! ## Counting -/

theorem placesIn_eq {layer ns : List α} (h : ns ⊆ layer) :
    placesIn layer ns = .ok (ns.map fun n => (layer.idxOf? n).getD 0) := by
  refine except_mapM_of_forall fun n hn => ?_
  cases hi : layer.idxOf? n with
  | none => exact absurd (h hn) (List.idxOf?_eq_none_iff.1 hi)
  | some i => rfl

theorem edgeEnds_eq {below : α → List α} {upper lower : List α} (h : ∀ n ∈ upper, below n ⊆ lower) :
    edgeEnds below upper lower = .ok (upper.zipIdx.flatMap fun p =>
      ((below p.1).map fun n => (lower.idxOf? n).getD 0).map fun j => (p.2, j)) := by
  have hends : ∀ p ∈ upper.zipIdx, (do
      let places ← placesIn lower (below p.1)
      return places.map fun j => (p.2, j) : Except α (List (ℕ × ℕ))) =
        .ok (((below p.1).map fun n => (lower.idxOf? n).getD 0).map fun j => (p.2, j)) := by
    intro p hp
    rw [placesIn_eq (h p.1 (List.fst_mem_of_mem_zipIdx hp))]
    rfl
  unfold edgeEnds
  rw [except_mapM_of_forall hends]
  rfl

/-- no crossing is sought in vain between layers that hold what the layers above lead to -/
theorem countCrossings_ok (below : α → List α) {layers : List (List α)}
    (h : layers.IsChain fun upper lower => ∀ n ∈ upper, below n ⊆ lower) :
    ∃ crossings, countCrossings below layers = .ok crossings := by
  induction layers with
  | nil => exact ⟨0, rfl⟩
  | cons upper layers ih =>
    cases layers with
    | nil => exact ⟨0, rfl⟩
    | cons lower rest =>
      rw [List.isChain_cons_cons] at h
      obtain ⟨further, hfurther⟩ := ih h.2
      exact ⟨_, by rw [countCrossings, crossingsBetween, edgeEnds_eq h.1, hfurther]; rfl⟩

/-! ## Ordering -/

/-- a node of a layer with its place, and the places of its neighbours in a fixed layer -/
def movableAt (neighbours : α → List α) (fixed : List α) (p : α × ℕ) : Movable α :=
  let found := (neighbours p.1).map fun m => (fixed.idxOf? m).getD 0
  ⟨found.foldr Nat.add 0, found.length, p.2, p.1⟩

/-- the nodes of a layer that have neighbours in a fixed layer -/
def movables (neighbours : α → List α) (fixed layer : List α) : List (Movable α) :=
  (layer.zipIdx.map (movableAt neighbours fixed)).filter fun m => 0 < m.count

theorem reorderLayer_eq {neighbours : α → List α} {fixed layer : List α} (h : ∀ n ∈ layer, neighbours n ⊆ fixed) :
    reorderLayer neighbours fixed layer = .ok (fillPlaces ((movables neighbours fixed layer).map (·.place))
      (((movables neighbours fixed layer).mergeSort Movable.before).map (·.node)) layer) := by
  have hplaces : layer.zipIdx.mapM (fun p => do
      let found ← placesIn fixed (neighbours p.1)
      return (⟨found.foldr Nat.add 0, found.length, p.2, p.1⟩ : Movable α) : α × ℕ → Except α (Movable α)) =
        .ok (layer.zipIdx.map (movableAt neighbours fixed)) := by
    refine except_mapM_of_forall fun p hp => ?_
    rw [placesIn_eq (h p.1 (List.fst_mem_of_mem_zipIdx hp))]
    rfl
  unfold reorderLayer
  rw [hplaces]
  rfl

/-- each movable node stands at its place -/
theorem getElem?_of_mem_movables {neighbours : α → List α} {fixed layer : List α} {m : Movable α}
    (hm : m ∈ movables neighbours fixed layer) : layer[m.place]? = some m.node := by
  obtain ⟨p, hp, rfl⟩ := List.mem_map.1 (List.mem_filter.1 hm).1
  exact List.mem_zipIdx_iff_getElem?.1 hp

/-- the places of movable nodes are different -/
theorem movables_place_nodup (neighbours : α → List α) (fixed layer : List α) :
    ((movables neighbours fixed layer).map (·.place)).Nodup := by
  have hindices : (layer.zipIdx.map (movableAt neighbours fixed)).map (·.place) = List.range layer.length := by
    rw [List.map_map, List.range_eq_range']
    exact List.zipIdx_map_snd 0 layer
  exact (hindices ▸ List.nodup_range).sublist (List.filter_sublist.map _)

/-- the movable nodes of a layer are put back into the places that they came from -/
theorem reorderLayer_spec {neighbours : α → List α} {fixed layer : List α} (h : ∀ n ∈ layer, neighbours n ⊆ fixed) :
    ∃ layer', reorderLayer neighbours fixed layer = .ok layer' ∧ layer' ~ layer := by
  refine ⟨_, reorderLayer_eq h, ?_⟩
  let stands := (movables neighbours fixed layer).map fun m => (m.place, m.node)
  have hold : ∀ m ∈ stands, layer[m.1]? = some m.2 := by
    intro m hm
    obtain ⟨m', hm', rfl⟩ := List.mem_map.1 hm
    exact getElem?_of_mem_movables hm'
  have hnodup : (stands.map (·.1)).Nodup := by
    rw [List.map_map]
    exact movables_place_nodup neighbours fixed layer
  have hsorted : ((movables neighbours fixed layer).mergeSort Movable.before).map (·.node) ~ stands.map (·.2) := by
    rw [List.map_map]
    exact (List.mergeSort_perm _ _).map _
  have hfill := fillPlaces_perm hnodup hold (hsorted.length_eq.trans (by simp))
  rw [List.map_map] at hfill
  exact (List.perm_append_right_iff _).1 (hfill.trans (hsorted.append_left layer))

/-- the same layers, each with its nodes in some order -/
def Rearranged (layers' layers : List (List α)) : Prop := List.Forall₂ (· ~ ·) layers' layers

omit [DecidableEq α] in
theorem Rearranged.refl (layers : List (List α)) : Rearranged layers layers :=
  List.forall₂_same.2 fun _ _ => List.Perm.refl _

omit [DecidableEq α] in
theorem Rearranged.trans {ls ls' ls'' : List (List α)} (h : Rearranged ls ls') (h' : Rearranged ls' ls'') :
    Rearranged ls ls'' := by
  induction h generalizing ls'' with
  | nil => exact h'
  | cons hl _ ih =>
    cases h' with
    | cons hl' h' => exact List.Forall₂.cons (hl.trans hl') (ih h')

theorem Joined.rearranged {edges : List (Edge α)} {ls ls' : List (List α)} (h : ls.IsChain (Joined edges))
    (hr : Rearranged ls' ls) : ls'.IsChain (Joined edges) := by
  induction hr with
  | nil => exact List.IsChain.nil
  | cons hupper hrest ih =>
    cases hrest with
    | nil => exact List.isChain_singleton _
    | cons hlower hrest =>
      rw [List.isChain_cons_cons] at h ⊢
      refine ⟨⟨fun n hn v hv => ?_, fun n hn u hu => ?_⟩, ih h.2⟩
      · exact hlower.symm.subset (h.1.1 n (hupper.subset hn) hv)
      · exact hupper.symm.subset (h.1.2 n (hlower.subset hn) hu)

variable {neighbours : α → List α}

/-- a sweep from a layer finds the neighbours of every layer in the one before, whatever their order there -/
theorem sweepFrom_spec {fixed fixed' : List α} {layers : List (List α)} (hfixed : fixed' ~ fixed)
    (h : (fixed :: layers).IsChain fun before layer => ∀ n ∈ layer, neighbours n ⊆ before) :
    ∃ layers', sweepFrom neighbours fixed' layers = .ok layers' ∧ Rearranged layers' layers := by
  induction layers generalizing fixed fixed' with
  | nil => exact ⟨[], rfl, List.Forall₂.nil⟩
  | cons layer layers ih =>
    rw [List.isChain_cons_cons] at h
    obtain ⟨layer', hlayer, hperm⟩ := reorderLayer_spec fun n hn =>
      List.Subset.trans (h.1 n hn) hfixed.symm.subset
    obtain ⟨layers', hlayers, hrest⟩ := ih hperm h.2
    exact ⟨layer' :: layers', by rw [sweepFrom, hlayer]; simp only [bind, Except.bind, hlayers]; rfl,
      List.Forall₂.cons hperm hrest⟩

theorem sweep_spec {layers : List (List α)}
    (h : layers.IsChain fun before layer => ∀ n ∈ layer, neighbours n ⊆ before) :
    ∃ layers', sweep neighbours layers = .ok layers' ∧ Rearranged layers' layers := by
  cases layers with
  | nil => exact ⟨[], rfl, List.Forall₂.nil⟩
  | cons first rest =>
    obtain ⟨rest', hrest, hsame⟩ := sweepFrom_spec (List.Perm.refl first) h
    exact ⟨first :: rest', by rw [sweep, hrest]; rfl, List.Forall₂.cons (List.Perm.refl first) hsame⟩

variable {edges : List (Edge α)}

theorem sweepOnce_spec {layers : List (List α)} (h : layers.IsChain (Joined edges)) (down : Bool) :
    ∃ layers', sweepOnce (predecessors edges) (successors edges) down layers = .ok layers' ∧
      Rearranged layers' layers := by
  cases down with
  | true => exact sweep_spec (h.imp fun _ _ hj => hj.2)
  | false =>
    -- from below, the layer before is the one that edges lead to
    have hup : layers.reverse.IsChain fun before layer => ∀ n ∈ layer, successors edges n ⊆ before :=
      List.isChain_reverse.2 (h.imp fun _ _ hj => hj.1)
    obtain ⟨layers', hswept, hsame⟩ := sweep_spec hup
    refine ⟨layers'.reverse, by simp only [sweepOnce, hswept]; rfl, ?_⟩
    rw [← List.reverse_reverse layers]
    exact List.rel_reverse hsame

/-- the search ends with the layers in some order -/
theorem improve_spec {layers : List (List α)} (h : layers.IsChain (Joined edges)) (sweeps : ℕ) (down : Bool)
    {current best : List (List α)} (hcurrent : Rearranged current layers) (hbest : Rearranged best layers)
    (fewest : ℕ) :
    ∃ layers', improve (predecessors edges) (successors edges) sweeps down current best fewest = .ok layers' ∧
      Rearranged layers' layers := by
  induction sweeps generalizing down current best fewest with
  | zero => exact ⟨best, rfl, hbest⟩
  | succ sweeps ih =>
    rw [improve]
    by_cases hzero : fewest = 0
    · exact ⟨best, by rw [if_pos hzero], hbest⟩
    · obtain ⟨swept, hswept, hsame⟩ := sweepOnce_spec (Joined.rearranged h hcurrent) down
      have hall := hsame.trans hcurrent
      obtain ⟨crossings, hcrossings⟩ := countCrossings_ok (successors edges)
        ((Joined.rearranged h hall).imp fun _ _ hj => hj.1)
      simp only [hzero, hswept, hcrossings, bind, Except.bind, if_false]
      split_ifs
      · exact ih _ hall hall _
      · exact ih _ hall hbest _

/-- **Ordered layers.** Among joined layers the search for fewer crossings misses no neighbour, and gives the layers
back with the nodes of each in some order. -/
theorem orderLayers_spec {layers : List (List α)} (h : layers.IsChain (Joined edges)) :
    ∃ layers', orderLayers edges layers = .ok layers' ∧ Rearranged layers' layers := by
  obtain ⟨fewest, hfewest⟩ := countCrossings_ok (successors edges) (h.imp fun _ _ hj => hj.1)
  obtain ⟨layers', hbest, hsame⟩ := improve_spec h orderingSweeps true (Rearranged.refl layers) (Rearranged.refl layers)
    fewest
  exact ⟨layers', by rw [orderLayers, hfewest]; exact hbest, hsame⟩

end Crowfoot.Layout
