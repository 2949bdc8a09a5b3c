import Mathlib.Tactic
import Mathlib.Data.Rat.Floor
import Crowfoot.Proofs.Items
import Crowfoot.Layout.Placement

/-
Where the nodes of a layered drawing are put, in exact arithmetic.

- `Spaced`: neighbours in a row keep their distance. It holds of a packed row (`packed_spaced`), and of a row that is
  placed anew, whatever places are desired (`placeRow_spaced`): pushing right keeps distances, pushing left does, and
  so does the mean of both.
- `Settled`: the rows hold the nodes of the layers in order, and each is spaced. One row after another is placed anew,
  and the others stay as they are, so that every sweep keeps this (`settleRow_settled`, `horizontal_settled`).
- `verticalFrom_top`, `verticalFrom_stacked`: rows lie below one another.
-/

namespace Crowfoot

/-! ## Exact arithmetic -/

namespace Coordinate

@[simp] theorem ofInt_rat (n : ℤ) : (ofInt n : ℚ) = n := rfl

@[simp] theorem add_rat (a b : ℚ) : add a b = a + b := rfl

@[simp] theorem sub_rat (a b : ℚ) : sub a b = a - b := rfl

@[simp] theorem half_rat (a : ℚ) : half a = a / 2 := rfl

@[simp] theorem mean_rat (a b : ℚ) : mean a b = (a + b) / 2 := rfl

@[simp] theorem lt_rat (a b : ℚ) : lt a b = decide (a < b) := rfl

@[simp] theorem larger_rat (a b : ℚ) : larger a b = max a b := by
  rw [larger, lt_rat]
  by_cases h : a < b
  · rw [if_pos (decide_eq_true h), max_eq_right h.le]
  · rw [if_neg (by simpa using h), max_eq_left (not_lt.1 h)]

@[simp] theorem smaller_rat (a b : ℚ) : smaller a b = min a b := by
  rw [smaller, lt_rat]
  by_cases h : b < a
  · rw [if_pos (decide_eq_true h), min_eq_right h.le]
  · rw [if_neg (by simpa using h), min_eq_left (not_lt.1 h)]

theorem compareInt_rat (n : ℤ) (a : ℚ) : compareInt n a = some (compare (n : ℚ) a) := by
  rw [LinearOrder.compare_eq_compareOfLessAndEq]
  rfl

@[simp] theorem intBelow_rat (n : ℤ) (a : ℚ) : intBelow n a = true ↔ (n : ℚ) < a := by
  rw [intBelow, compareInt_rat, beq_iff_eq, Option.some.injEq, compare_lt_iff_lt]

@[simp] theorem intAbove_rat (n : ℤ) (a : ℚ) : intAbove n a = true ↔ a < n := by
  rw [intAbove, compareInt_rat, beq_iff_eq, Option.some.injEq, compare_gt_iff_gt]

end Coordinate

namespace Layout

open Coordinate

variable {ν : Type}

/-! ## Spaced rows -/

/-- one node stands far enough left of another -/
def Apart (separation : ν → ν → ℚ) (p q : ν × ℚ) : Prop := p.2 + separation p.1 q.1 ≤ q.2

/-- neighbours in a row keep their distance -/
def Spaced (separation : ν → ν → ℚ) (row : List (ν × ℚ)) : Prop := row.IsChain (Apart separation)

variable {separation : ν → ν → ℚ}

theorem spaced_singleton (p : ν × ℚ) : Spaced separation [p] := List.isChain_singleton p

/-- a row whose items are pushed to the right keeps the distances -/
theorem pushRight_spaced (a : ν) (nodes : List ν) (x : ℚ) (xs : List ℚ) :
    Spaced separation ((a :: nodes).zip (x :: pushRight x (distances separation (a :: nodes)) xs)) := by
  induction nodes generalizing a x xs with
  | nil => exact spaced_singleton _
  | cons b nodes ih =>
    cases xs with
    | nil => exact spaced_singleton _
    | cons y ys =>
      have hrest := ih b (max y (x + separation a b)) ys
      simp only [distances, pushRight, larger_rat, add_rat]
      refine List.IsChain.cons_cons ?_ hrest
      exact le_max_right _ _

/-- from right to left, a row whose items are pushed to the left keeps them too -/
theorem pushLeft_spaced (a : ν) (nodes : List ν) (x : ℚ) (xs : List ℚ) :
    ((a :: nodes).zip (x :: pushLeft x (distances (flip separation) (a :: nodes)) xs)).IsChain
      (flip (Apart separation)) := by
  induction nodes generalizing a x xs with
  | nil => exact List.isChain_singleton _
  | cons b nodes ih =>
    cases xs with
    | nil => exact List.isChain_singleton _
    | cons y ys =>
      have hrest := ih b (min y (x - separation b a)) ys
      have hleft : min y (x - separation b a) + separation b a ≤ x := by
        have := min_le_right y (x - separation b a)
        linarith
      simp only [distances, pushLeft, smaller_rat, sub_rat]
      exact List.IsChain.cons_cons hleft hrest

/-- the mean of two spaced rows of the same nodes is spaced -/
theorem Spaced.mean {nodes : List ν} {xs ys : List ℚ} (hx : Spaced separation (nodes.zip xs))
    (hy : Spaced separation (nodes.zip ys)) : Spaced separation (nodes.zip (xs.zipWith Coordinate.mean ys)) := by
  unfold Spaced at hx hy ⊢
  rw [List.isChain_iff_getElem] at hx hy ⊢
  intro i hi
  have hlen := hi
  simp only [List.length_zip, List.length_zipWith] at hlen
  have hxi := hx i (by simp only [List.length_zip]; omega)
  have hyi := hy i (by simp only [List.length_zip]; omega)
  simp only [Apart, List.getElem_zip, List.getElem_zipWith, mean_rat] at hxi hyi ⊢
  linarith

/-- a row that is moved as a whole stays spaced -/
theorem Spaced.shift {nodes : List ν} {xs : List ℚ} (h : Spaced separation (nodes.zip xs)) (d : ℚ) :
    Spaced separation (nodes.zip (xs.map fun x => sub x d)) := by
  unfold Spaced at h ⊢
  rw [List.isChain_iff_getElem] at h ⊢
  intro i hi
  have hi' := h i (by simpa using hi)
  simp only [Apart, List.getElem_zip, List.getElem_map, sub_rat] at hi' ⊢
  linarith

/-! ## Placing a row -/

theorem distances_length (separation : ν → ν → ℚ) (nodes : List ν) :
    (distances separation nodes).length = nodes.length - 1 := by
  induction nodes with
  | nil => rfl
  | cons a nodes ih =>
    cases nodes with
    | nil => rfl
    | cons b rest => simpa [distances] using ih

theorem distances_concat (separation : ν → ν → ℚ) (nodes : List ν) (a b : ν) :
    distances separation (nodes ++ [a, b]) = distances separation (nodes ++ [a]) ++ [separation a b] := by
  induction nodes with
  | nil => rfl
  | cons c nodes ih =>
    cases nodes with
    | nil => rfl
    | cons d rest => simpa [distances] using ih

/-- seen from the other end, the distances are those of the nodes in reverse -/
theorem distances_reverse (separation : ν → ν → ℚ) (nodes : List ν) :
    (distances separation nodes).reverse = distances (flip separation) nodes.reverse := by
  induction nodes with
  | nil => rfl
  | cons a nodes ih =>
    cases nodes with
    | nil => rfl
    | cons b rest =>
      have hends : (a :: b :: rest).reverse = rest.reverse ++ [b, a] := by simp
      rw [distances, List.reverse_cons, ih, hends, distances_concat, List.reverse_cons]
      rfl

theorem pushRight_length (last : ℚ) (gaps xs : List ℚ) :
    (pushRight last gaps xs).length = min gaps.length xs.length := by
  induction gaps generalizing last xs with
  | nil => cases xs <;> rfl
  | cons gap gaps ih =>
    cases xs with
    | nil => rfl
    | cons x xs => simp [pushRight, ih]

theorem pushLeft_length (last : ℚ) (gaps xs : List ℚ) :
    (pushLeft last gaps xs).length = min gaps.length xs.length := by
  induction gaps generalizing last xs with
  | nil => cases xs <;> rfl
  | cons gap gaps ih =>
    cases xs with
    | nil => rfl
    | cons x xs => simp [pushLeft, ih]

/-- the items of a row, pushed to the right only -/
def pushedRight (gaps desired : List ℚ) : List ℚ :=
  match desired with
  | [] => []
  | x :: xs => x :: pushRight x gaps xs

/-- the items of a row, pushed to the left only -/
def pushedLeft (gaps desired : List ℚ) : List ℚ :=
  match desired.reverse with
  | [] => []
  | x :: xs => (x :: pushLeft x gaps.reverse xs).reverse

theorem placeRow_eq (gaps desired : List ℚ) :
    placeRow gaps desired = (pushedRight gaps desired).zipWith mean (pushedLeft gaps desired) := by
  unfold placeRow pushedRight pushedLeft
  cases desired with
  | nil => rfl
  | cons x xs => cases hends : (x :: xs).reverse <;> rfl

variable {nodes : List ν} {desired : List ℚ}

theorem pushedRight_length (h : desired.length = nodes.length) :
    (pushedRight (distances separation nodes) desired).length = nodes.length := by
  cases desired with
  | nil => exact h
  | cons x xs =>
    rw [List.length_cons] at h
    simp only [pushedRight, List.length_cons, pushRight_length, distances_length]
    omega

theorem pushedLeft_length (h : desired.length = nodes.length) :
    (pushedLeft (distances separation nodes) desired).length = nodes.length := by
  unfold pushedLeft
  split
  · rename_i hnil
    rw [← h, List.reverse_eq_nil_iff.1 hnil]
  · rename_i x xs hcons
    have hlen := congrArg List.length hcons
    rw [List.length_reverse, List.length_cons] at hlen
    rw [List.length_reverse, List.length_cons, pushLeft_length, List.length_reverse, distances_length]
    omega

theorem pushedRight_spaced (h : desired.length = nodes.length) :
    Spaced separation (nodes.zip (pushedRight (distances separation nodes) desired)) := by
  cases nodes with
  | nil => exact List.IsChain.nil
  | cons a nodes =>
    cases desired with
    | nil => cases h
    | cons x xs => exact pushRight_spaced a nodes x xs

theorem pushedLeft_spaced (h : desired.length = nodes.length) :
    Spaced separation (nodes.zip (pushedLeft (distances separation nodes) desired)) := by
  have hlen : (pushedLeft (distances separation nodes) desired).length = nodes.length := pushedLeft_length h
  -- the row is read from its other end
  unfold Spaced
  rw [← List.isChain_reverse, List.zip_eq_zipWith, List.reverse_zipWith hlen.symm, ← List.zip_eq_zipWith]
  unfold pushedLeft
  rw [distances_reverse]
  cases hnodes : nodes.reverse with
  | nil => exact List.IsChain.nil
  | cons a rest =>
    split
    · exact List.IsChain.nil
    · rw [List.reverse_reverse]
      exact pushLeft_spaced a rest _ _

/-- **Placing a row.** Whatever places are desired, neighbours keep their distance. -/
theorem placeRow_spaced (h : desired.length = nodes.length) :
    Spaced separation (nodes.zip (placeRow (distances separation nodes) desired)) := by
  rw [placeRow_eq]
  exact (pushedRight_spaced h).mean (pushedLeft_spaced h)

theorem placeRow_length (h : desired.length = nodes.length) :
    (placeRow (distances separation nodes) desired).length = nodes.length := by
  rw [placeRow_eq, List.length_zipWith, pushedRight_length h, pushedLeft_length h, min_self]

/-! ## Packing a row -/

theorem packedFrom_length (last : ν) (x : ℚ) (nodes : List ν) :
    (packedFrom separation last x nodes).length = nodes.length := by
  induction nodes generalizing last x with
  | nil => rfl
  | cons n nodes ih => simp [packedFrom, ih]

theorem packedFrom_spaced (last : ν) (x : ℚ) (nodes : List ν) :
    Spaced separation ((last :: nodes).zip (x :: packedFrom separation last x nodes)) := by
  induction nodes generalizing last x with
  | nil => exact spaced_singleton _
  | cons n nodes ih => exact List.IsChain.cons_cons le_rfl (ih n _)

theorem packed_spaced (separation : ν → ν → ℚ) (nodes : List ν) : Spaced separation (packed separation nodes) := by
  cases nodes with
  | nil => exact List.IsChain.nil
  | cons n nodes => exact (packedFrom_spaced n (ofInt 0) nodes).shift _

theorem packed_nodes (separation : ν → ν → ℚ) (nodes : List ν) : (packed separation nodes).map (·.1) = nodes := by
  cases nodes with
  | nil => rfl
  | cons n nodes =>
    refine List.map_fst_zip ?_
    simp [packedFrom_length]

/-! ## Stacked rows -/

theorem verticalFrom_nodes {κ : Type} [Coordinate κ] (height : ν → ℤ) (top : κ) (layers : List (List ν)) :
    (verticalFrom height top layers).map (·.map (·.1)) = layers := by
  induction layers generalizing top with
  | nil => rfl
  | cons layer layers ih =>
    rw [verticalFrom, List.map_cons, ih, List.map_map]
    congr 1
    exact List.map_id layer

/-- the height of a row is that of its highest node -/
def rowHeight (height : ν → ℤ) (layer : List ν) : ℤ := (layer.map height).max?.getD 0

theorem le_rowHeight (height : ν → ℤ) {layer : List ν} {n : ν} (hn : n ∈ layer) : height n ≤ rowHeight height layer :=
  le_max?_getD (List.mem_map_of_mem hn) 0

theorem rowHeight_nonneg {height : ν → ℤ} (h : ∀ n, 0 ≤ height n) (layer : List ν) : 0 ≤ rowHeight height layer := by
  cases layer with
  | nil => exact le_rfl
  | cons n layer => exact (h n).trans (le_rowHeight height List.mem_cons_self)

variable {height : ν → ℤ}

/-- no node of stacked rows begins above them -/
theorem verticalFrom_top (h : ∀ n, 0 ≤ height n) (top : ℚ) (layers : List (List ν)) :
    ∀ row ∈ verticalFrom height top layers, ∀ p ∈ row, top ≤ p.2 - (height p.1 : ℚ) / 2 := by
  induction layers generalizing top with
  | nil => simp [verticalFrom]
  | cons layer layers ih =>
    intro row hrow p hp
    rcases List.mem_cons.1 hrow with rfl | hrow
    · obtain ⟨n, hn, rfl⟩ := List.mem_map.1 hp
      have hle : (height n : ℚ) ≤ rowHeight height layer := by exact_mod_cast le_rowHeight height hn
      show top ≤ top + (rowHeight height layer : ℚ) / 2 - (height n : ℚ) / 2
      linarith
    · have hbelow := ih (top + ((rowHeight height layer + rowGap : ℤ) : ℚ)) row hrow p hp
      have hnonneg : (0 : ℚ) ≤ rowHeight height layer := by exact_mod_cast rowHeight_nonneg h layer
      push_cast [rowGap] at hbelow
      linarith

/-- **Stacked rows.** Every node of a row ends well above every node of the rows after it. -/
theorem verticalFrom_stacked (h : ∀ n, 0 ≤ height n) (top : ℚ) (layers : List (List ν)) :
    (verticalFrom height top layers).Pairwise fun upper lower => ∀ p ∈ upper, ∀ q ∈ lower,
      p.2 + (height p.1 : ℚ) / 2 + rowGap ≤ q.2 - (height q.1 : ℚ) / 2 := by
  induction layers generalizing top with
  | nil => exact List.Pairwise.nil
  | cons layer layers ih =>
    refine List.pairwise_cons.2 ⟨fun lower hlower p hp q hq => ?_, ih _⟩
    obtain ⟨n, hn, rfl⟩ := List.mem_map.1 hp
    have hle : (height n : ℚ) ≤ rowHeight height layer := by exact_mod_cast le_rowHeight height hn
    have hbelow := verticalFrom_top h _ layers lower hlower q hq
    change top + ((rowHeight height layer + rowGap : ℤ) : ℚ) ≤ _ at hbelow
    show top + (rowHeight height layer : ℚ) / 2 + (height n : ℚ) / 2 + (rowGap : ℚ) ≤ _
    push_cast at hbelow
    linarith

/-! ## Sweeps -/

/-- rows that hold the nodes of layers in order, each with its neighbours apart -/
def Settled (separation : ν → ν → ℚ) (rows : Rows ν ℚ) (layers : List (List ν)) : Prop :=
  List.Forall₂ (fun row layer => row.map (·.1) = layer ∧ Spaced separation row) rows layers

variable {rows : Rows ν ℚ} {layers : List (List ν)}

theorem settled_nodes (h : Settled separation rows layers) : rows.map (·.map (·.1)) = layers := by
  induction h with
  | nil => rfl
  | cons hrow _ ih => rw [List.map_cons, hrow.1, ih]

variable [DecidableEq ν]

/-- one row is placed anew, and the others stay -/
theorem settleRow_settled (h : Settled separation rows layers) (neighbours : ν → List ν) (r : ℕ) :
    Settled separation (settleRow separation neighbours rows r) layers := by
  refine forall₂_of_getElem? (by simpa [settleRow] using h.length_eq) fun i row layer hrow hlayer => ?_
  obtain ⟨old, hold, hnodes, hspaced⟩ := forall₂_getElem?_right h hlayer
  unfold settleRow at hrow
  by_cases hi : r = i
  · rw [hi, List.getElem?_set_self (List.getElem?_eq_some_iff.1 hold).1, hold, Option.getD_some] at hrow
    cases hrow
    have hlen : ∀ desired : List ℚ, desired.length = old.length → desired.length = (old.map (·.1)).length := by
      simp
    refine ⟨?_, placeRow_spaced (hlen _ (List.length_map _))⟩
    rw [List.map_fst_zip (placeRow_length (hlen _ (List.length_map _))).ge, hnodes]
  · rw [List.getElem?_set_ne hi, hold] at hrow
    cases hrow
    exact ⟨hnodes, hspaced⟩

theorem settleRows_settled (h : Settled separation rows layers) (above below : ν → List ν) (down : Bool) :
    Settled separation (settleRows separation above below down rows) layers := by
  have hfold : ∀ (neighbours : ν → List ν) (places : List ℕ) (rows : Rows ν ℚ), Settled separation rows layers →
      Settled separation (places.foldl (settleRow separation neighbours) rows) layers := by
    intro neighbours places
    induction places with
    | nil => exact fun _ h => h
    | cons r places ih => exact fun rows h => ih _ (settleRow_settled h neighbours r)
  unfold settleRows
  split_ifs
  · exact hfold above _ rows h
  · exact hfold below _ rows h

theorem settled_settled (h : Settled separation rows layers) (above below : ν → List ν) :
    Settled separation (settled separation above below rows) layers := by
  unfold settled
  induction List.range placementSweeps generalizing rows with
  | nil => exact h
  | cons i sweeps ih => exact ih (settleRows_settled h above below _)

/-- **Rows after all sweeps.** Each holds the nodes of its layer in order, and neighbours keep their distance. -/
theorem horizontal_settled (separation : ν → ν → ℚ) (edges : List (Edge ν)) (layers : List (List ν)) :
    Settled separation (horizontal separation edges layers) layers := by
  refine settled_settled ?_ _ _
  refine List.forall₂_map_left_iff.2 (List.forall₂_same.2 fun layer _ => ?_)
  exact ⟨packed_nodes separation layer, packed_spaced separation layer⟩

/-! ## Looking nodes up -/

theorem findSome?_lookup {κ : Type} (rows : Rows ν κ) (n : ν) :
    rows.findSome? (·.lookup n) = rows.flatten.lookup n := by
  induction rows with
  | nil => rfl
  | cons row rows ih =>
    rw [List.findSome?_cons, List.flatten_cons, List.lookup_append, ih]
    cases row.lookup n <;> rfl

theorem coordinateOf_eq {κ : Type} [Coordinate κ] {rows : Rows ν κ} (h : (rows.flatten.map (·.1)).Nodup) {n : ν} {x : κ}
    (hn : (n, x) ∈ rows.flatten) : coordinateOf rows n = x := by
  rw [coordinateOf, findSome?_lookup, lookup_of_mem h hn]
  rfl

/-- a node of a layer stands in the row for that layer, and is found there -/
theorem exists_row {κ : Type} [Coordinate κ] {rows : Rows ν κ} (hnodes : rows.map (·.map (·.1)) = layers)
    (hnodup : layers.flatten.Nodup) {r : ℕ} {layer : List ν} (hlayer : layers[r]? = some layer) {n : ν}
    (hn : n ∈ layer) : ∃ row, rows[r]? = some row ∧ (n, coordinateOf rows n) ∈ row := by
  rw [← hnodes, List.getElem?_map] at hlayer
  obtain ⟨row, hrow, rfl⟩ := Option.map_eq_some_iff.1 hlayer
  obtain ⟨⟨m, x⟩, hx, rfl⟩ := List.mem_map.1 hn
  have hall : (rows.flatten.map (·.1)).Nodup := by
    rw [List.map_flatten, hnodes]
    exact hnodup
  have hfound : coordinateOf rows m = x :=
    coordinateOf_eq hall (List.mem_flatten.2 ⟨row, List.mem_of_getElem? hrow, hx⟩)
  exact ⟨row, hrow, hfound ▸ hx⟩

end Layout

end Crowfoot
