import Crowfoot.Proofs.Layout.Spacing

/-
One row that is placed anew, in exact arithmetic, with nodes of any widths.

- `pushRight_of_spaced`, `pushLeft_of_spaced`: where the desired places keep the distances, neither push moves anything.
- `separated_iff`: what is asked of neighbours one by one is that the row is spaced.
- `placeRow_separates`: a row that is placed keeps its nodes apart, whatever was desired, and fulfils every desire that
  does so itself.
-/

namespace Crowfoot.Layout

open Coordinate

variable {ν ι : Type}

/-! ## Nodes of any widths -/

/-- the least distance between the middles of two neighbours, by what they measure and which of them are bends -/
def separationOf (width : ν → ℚ) (isBend : ν → Bool) (a b : ν) : ℚ :=
  let gap (n : ν) : ℚ := if isBend n then bendGap else tableGap
  (width a + width b) / 2 + (gap a + gap b) / 2

def Node.isBend : Node ι → Bool
  | .table _ => false
  | .bend _ => true

/-- the nodes of a drawing are such nodes -/
theorem Node.separation_eq (a b : Node ι) :
    (Node.separation a b : ℚ) = separationOf (fun n => (n.width : ℚ)) Node.isBend a b := by
  have hgap : ∀ n : Node ι, (n.gap : ℚ) = if n.isBend then (bendGap : ℚ) else tableGap := fun n => by cases n <;> rfl
  simp only [Node.separation, separationOf, half_rat, ofInt_rat, add_rat, Int.cast_add, hgap]

/-! ## Places that are kept -/

variable {separation : ν → ν → ℚ} {nodes : List ν} {desired : List ℚ}

theorem pushRight_of_spaced {a : ν} {x : ℚ} {xs : List ℚ} (hlen : xs.length = nodes.length)
    (h : Spaced separation ((a :: nodes).zip (x :: xs))) :
    pushRight x (distances separation (a :: nodes)) xs = xs := by
  induction nodes generalizing a x xs with
  | nil => rw [List.length_eq_zero_iff.1 hlen]; rfl
  | cons b nodes ih =>
    cases xs with
    | nil => cases hlen
    | cons y ys =>
      obtain ⟨hapart, hrest⟩ := List.isChain_cons_cons.1 h
      have hstays : max y (x + separation a b) = y := max_eq_left hapart
      simp only [distances, pushRight, larger_rat, add_rat, hstays]
      rw [ih (Nat.succ.inj hlen) hrest]

/-- the same from right to left -/
theorem pushLeft_of_spaced {a : ν} {x : ℚ} {xs : List ℚ} (hlen : xs.length = nodes.length)
    (h : ((a :: nodes).zip (x :: xs)).IsChain (flip (Apart separation))) :
    pushLeft x (distances (flip separation) (a :: nodes)) xs = xs := by
  induction nodes generalizing a x xs with
  | nil => rw [List.length_eq_zero_iff.1 hlen]; rfl
  | cons b nodes ih =>
    cases xs with
    | nil => cases hlen
    | cons y ys =>
      obtain ⟨hapart, hrest⟩ := List.isChain_cons_cons.1 h
      have hleft : y ≤ x - separation b a := le_sub_iff_add_le.2 hapart
      have hstays : min y (x - separation b a) = y := min_eq_left hleft
      simp only [distances, pushLeft, smaller_rat, sub_rat, flip, hstays]
      exact congrArg (y :: ·) (ih (Nat.succ.inj hlen) hrest)

theorem pushedRight_of_spaced (hlen : desired.length = nodes.length) (h : Spaced separation (nodes.zip desired)) :
    pushedRight (distances separation nodes) desired = desired := by
  cases nodes with
  | nil => rw [List.length_eq_zero_iff.1 hlen]; rfl
  | cons a nodes =>
    cases desired with
    | nil => cases hlen
    | cons x xs => exact congrArg (x :: ·) (pushRight_of_spaced (Nat.succ.inj hlen) h)

theorem pushedLeft_of_spaced (hlen : desired.length = nodes.length) (h : Spaced separation (nodes.zip desired)) :
    pushedLeft (distances separation nodes) desired = desired := by
  -- the row is read from its other end
  unfold Spaced at h
  rw [← List.isChain_reverse, List.zip_eq_zipWith, List.reverse_zipWith hlen.symm, ← List.zip_eq_zipWith] at h
  have hback : desired.reverse.length = nodes.reverse.length := by simpa using hlen
  unfold pushedLeft
  rw [distances_reverse]
  cases hnodes : nodes.reverse with
  | nil =>
    rw [hnodes] at hback
    rw [List.length_eq_zero_iff.1 hback, List.reverse_eq_nil_iff.1 (List.length_eq_zero_iff.1 hback)]
  | cons a rest =>
    cases hdesired : desired.reverse with
    | nil => rw [List.reverse_eq_nil_iff.1 hdesired]
    | cons x xs =>
      rw [hnodes, hdesired] at h hback
      simp only [pushLeft_of_spaced (Nat.succ.inj hback) h]
      rw [← hdesired, List.reverse_reverse]

/-- a row that keeps its distances stays -/
theorem placeRow_of_spaced (hlen : desired.length = nodes.length) (h : Spaced separation (nodes.zip desired)) :
    placeRow (distances separation nodes) desired = desired := by
  have hmean : ∀ x : ℚ, Coordinate.mean x x = x := by
    intro x
    rw [mean_rat, ← two_mul, mul_div_cancel_left₀ x two_ne_zero]
  rw [placeRow_eq, pushedRight_of_spaced hlen h, pushedLeft_of_spaced hlen h, List.zipWith_self]
  simp only [hmean, List.map_id']

/-! ## Neighbours -/

/-- every two neighbours stand at least their separation apart -/
def Separated (separation : ν → ν → ℚ) (nodes : List ν) (xs : List ℚ) : Prop :=
  ∀ i a b x y, nodes[i]? = some a → nodes[i + 1]? = some b → xs[i]? = some x → xs[i + 1]? = some y →
    separation a b ≤ y - x

theorem separated_iff {xs : List ℚ} : Separated separation nodes xs ↔ Spaced separation (nodes.zip xs) := by
  unfold Spaced Separated
  rw [List.isChain_iff_getElem]
  constructor
  · intro h i hi
    have hlen : i + 1 < nodes.length ∧ i + 1 < xs.length := by simpa using hi
    simp only [Apart, List.getElem_zip]
    have hapart := h i nodes[i] nodes[i + 1] xs[i] xs[i + 1] (by simp) (by simp) (by simp) (by simp)
    linarith
  · intro h i a b x y ha hb hx hy
    obtain ⟨hi, rfl⟩ := List.getElem?_eq_some_iff.1 hb
    obtain ⟨hj, rfl⟩ := List.getElem?_eq_some_iff.1 hy
    obtain ⟨_, rfl⟩ := List.getElem?_eq_some_iff.1 ha
    obtain ⟨_, rfl⟩ := List.getElem?_eq_some_iff.1 hx
    have hapart := h i (by simp only [List.length_zip]; omega)
    simp only [Apart, List.getElem_zip] at hapart
    linarith

/-- **Placing a row.** Every node of a row gets a place, whatever the nodes measure, whichever of them are bends and
whatever places are desired, in any order. Neighbours stand at least their separation apart, and where the desired
places do so already, each node is put exactly where it is desired. The separations in a drawing are such separations. -/
theorem placeRow_separates (width : ν → ℚ) (isBend : ν → Bool) (nodes : List ν) (desired : List ℚ)
    (hlen : desired.length = nodes.length) :
    let separation := separationOf width isBend
    let placed := placeRow (distances separation nodes) desired
    placed.length = nodes.length ∧ Separated separation nodes placed ∧
      (Separated separation nodes desired → placed = desired) ∧
      ∀ a b : Node ι, Node.separation a b = separationOf (fun n => (n.width : ℚ)) Node.isBend a b :=
  ⟨placeRow_length hlen, separated_iff.2 (placeRow_spaced hlen),
    fun h => placeRow_of_spaced hlen (separated_iff.1 h), Node.separation_eq⟩

/-- a table, a bend of a line and a wider table, of which the first is desired furthest to the right -/
theorem placeRow_separates_reversed :
    let separation := separationOf (ν := ℚ × Bool) Prod.fst Prod.snd
    let nodes : List (ℚ × Bool) := [(280, false), (0, true), (340, false)]
    let placed := placeRow (distances separation nodes) [200, 100, 0]
    ([200, 100, 0] : List ℚ).length = nodes.length ∧ placed = [-95, 85, 295] ∧ Separated separation nodes placed ∧
      placeRow (distances separation nodes) placed = placed := by
  intro separation nodes placed
  have hlen : ([200, 100, 0] : List ℚ).length = nodes.length := rfl
  have hplaced : placed = [-95, 85, 295] := by
    norm_num [placed, nodes, separation, placeRow, distances, pushRight, pushLeft, separationOf, bendGap, tableGap,
      ofInt]
  obtain ⟨hsame, hapart, -⟩ := placeRow_separates (ι := String) Prod.fst Prod.snd nodes [200, 100, 0] hlen
  obtain ⟨-, -, hstays, -⟩ := placeRow_separates (ι := String) Prod.fst Prod.snd nodes placed hsame
  exact ⟨hlen, hplaced, hapart, hstays hapart⟩

end Crowfoot.Layout
