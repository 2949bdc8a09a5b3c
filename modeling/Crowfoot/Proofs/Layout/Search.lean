import Crowfoot.Proofs.Layout.Vacancy

/-
The search for a free place, in exact arithmetic. The cells around a centre are looked at ring by ring, and each ring
from left to right and from top to bottom.

- `cells_sorted`, `mem_cells`: the search comes to every cell of its rings, to each once and in this order. `find?_cells`:
  so it finds one on the innermost ring that has any, and the first of these.
- `candidate`: the corner that a cell stands for, on the grid.
- `Schema.isFree_iff`: the test for a free place sees whether a table with one column would overlap another.
- `Schema.openPosition_soonest`: the place that is found.
-/

namespace Crowfoot

namespace Layout

/-! ## The cells in the order of the search -/

/-- the ring on which a cell lies -/
def ringOf (cell : ℤ × ℤ) : ℕ := max cell.1.natAbs cell.2.natAbs

/-- the distances on one axis up to a ring -/
def side (r : ℕ) : List ℤ := (List.range (2 * r + 1)).map fun i : ℕ => (i : ℤ) - r

theorem ring_eq (r : ℕ) : ring r =
    (side r).flatMap fun dx => ((side r).filter fun dy => dx.natAbs = r || dy.natAbs = r).map fun dy => (dx, dy) := rfl

theorem mem_side {r : ℕ} {d : ℤ} : d ∈ side r ↔ d.natAbs ≤ r := by
  simp only [side, List.mem_map, List.mem_range]
  constructor
  · rintro ⟨i, hi, rfl⟩
    omega
  · intro hd
    exact ⟨(d + r).toNat, by omega, by omega⟩

theorem side_sorted (r : ℕ) : (side r).Pairwise (· < ·) :=
  List.pairwise_map.2 (List.pairwise_lt_range.imp fun h => by omega)

theorem mem_ring {r : ℕ} {cell : ℤ × ℤ} : cell ∈ ring r ↔ ringOf cell = r := by
  obtain ⟨dx, dy⟩ := cell
  simp only [ring_eq, List.mem_flatMap, List.mem_map, List.mem_filter, mem_side, Bool.or_eq_true, decide_eq_true_eq,
    Prod.mk.injEq, ringOf]
  constructor
  · rintro ⟨_, hx, _, ⟨hy, hedge⟩, rfl, rfl⟩
    omega
  · intro hring
    exact ⟨dx, by omega, dy, ⟨by omega, by omega⟩, rfl, rfl⟩

theorem ring_sorted (r : ℕ) : (ring r).Pairwise fun a b => toLex a < toLex b := by
  rw [ring_eq, List.pairwise_flatMap]
  constructor
  · intro dx _
    refine List.pairwise_map.2 (((side_sorted r).filter _).imp ?_)
    intro dy dy' hlt
    exact Prod.Lex.toLex_lt_toLex.2 (Or.inr ⟨rfl, hlt⟩)
  · refine (side_sorted r).imp fun hlt a ha b hb => Prod.Lex.toLex_lt_toLex.2 (Or.inl ?_)
    obtain ⟨_, -, rfl⟩ := List.mem_map.1 ha
    obtain ⟨_, -, rfl⟩ := List.mem_map.1 hb
    exact hlt

/-- the cells that are looked at, the centre first -/
def cells : List (ℤ × ℤ) := (0, 0) :: spiral

theorem cells_eq : cells = (List.range (slotRings + 1)).flatMap ring := by
  rw [List.range_succ_eq_map, List.flatMap_cons, List.flatMap_map]
  rfl

theorem mem_cells {cell : ℤ × ℤ} : cell ∈ cells ↔ ringOf cell ≤ 20 := by
  simp only [cells_eq, List.mem_flatMap, List.mem_range, mem_ring, exists_eq_right', slotRings]
  omega

/-- an inner ring comes before an outer one, and on one ring what is left or, in one column, above -/
theorem cells_sorted :
    cells.Pairwise fun a b => ringOf a < ringOf b ∨ ringOf a = ringOf b ∧ toLex a < toLex b := by
  rw [cells_eq, List.pairwise_flatMap]
  constructor
  · intro r _
    refine (ring_sorted r).imp_of_mem fun ha hb hlt => Or.inr ⟨?_, hlt⟩
    rw [mem_ring.1 ha, mem_ring.1 hb]
  · refine List.pairwise_lt_range.imp fun hlt a ha b hb => Or.inl ?_
    rwa [mem_ring.1 ha, mem_ring.1 hb]

/-- the cell that is found is on the innermost ring with one that satisfies the test, and is the first of these there -/
theorem find?_cells {p : ℤ × ℤ → Bool} {cell : ℤ × ℤ} (h : cells.find? p = some cell) :
    ringOf cell ≤ 20 ∧ p cell = true ∧ (∀ other, ringOf other < ringOf cell → p other = false) ∧
      ∀ other, ringOf other = ringOf cell → p other = true → toLex cell ≤ toLex other := by
  have hring : ringOf cell ≤ 20 := mem_cells.1 (List.mem_of_find?_eq_some h)
  have hfirst : ∀ other, ringOf other ≤ ringOf cell → p other = true →
      other = cell ∨ ringOf cell < ringOf other ∨ ringOf cell = ringOf other ∧ toLex cell < toLex other := by
    intro other hother hp
    exact find?_before cells_sorted h (mem_cells.2 (hother.trans hring)) hp
  refine ⟨hring, List.find?_some h, ?_, ?_⟩
  · intro other hlt
    by_contra hp
    rcases hfirst other hlt.le (Bool.not_eq_false _ ▸ hp) with rfl | hout | ⟨hsame, -⟩
    · exact lt_irrefl _ hlt
    · exact lt_asymm hlt hout
    · exact hlt.ne hsame.symm
  · intro other hsame hp
    rcases hfirst other hsame.le hp with rfl | hout | ⟨-, hlex⟩
    · exact le_rfl
    · exact absurd hsame hout.ne'
    · exact hlex.le

/-! ## The places of cells -/

/-- the place of a cell around a centre -/
def candidate (centre : Position ℚ) (cell : ℤ × ℤ) : ℤ × ℤ :=
  (snapped (snapped centre.x + 300 * cell.1 : ℤ), snapped (snapped centre.y + 250 * cell.2 : ℤ))

/-- the centre itself is put on the grid once -/
theorem candidate_centre (centre : Position ℚ) : candidate centre (0, 0) = (snapped centre.x, snapped centre.y) := by
  simp [candidate, snapped_of_dvd (dvd_snapped _)]

theorem cellCorner_rat (centre : Position ℚ) (cell : ℤ × ℤ) :
    cellCorner ℚ (snapped centre.x) (snapped centre.y) cell = candidate centre cell := by
  rw [candidate, mul_comm 300, mul_comm 250]
  rfl

/-- the first free place of a cell is taken, or else a fixed one -/
theorem openSlot_rat (areas : List (Area ℚ)) (centre : Position ℚ) :
    openSlot areas centre = .ok (((cells.find? fun cell => isFree areas (candidate centre cell)).map
      (candidate centre)).getD
        (snapped (snapped centre.x + 400 : ℤ), snapped (snapped centre.y + 400 : ℤ))) := by
  have hplaces : (snapped centre.x, snapped centre.y) ::
      spiral.map (cellCorner ℚ (snapped centre.x) (snapped centre.y)) = cells.map (candidate centre) := by
    rw [cells, List.map_cons, candidate_centre, List.map_congr_left fun cell _ => cellCorner_rat centre cell]
  have hcentre : ∀ x : ℚ, snap x = .ok (snapped x) := fun _ => rfl
  rw [openSlot_eq (hcentre centre.x) (hcentre centre.y), hplaces, List.find?_map]
  rfl

end Layout

open Layout

/-! ## Overlaps -/

/-- the inner points of the rectangle of a table -/
def Table.ground (t : Table ℚ) : Set (ℚ × ℚ) :=
  Set.Ioo t.position.x (t.position.x + 280) ×ˢ Set.Ioo t.position.y (t.position.y + t.height)

theorem Table.covers_rat (t : Table ℚ) (p : ℤ × ℤ) :
    t.area.covers p.1 p.2 = true ↔ ¬ Disjoint (Layout.interior p 70) t.ground := by
  have hheight : (0 : ℚ) < t.height := Int.cast_pos.2 t.height_pos
  unfold Table.area Area.covers Layout.interior Table.ground
  rw [Set.disjoint_prod, not_or, Ioo_meet_iff (by norm_num [tableWidth]) (by linarith),
    Ioo_meet_iff (by norm_num) (by linarith)]
  simp only [Bool.and_eq_true, Coordinate.intBelow_rat, Coordinate.intAbove_rat, Coordinate.add_rat, Coordinate.ofInt_rat,
    and_assoc]
  rfl

namespace Schema

/-- a table with one column at a place would share inner points with no table of a schema -/
def Vacant (s : Schema ℚ) (p : ℤ × ℤ) : Prop := ∀ t ∈ s.tables, Disjoint (interior p 70) t.ground

theorem isFree_iff (s : Schema ℚ) (p : ℤ × ℤ) : isFree (s.tables.map Table.area) p = true ↔ s.Vacant p := by
  simp only [isFree, Bool.not_eq_true', List.any_eq_false, List.forall_mem_map, Table.covers_rat, not_not, Vacant]

/-- **The soonest free place.** Wherever tables and the centre are, a place on the grid is returned. If a table with one
column has room at the place of any cell up to 20 steps away in either direction, then the place of such a cell is
returned: there is no room on any ring further in, and of the cells of its ring with room it is the first from the left
and, in its column, from the top. If there is no room at any of them, the place is 400 away in both directions. -/
theorem openPosition_soonest (s : Schema ℚ) (centre : Position ℚ) :
    ∃ p : ℤ × ℤ, s.openPosition centre = .ok ⟨p.1, p.2⟩ ∧ 16 ∣ p.1 ∧ 16 ∣ p.2 ∧
      ((∃ cell, ringOf cell ≤ 20 ∧ s.Vacant (candidate centre cell)) →
        ∃ cell, ringOf cell ≤ 20 ∧ p = candidate centre cell ∧ s.Vacant p ∧
          (∀ other, ringOf other < ringOf cell → ¬ s.Vacant (candidate centre other)) ∧
          ∀ other, ringOf other = ringOf cell → s.Vacant (candidate centre other) → toLex cell ≤ toLex other) ∧
      ((∀ cell, ringOf cell ≤ 20 → ¬ s.Vacant (candidate centre cell)) →
        p = (snapped (snapped centre.x + 400 : ℤ), snapped (snapped centre.y + 400 : ℤ))) := by
  have hslot := openSlot_rat (s.tables.map Table.area) centre
  cases hfound : cells.find? fun cell => isFree (s.tables.map Table.area) (candidate centre cell) with
  | none =>
    have hnone : ∀ cell, ringOf cell ≤ 20 → ¬ s.Vacant (candidate centre cell) := fun cell hring hvacant =>
      List.find?_eq_none.1 hfound cell (mem_cells.2 hring) ((s.isFree_iff _).2 hvacant)
    rw [hfound] at hslot
    refine ⟨_, by rw [openPosition, hslot]; rfl, dvd_snapped _, dvd_snapped _, ?_, fun _ => rfl⟩
    rintro ⟨cell, hring, hvacant⟩
    exact absurd hvacant (hnone cell hring)
  | some cell =>
    obtain ⟨hring, hfree, hinner, hfirst⟩ := find?_cells hfound
    have hvacant : s.Vacant (candidate centre cell) := (s.isFree_iff _).1 hfree
    rw [hfound] at hslot
    refine ⟨candidate centre cell, by rw [openPosition, hslot]; rfl, dvd_snapped _, dvd_snapped _, fun _ => ?_,
      fun hnone => absurd hvacant (hnone cell hring)⟩
    refine ⟨cell, hring, rfl, hvacant, ?_, ?_⟩
    · intro other hlt hother
      exact Bool.false_ne_true ((hinner other hlt).symm.trans ((s.isFree_iff _).2 hother))
    · intro other hsame hother
      exact hfirst other hsame ((s.isFree_iff _).2 hother)

/-- one table in the middle and one in the way of the first cell -/
def kiosks : Schema ℚ := ⟨1, [⟨"t_1", "kiosks", ⟨0, 0⟩, []⟩, ⟨"t_2", "papers", ⟨-300, -401 / 2⟩, []⟩], []⟩

theorem openPosition_soonest_kiosks :
    kiosks.openPosition ⟨10, -5⟩ = .ok ⟨-288, 0⟩ ∧ ¬ kiosks.Vacant (candidate ⟨10, -5⟩ (-1, -1)) ∧
      ∃ cell, candidate ⟨10, -5⟩ cell = (-288, 0) ∧ kiosks.Vacant (-288, 0) ∧
        ∀ other, ringOf other < ringOf cell → ¬ kiosks.Vacant (candidate ⟨10, -5⟩ other) := by
  have hcorner : candidate ⟨10, -5⟩ (-1, 0) = (-288, 0) := by decide +kernel
  have hfree : kiosks.Vacant (candidate ⟨10, -5⟩ (-1, 0)) := (kiosks.isFree_iff _).1 (by decide +kernel)
  have hblocked : ¬ kiosks.Vacant (candidate ⟨10, -5⟩ (-1, -1)) := (kiosks.isFree_iff _).not.1 (by decide +kernel)
  have hplace : kiosks.openPosition ⟨10, -5⟩ = .ok ⟨-288, 0⟩ := by decide +kernel
  obtain ⟨p, hp, -, -, hsome, -⟩ := openPosition_soonest kiosks ⟨10, -5⟩
  obtain ⟨cell, -, rfl, hvacant, hinner, -⟩ := hsome ⟨(-1, 0), by decide, hfree⟩
  rw [hplace, Except.ok.injEq, Position.mk.injEq] at hp
  have hcell : candidate ⟨10, -5⟩ cell = (-288, 0) := Prod.ext (by exact_mod_cast hp.1.symm) (by exact_mod_cast hp.2.symm)
  exact ⟨hplace, hblocked, cell, hcell, hcell ▸ hvacant, hinner⟩

end Schema

end Crowfoot
