import Mathlib
import Crowfoot.Proofs.Layout.Arrangement
import Crowfoot.Proofs.Layout.Placement

/-
The space between tables in a drawing, in exact arithmetic.

- `Spaced.far`: in a spaced row not only neighbours are apart. What a node claims at either side is never negative, so
  that bends between two tables only push them further apart.
- `draw_spec`: where tables are before they are put on the grid. Those of one row are apart, and those of different
  rows are stacked.
- `snapped_apart`: the grid takes less than one line from a distance.
- `Schema.drawing_disjoint`: what is left on the grid suffices, for any schema with different ids of tables.
-/

namespace Crowfoot

namespace Layout

open Coordinate

/-! ## The grid -/

/-- the nearest coordinate on the grid -/
def snapped (x : ℚ) : ℤ := ⌊x / gridSize + 1 / 2⌋ * gridSize

theorem dvd_snapped (x : ℚ) : gridSize ∣ snapped x := Dvd.intro_left _ rfl

/-- what is on the grid stays where it is -/
theorem snapped_of_dvd {n : ℤ} (h : gridSize ∣ n) : snapped n = n := by
  obtain ⟨k, rfl⟩ := h
  have hline : ((gridSize * k : ℤ) : ℚ) / gridSize + 1 / 2 = k + 1 / 2 := by
    push_cast [gridSize]
    ring
  have hfloor : ⌊(k : ℚ) + 1 / 2⌋ = k := by
    rw [Int.floor_intCast_add]
    norm_num
  rw [snapped, hline, hfloor, mul_comm]

theorem snapped_nonneg {x : ℚ} (h : 0 ≤ x) : 0 ≤ snapped x := by
  have hline : 0 ≤ ⌊x / gridSize + 1 / 2⌋ := Int.floor_nonneg.2 (by unfold gridSize; positivity)
  exact mul_nonneg hline (by decide)

theorem snapped_le (x : ℚ) : (snapped x : ℚ) ≤ x + gridSize / 2 := by
  have hfloor := Int.floor_le (x / (gridSize : ℤ) + 1 / 2)
  unfold snapped
  push_cast [gridSize] at hfloor ⊢
  linarith

theorem lt_snapped (x : ℚ) : x - gridSize / 2 < snapped x := by
  have hfloor := Int.lt_floor_add_one (x / (gridSize : ℤ) + 1 / 2)
  unfold snapped
  push_cast [gridSize] at hfloor ⊢
  linarith

/-- the grid takes less than one line from a distance -/
theorem snapped_apart {x y : ℚ} {d : ℤ} (h : x + d ≤ y) : snapped x + d - gridSize < snapped y := by
  have hx := snapped_le x
  have hy := lt_snapped y
  have hlt : (snapped x : ℚ) + d - gridSize < snapped y := by linarith
  exact_mod_cast hlt

/-! ## Nodes of one row -/

variable {ι : Type}

namespace Node

/-- what a node claims at either side of its middle -/
def reach (n : Node ι) : ℚ := ((n.width + n.gap : ℤ) : ℚ) / 2

theorem reach_nonneg (n : Node ι) : 0 ≤ n.reach := by
  cases n <;> norm_num [reach, width, gap, tableWidth, tableGap, bendGap]

theorem separation_rat (a b : Node ι) : (separation a b : ℚ) = a.reach + b.reach := by
  simp only [separation, half_rat, ofInt_rat, add_rat, reach]
  push_cast
  ring

end Node

/-- the claim of one node ends before that of another begins -/
def Clear (p q : Node ι × ℚ) : Prop := p.2 + p.1.reach ≤ q.2 - q.1.reach

theorem Clear.trans {p q r : Node ι × ℚ} (h : Clear p q) (h' : Clear q r) : Clear p r := by
  have := q.1.reach_nonneg
  unfold Clear at *
  linarith

/-- any two nodes of a spaced row are clear of one another -/
theorem Spaced.far {row : List (Node ι × ℚ)} (h : Spaced Node.separation row) {p q : Node ι × ℚ} (hp : p ∈ row)
    (hq : q ∈ row) (hne : p ≠ q) : Clear p q ∨ Clear q p := by
  have hchain : row.IsChain Clear := h.imp fun p q hpq => by
    unfold Apart at hpq
    rw [Node.separation_rat] at hpq
    unfold Clear
    linarith
  have htrans : IsTrans (Node ι × ℚ) Clear := ⟨fun _ _ _ => Clear.trans⟩
  have hsymm : Std.Symm fun p q : Node ι × ℚ => Clear p q ∨ Clear q p := ⟨fun _ _ => Or.symm⟩
  have hall : row.Pairwise fun p q => Clear p q ∨ Clear q p := hchain.pairwise.imp Or.inl
  exact hall.forall hp hq hne

/-! ## The corner of the drawing -/

theorem least_le {xs : List ℚ} {x : ℚ} (h : x ∈ xs) : least xs ≤ x := by
  have hfold : ∀ (xs : List ℚ) (y : ℚ), xs.foldl smaller y ≤ y ∧ ∀ x ∈ xs, xs.foldl smaller y ≤ x := by
    intro xs
    induction xs with
    | nil => simp
    | cons z xs ih =>
      intro y
      obtain ⟨hle, hall⟩ := ih (smaller y z)
      rw [smaller_rat] at hle hall
      rw [List.foldl_cons, smaller_rat]
      refine ⟨hle.trans (min_le_left y z), fun x hx => ?_⟩
      rcases List.mem_cons.1 hx with rfl | hx
      · exact hle.trans (min_le_right y x)
      · exact hall x hx
  cases xs with
  | nil => cases h
  | cons y xs =>
    rcases List.mem_cons.1 h with rfl | h
    · exact (hfold xs x).1
    · exact (hfold xs y).2 x h

variable [DecidableEq ι]

/-- how far a node is from the start of a drawing in one direction, where nodes have some extent; `rows` has the middles
of the nodes -/
def offset (rows : Rows (Node ι) ℚ) (extent : Node ι → ℤ) (n : Node ι) : ℚ :=
  coordinateOf rows n - least (rows.flatten.map fun p => p.2 - (extent p.1 : ℚ) / 2) - (extent n : ℚ) / 2

theorem offset_nonneg {rows : Rows (Node ι) ℚ} (extent : Node ι → ℤ) {n : Node ι}
    (hn : (n, coordinateOf rows n) ∈ rows.flatten) : 0 ≤ offset rows extent n := by
  have hleast := least_le (List.mem_map_of_mem (f := fun p : Node ι × ℚ => p.2 - (extent p.1 : ℚ) / 2) hn)
  unfold offset
  linarith

/-- the height of a node in the drawing of some boxes -/
def heightIn (boxes : List (Box ι)) : Node ι → ℤ
  | .table id => ((boxes.reverse.find? (·.id = id)).map (·.height)).getD 0
  | .bend _ => 0

variable {boxes : List (Box ι)}

theorem heightIn_box (hids : (boxes.map (·.id)).Nodup) {b : Box ι} (hb : b ∈ boxes) :
    heightIn boxes (.table b.id) = b.height := by
  have hrev : (boxes.reverse.map (·.id)).Nodup := by rw [List.map_reverse]; exact List.nodup_reverse.2 hids
  simp only [heightIn, find?_of_nodup hrev (List.mem_reverse.2 hb)]
  rfl

theorem heightIn_nonneg (h : ∀ b ∈ boxes, 0 ≤ b.height) (n : Node ι) : 0 ≤ heightIn boxes n := by
  cases n with
  | bend _ => exact le_refl (0 : ℤ)
  | table id =>
    simp only [heightIn]
    cases hfind : boxes.reverse.find? (·.id = id) with
    | none => exact le_refl (0 : ℤ)
    | some b => exact h b (List.mem_reverse.1 (List.mem_of_find?_eq_some hfind))

/-- in exact arithmetic every corner can be put on the grid -/
theorem cornerOf_rat (xs ys : Rows (Node ι) ℚ) (height : Node ι → ℤ) (left top : ℚ) (n : Node ι) :
    cornerOf xs ys height left top n =
      .ok (snapped (coordinateOf xs n - left - (n.width : ℚ) / 2),
        snapped (coordinateOf ys n - top - (height n : ℚ) / 2)) := rfl

/-- the drawing of some boxes, given their layers -/
theorem draw_eq (hids : (boxes.map (·.id)).Nodup) {links : List (ι × ι)} {layers : List (List (Node ι))}
    {edges : List (Edge (Node ι))} (harrange : arrange (boxes.map (·.id)) links = .ok (layers, edges)) :
    draw ℚ boxes links = .ok (boxes.map fun b => (b.id,
      snapped (offset (horizontal Node.separation edges layers) Node.width (.table b.id)),
      snapped (offset (verticalFrom (heightIn boxes) 0 layers) (heightIn boxes) (.table b.id)))) := by
  unfold draw
  simp only [harrange, except_mapError_ok, except_ok_bind, distinct_eq_self hids, cornerOf_rat]
  rw [List.mapM_pure, List.map_map]
  rfl

/-- tables of one row are apart from left to right -/
theorem offset_apart {xs : Rows (Node ι) ℚ} {layers : List (List (Node ι))} (hsettled : Settled Node.separation xs layers)
    {row : List (Node ι × ℚ)} (hrow : row ∈ xs) {a b : ι} (hne : a ≠ b)
    (ha : (Node.table a, coordinateOf xs (.table a)) ∈ row) (hb : (Node.table b, coordinateOf xs (.table b)) ∈ row) :
    offset xs Node.width (.table a) + (tableWidth + tableGap : ℤ) ≤ offset xs Node.width (.table b) ∨
      offset xs Node.width (.table b) + (tableWidth + tableGap : ℤ) ≤ offset xs Node.width (.table a) := by
  obtain ⟨layer, -, -, hspaced⟩ := forall₂_mem_left hsettled hrow
  have hfar := hspaced.far ha hb fun heq => hne (Node.table.inj (congrArg Prod.fst heq))
  simp only [Clear, Node.reach, Node.width, Node.gap] at hfar
  simp only [offset, Node.width]
  push_cast at hfar ⊢
  rcases hfar with hfar | hfar
  · left
    linarith
  · right
    linarith

/-- a box in a lower row begins below those in a higher one -/
theorem offset_stacked (hids : (boxes.map (·.id)).Nodup) (hheight : ∀ b ∈ boxes, 0 ≤ b.height)
    (layers : List (List (Node ι))) {a b : Box ι} (ha : a ∈ boxes) (hb : b ∈ boxes) {i j : ℕ} (hlt : i < j)
    {row row' : List (Node ι × ℚ)} (hrow : (verticalFrom (heightIn boxes) 0 layers)[i]? = some row)
    (hrow' : (verticalFrom (heightIn boxes) 0 layers)[j]? = some row')
    (hmem : (Node.table a.id, coordinateOf (verticalFrom (heightIn boxes) 0 layers) (.table a.id)) ∈ row)
    (hmem' : (Node.table b.id, coordinateOf (verticalFrom (heightIn boxes) 0 layers) (.table b.id)) ∈ row') :
    offset (verticalFrom (heightIn boxes) 0 layers) (heightIn boxes) (.table a.id) + (a.height + rowGap : ℤ)
      ≤ offset (verticalFrom (heightIn boxes) 0 layers) (heightIn boxes) (.table b.id) := by
  obtain ⟨hi, rfl⟩ := List.getElem?_eq_some_iff.1 hrow
  obtain ⟨hj, rfl⟩ := List.getElem?_eq_some_iff.1 hrow'
  have hstacked := verticalFrom_stacked (heightIn_nonneg hheight) 0 layers
  have hbelow := List.pairwise_iff_getElem.1 hstacked _ _ hi hj hlt _ hmem _ hmem'
  simp only [heightIn_box hids ha, heightIn_box hids hb] at hbelow
  simp only [offset, heightIn_box hids ha, heightIn_box hids hb]
  push_cast at hbelow ⊢
  linarith

/-- **Where tables are.** Of boxes with different ids there is a drawing. Before they are put on the grid, boxes of one
row are apart from left to right, and a box in a lower row begins well below one in a higher row. -/
theorem draw_spec (hids : (boxes.map (·.id)).Nodup) (hheight : ∀ b ∈ boxes, 0 ≤ b.height) (links : List (ι × ι)) :
    ∃ left top : ι → ℚ, draw ℚ boxes links = .ok (boxes.map fun b => (b.id, snapped (left b.id), snapped (top b.id))) ∧
      (∀ b ∈ boxes, 0 ≤ left b.id ∧ 0 ≤ top b.id) ∧
      (∀ b ∈ boxes, ∀ b' ∈ boxes, b.id ≠ b'.id →
        rowOf (boxes.map (·.id)) links b.id = rowOf (boxes.map (·.id)) links b'.id →
        left b.id + (tableWidth + tableGap : ℤ) ≤ left b'.id ∨ left b'.id + (tableWidth + tableGap : ℤ) ≤ left b.id) ∧
      ∀ b ∈ boxes, ∀ b' ∈ boxes, rowOf (boxes.map (·.id)) links b.id < rowOf (boxes.map (·.id)) links b'.id →
        top b.id + (b.height + rowGap : ℤ) ≤ top b'.id := by
  have hsort := sortable_of_nodup hids links
  obtain ⟨layers, harrange, hsame⟩ := arrange_spec hsort
  have hlayering := (filledLayers_layering hsort).rearranged hsame
  let edges := (cutEdges (boxes.map (·.id)) links).edges
  have hsettled := horizontal_settled Node.separation edges layers
  -- every table stands in the row for its layer, from left to right and from top to bottom
  have hplaced : ∀ rows : Rows (Node ι) ℚ, rows.map (·.map (·.1)) = layers → ∀ b ∈ boxes,
      ∃ row, rows[rowOf (boxes.map (·.id)) links b.id]? = some row ∧
        (Node.table b.id, coordinateOf rows (.table b.id)) ∈ row := by
    intro rows hnodes b hb
    obtain ⟨layer, hget, hmem⟩ := hlayering.exists_layer (List.mem_map_of_mem hb)
    exact exists_row hnodes hlayering.nodup hget hmem
  have hx := hplaced _ (settled_nodes hsettled)
  have hy := hplaced _ (verticalFrom_nodes (heightIn boxes) 0 layers)
  refine ⟨fun id => offset (horizontal Node.separation edges layers) Node.width (.table id),
    fun id => offset (verticalFrom (heightIn boxes) 0 layers) (heightIn boxes) (.table id),
    draw_eq hids harrange, fun b hb => ?_, fun b hb b' hb' hne hrow => ?_, fun b hb b' hb' hlt => ?_⟩
  · obtain ⟨row, hrow, hmem⟩ := hx b hb
    obtain ⟨row', hrow', hmem'⟩ := hy b hb
    exact ⟨offset_nonneg _ (List.mem_flatten.2 ⟨row, List.mem_of_getElem? hrow, hmem⟩),
      offset_nonneg _ (List.mem_flatten.2 ⟨row', List.mem_of_getElem? hrow', hmem'⟩)⟩
  · obtain ⟨row, hget, hmem⟩ := hx b hb
    obtain ⟨row', hget', hmem'⟩ := hx b' hb'
    rw [← hrow, hget] at hget'
    cases hget'
    exact offset_apart hsettled (List.mem_of_getElem? hget) hne hmem hmem'
  · obtain ⟨row, hget, hmem⟩ := hy b hb
    obtain ⟨row', hget', hmem'⟩ := hy b' hb'
    exact offset_stacked hids hheight layers hb hb' hlt hget hget' hmem hmem'

end Layout

open Layout

/-- the part of the canvas that a table covers when its corner is put somewhere -/
def Table.region {κ : Type} (t : Table κ) (corner : ℤ × ℤ) : Set (ℚ × ℚ) :=
  Set.Icc ((corner.1 : ℚ), (corner.2 : ℚ)) ((corner.1 + tableWidth : ℤ), (corner.2 + t.height : ℤ))

/-- the row of a table in the drawing of a schema, counted from the top -/
def Schema.rowOf {κ : Type} (s : Schema κ) (tableId : String) : ℕ :=
  Layout.rowOf (s.tables.map (·.id)) s.links tableId

theorem Table.height_pos {κ : Type} (t : Table κ) : 0 < t.height := by
  unfold Table.height heightOf headerHeight columnHeight
  positivity

/-- regions one of which ends before the other begins, in either direction -/
theorem Table.region_disjoint {κ : Type} {t u : Table κ} {p q : ℤ × ℤ}
    (h : p.1 + tableWidth < q.1 ∨ p.2 + t.height < q.2) : Disjoint (t.region p) (u.region q) := by
  refine Set.disjoint_left.2 fun z hz hz' => ?_
  simp only [Table.region, Set.mem_Icc, Prod.le_def] at hz hz'
  rcases h with h | h
  · have hlt : ((p.1 + tableWidth : ℤ) : ℚ) < (q.1 : ℚ) := by exact_mod_cast h
    linarith [hz.2.1, hz'.1.1]
  · have hlt : ((p.2 + t.height : ℤ) : ℚ) < (q.2 : ℚ) := by exact_mod_cast h
    linarith [hz.2.2, hz'.1.2]

/-- where the drawing of a schema puts its tables: on the grid, those of one row apart, and rows below one another -/
theorem Schema.drawing_spec (s : Schema ℚ) (hids : (s.tables.map (·.id)).Nodup) :
    ∃ corner : String → ℤ × ℤ, s.drawing = .ok (s.tables.map fun t => (t.id, corner t.id)) ∧
      (∀ t ∈ s.tables, 0 ≤ (corner t.id).1 ∧ 0 ≤ (corner t.id).2 ∧ gridSize ∣ (corner t.id).1 ∧
        gridSize ∣ (corner t.id).2) ∧
      (∀ t ∈ s.tables, ∀ u ∈ s.tables, t.id ≠ u.id → s.rowOf t.id = s.rowOf u.id →
        (corner t.id).1 + tableWidth < (corner u.id).1 ∨ (corner u.id).1 + tableWidth < (corner t.id).1) ∧
      ∀ t ∈ s.tables, ∀ u ∈ s.tables, s.rowOf t.id < s.rowOf u.id →
        (corner t.id).2 + t.height + (rowGap - gridSize) ≤ (corner u.id).2 := by
  have hboxes : (s.tables.map Table.box).map (·.id) = s.tables.map (·.id) := List.map_map
  have hheight : ∀ b ∈ s.tables.map Table.box, 0 ≤ b.height := by
    intro b hb
    obtain ⟨t, -, rfl⟩ := List.mem_map.1 hb
    exact t.height_pos.le
  obtain ⟨left, top, hdraw, hcorner, hrow, hstacked⟩ := draw_spec (hboxes ▸ hids) hheight s.links
  rw [hboxes] at hrow hstacked
  refine ⟨fun id => (snapped (left id), snapped (top id)), ?_, fun t ht => ?_, fun t ht u hu hne hsame => ?_,
    fun t ht u hu hlt => ?_⟩
  · unfold drawing
    split_ifs with hempty
    · rw [List.isEmpty_iff.1 hempty]
      rfl
    · rw [hdraw, List.map_map]
      rfl
  · obtain ⟨hleft, htop⟩ := hcorner t.box (List.mem_map_of_mem ht)
    exact ⟨snapped_nonneg hleft, snapped_nonneg htop, dvd_snapped _, dvd_snapped _⟩
  · rcases hrow t.box (List.mem_map_of_mem ht) u.box (List.mem_map_of_mem hu) hne hsame with hapart | hapart
    · have hlt := snapped_apart hapart
      left
      simp only [tableGap, gridSize, Table.box] at hlt ⊢
      omega
    · have hlt := snapped_apart hapart
      right
      simp only [tableGap, gridSize, Table.box] at hlt ⊢
      omega
  · have hbelow := snapped_apart (hstacked t.box (List.mem_map_of_mem ht) u.box (List.mem_map_of_mem hu) hlt)
    simp only [Table.box] at hbelow ⊢
    omega

/-- **No tables overlap.** Of any schema with different ids of tables, whatever its relationships join, there is a
drawing. It has one corner for each table, on the grid and on the canvas; no two tables share a point, and a table in
a lower row begins at least 64 below the end of one in a higher row. -/
theorem Schema.drawing_disjoint (s : Schema ℚ) (hids : (s.tables.map (·.id)).Nodup) :
    ∃ corner : String → ℤ × ℤ, s.drawing = .ok (s.tables.map fun t => (t.id, corner t.id)) ∧
      (∀ t ∈ s.tables, 0 ≤ (corner t.id).1 ∧ 0 ≤ (corner t.id).2 ∧ 16 ∣ (corner t.id).1 ∧ 16 ∣ (corner t.id).2) ∧
      (s.tables.Pairwise fun t u => Disjoint (t.region (corner t.id)) (u.region (corner u.id))) ∧
      ∀ t ∈ s.tables, ∀ u ∈ s.tables, s.rowOf t.id < s.rowOf u.id →
        (corner t.id).2 + t.height + 64 ≤ (corner u.id).2 := by
  obtain ⟨corner, hdrawing, hgrid, hrow, hstacked⟩ := s.drawing_spec hids
  refine ⟨corner, hdrawing, hgrid, ?_, hstacked⟩
  have hnodup : s.tables.Pairwise fun t u => t.id ≠ u.id := List.pairwise_map.1 hids
  refine hnodup.imp_of_mem fun {t u} ht hu hne => ?_
  rcases lt_trichotomy (s.rowOf t.id) (s.rowOf u.id) with hlt | hsame | hlt
  · have hbelow := hstacked t ht u hu hlt
    refine Table.region_disjoint (Or.inr ?_)
    simp only [rowGap, gridSize] at hbelow
    omega
  · rcases hrow t ht u hu hne hsame with hleft | hright
    · exact Table.region_disjoint (Or.inl hleft)
    · exact (Table.region_disjoint (Or.inl hright)).symm
  · have hbelow := hstacked u hu t ht hlt
    refine (Table.region_disjoint (Or.inr ?_)).symm
    simp only [rowGap, gridSize] at hbelow
    omega

/-- items that refer to shops and to each other, staff and shops that refer to one another, and a missing end -/
def market : Schema ℚ :=
  ⟨1, [⟨"t_1", "shops", ⟨0, 0⟩, [⟨"c_1", "id", .integer, [.primaryKey]⟩]⟩, ⟨"t_2", "staff", ⟨0, 0⟩, []⟩,
      ⟨"t_3", "items", ⟨0, 0⟩, [⟨"c_3", "id", .integer, [.primaryKey]⟩, ⟨"c_4", "shop", .integer, []⟩]⟩],
    [⟨"r_1", ⟨"t_3", "c_4"⟩, ⟨"t_1", "c_1"⟩, .oneToMany⟩, ⟨"r_2", ⟨"t_3", "c_4"⟩, ⟨"t_3", "c_3"⟩, .oneToOne⟩,
      ⟨"r_3", ⟨"t_2", "c_5"⟩, ⟨"t_1", "c_1"⟩, .oneToMany⟩, ⟨"r_4", ⟨"t_1", "c_1"⟩, ⟨"t_2", "c_5"⟩, .oneToMany⟩,
      ⟨"r_5", ⟨"t_2", "c_5"⟩, ⟨"t_9", "c_9"⟩, .oneToMany⟩]⟩

theorem Schema.drawing_disjoint_market :
    (market.tables.map (·.id)).Nodup ∧ market.rowOf "t_3" < market.rowOf "t_1" ∧
      ∃ corner : String → ℤ × ℤ, market.drawing = .ok (market.tables.map fun t => (t.id, corner t.id)) ∧
        (market.tables.Pairwise fun t u => Disjoint (t.region (corner t.id)) (u.region (corner u.id))) := by
  have hids : (market.tables.map (·.id)).Nodup := by decide
  have hrows : market.rowOf "t_3" < market.rowOf "t_1" := by decide +kernel
  obtain ⟨corner, hdrawing, -, hdisjoint, -⟩ := Schema.drawing_disjoint market hids
  exact ⟨hids, hrows, corner, hdrawing, hdisjoint⟩

end Crowfoot
