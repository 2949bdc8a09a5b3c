import Crowfoot.Action.Apply
import Crowfoot.Proofs.Decimal.Whole
import Crowfoot.Proofs.Layout.Spacing
import Crowfoot.Proofs.Schema.Junction

/-
The place of a new table. A free cell is one where a table with one column would cover nothing, but a new table has
three columns. So what it covers begins in the part of it that was not looked at.

- `freeCell?`: the search for a free cell, without the place that is taken when there is none.
- `Table.At`: a table at integer coordinates, small enough that its edges are exact. The test for a free cell is then
  that rectangles have no inner point in common (`Table.At.covers_iff`).
- `apply_createTable`: the table that is put into a free cell.
- `Action.createTable_covers_iff`: which tables it covers.
-/

namespace Crowfoot

open Decimal

namespace Layout

/-! ## Free cells -/

section

variable {κ : Type} [Coordinate κ]

/-- the first free cell around a centre, the centre first; there may be none within the search -/
def freeCell? (areas : List (Area κ)) (centre : Position κ) : Except NotFinite (Option (ℤ × ℤ)) := do
  let cx ← snap centre.x
  let cy ← snap centre.y
  return ((cx, cy) :: spiral.map (cellCorner κ cx cy)).find? (isFree areas)

/-- the place of a new table is the free cell that is found, or else the fallback -/
theorem openSlot_eq {areas : List (Area κ)} {centre : Position κ} {cx cy : ℤ} (hcx : snap centre.x = .ok cx)
    (hcy : snap centre.y = .ok cy) :
    openSlot areas centre = .ok ((((cx, cy) :: spiral.map (cellCorner κ cx cy)).find? (isFree areas)).getD
      (snapInt κ (cx + slotFallback), snapInt κ (cy + slotFallback))) := by
  unfold openSlot
  rw [hcx, hcy, except_ok_bind, except_ok_bind]
  by_cases hcentre : isFree areas (cx, cy) = true
  · rw [if_pos hcentre, List.find?_cons_of_pos hcentre]
    rfl
  · rw [if_neg hcentre, List.find?_cons_of_neg hcentre]
    cases (spiral.map (cellCorner κ cx cy)).find? (isFree areas) <;> rfl

theorem openSlot_of_freeCell? {areas : List (Area κ)} {centre : Position κ} {p : ℤ × ℤ}
    (h : freeCell? areas centre = .ok (some p)) : openSlot areas centre = .ok p ∧ isFree areas p = true := by
  obtain ⟨cx, hcx, h⟩ := except_bind_eq_ok.1 h
  obtain ⟨cy, hcy, h⟩ := except_bind_eq_ok.1 h
  have hfound : ((cx, cy) :: spiral.map (cellCorner κ cx cy)).find? (isFree areas) = some p := Except.ok.inj h
  refine ⟨?_, List.find?_some hfound⟩
  rw [openSlot_eq hcx hcy, hfound]
  rfl

end

/-! ## Rectangles -/

/-- the inner points of a rectangle as wide as a table -/
def interior (corner : ℤ × ℤ) (height : ℤ) : Set (ℚ × ℚ) :=
  Set.Ioo (corner.1 : ℚ) (corner.1 + tableWidth : ℤ) ×ˢ Set.Ioo (corner.2 : ℚ) (corner.2 + height : ℤ)

/-- two intervals have an inner point in common -/
theorem Ioo_meet_iff {a b c d : ℚ} (hab : a < b) (hcd : c < d) :
    ¬ Disjoint (Set.Ioo a b) (Set.Ioo c d) ↔ a < d ∧ c < b := by
  rw [Set.Ioo_disjoint_Ioo, not_le, lt_min_iff, max_lt_iff, max_lt_iff]
  exact ⟨fun h => ⟨h.2.1, h.1.2⟩, fun h => ⟨⟨hab, h.2⟩, h.1, hcd⟩⟩

theorem interior_meet_iff {p q : ℤ × ℤ} {h k : ℤ} (hh : 0 < h) (hk : 0 < k) :
    ¬ Disjoint (interior p h) (interior q k) ↔
      (p.1 < q.1 + tableWidth ∧ q.1 < p.1 + tableWidth) ∧ p.2 < q.2 + k ∧ q.2 < p.2 + h := by
  have hwidth : 0 < tableWidth := by decide
  have hside : ∀ {a d : ℤ}, 0 < d → (a : ℚ) < (a + d : ℤ) := fun hd => Int.cast_lt.2 (by omega)
  unfold interior
  rw [Set.disjoint_prod, not_or, Ioo_meet_iff (hside hwidth) (hside hwidth), Ioo_meet_iff (hside hh) (hside hk)]
  norm_cast

end Layout

open Layout

/-! ## Exact coordinates -/

theorem intBelow_iff {x : Float} {n : ℤ} (h : Whole x n) (k : ℤ) : Coordinate.intBelow k x = true ↔ k < n := by
  change (Double.compareInt k (.ofFloat x) == some .lt) = true ↔ k < n
  rw [h.compareInt, beq_iff_eq, Option.some.injEq, compare_lt_iff_lt]

theorem intAbove_iff {x : Float} {n : ℤ} (h : Whole x n) (k : ℤ) : Coordinate.intAbove k x = true ↔ n < k := by
  change (Double.compareInt k (.ofFloat x) == some .gt) = true ↔ n < k
  rw [h.compareInt, beq_iff_eq, Option.some.injEq, compare_gt_iff_gt]

/-- what a table covers when its corner is put somewhere, without its border -/
def Table.interior {κ : Type} (t : Table κ) (corner : ℤ × ℤ) : Set (ℚ × ℚ) := Layout.interior corner t.height

/-- a table whose corner has integer coordinates, where its edges and its height are small enough to be exact -/
structure Table.At (t : Table Float) (corner : ℤ × ℤ) : Prop where
  left : Whole t.position.x corner.1
  top : Whole t.position.y corner.2
  right : (corner.1 + tableWidth).natAbs < 2 ^ 53
  bottom : (corner.2 + t.height).natAbs < 2 ^ 53
  height : t.height.natAbs < 2 ^ 53

/-- the test for a free cell sees whether a table with one column would share inner points with another -/
theorem Table.At.covers_iff {t : Table Float} {corner : ℤ × ℤ} (h : t.At corner) (p : ℤ × ℤ) :
    t.area.covers p.1 p.2 = true ↔ ¬ Disjoint (Layout.interior p slotHeight) (t.interior corner) := by
  have hright : Whole (Coordinate.add t.position.x (Coordinate.ofInt tableWidth)) (corner.1 + tableWidth) :=
    h.left.add (whole_ofInt (by decide)) h.right
  have hbottom : Whole (Coordinate.add t.position.y (Coordinate.ofInt t.height)) (corner.2 + t.height) :=
    h.top.add (whole_ofInt h.height) h.bottom
  unfold Table.area Area.covers Table.interior
  dsimp only
  rw [interior_meet_iff (by decide) t.height_pos, Bool.and_eq_true, Bool.and_eq_true, Bool.and_eq_true,
    intBelow_iff hright, intAbove_iff h.left, intBelow_iff hbottom, intAbove_iff h.top, and_assoc]

/-- in a free cell a table with one column would share no inner point with another -/
theorem Table.At.disjoint_of_free {areas : List (Area Float)} {p : ℤ × ℤ} (hfree : isFree areas p = true)
    {t : Table Float} (ht : t.area ∈ areas) {corner : ℤ × ℤ} (h : t.At corner) :
    Disjoint (Layout.interior p slotHeight) (t.interior corner) := by
  by_contra hmeet
  have hcovers : areas.any (fun a => a.covers p.1 p.2) = true :=
    List.any_eq_true.2 ⟨t.area, ht, (h.covers_iff p).2 hmeet⟩
  unfold isFree at hfree
  rw [hcovers] at hfree
  cases hfree

/-! ## New tables -/

variable {σ : Type} [IdSupply σ]

/-- a new table is put into a free cell if there is one, with its three columns -/
theorem Action.apply_createTable (s : Schema Float) (ids : σ) (name : String) {centre : Position Float} {p : ℤ × ℤ}
    (h : freeCell? (s.tables.map Table.area) centre = .ok (some p)) :
    ∃ (after : Applied Float σ) (table : Table Float), (createTable name).apply (placeNear centre) s ids = .ok after ∧
      after.schema.tables = s.tables ++ [table] ∧ table.name = name ∧
      table.position = ⟨Coordinate.ofInt p.1, Coordinate.ofInt p.2⟩ ∧ table.height = heightOf 3 := by
  let position : Position Float := ⟨Coordinate.ofInt p.1, Coordinate.ofInt p.2⟩
  have hplace : placeNear centre s = .ok position := by
    unfold placeNear Schema.openPosition
    rw [(openSlot_of_freeCell? h).1]
    rfl
  obtain ⟨tableId, standard, _, -, hlength, hadded⟩ := s.addTable_standard name position ids
  refine ⟨quietly (s.addTable name position [] ids),
    ⟨tableId, name, position, (keySpec :: timestampSpecs).zipWith ColumnSpec.build standard⟩, ?_,
    congrArg (·.1.tables) hadded, rfl, rfl, ?_⟩
  · unfold Action.apply Schema.addPlacedTables
    rw [hplace]
    rfl
  · change heightOf ((keySpec :: timestampSpecs).zipWith ColumnSpec.build standard).length = heightOf 3
    rw [List.length_zipWith, hlength]
    rfl

/-- **What a new table covers.** When a free cell is found, a new table is put there, 130 high. Where coordinates are
integers that are exact, its upper part, as high as a table with one column, covers nothing. And it covers part of
another table just when that begins below the upper part, before the new table ends, and is not beside it. -/
theorem Action.createTable_covers_iff (s : Schema Float) (ids : σ) (name : String) {centre : Position Float} {p : ℤ × ℤ}
    (hfree : freeCell? (s.tables.map Table.area) centre = .ok (some p))
    (hp : p.1.natAbs < 2 ^ 53 ∧ p.2.natAbs < 2 ^ 53 ∧ (p.1 + 280).natAbs < 2 ^ 53 ∧ (p.2 + 130).natAbs < 2 ^ 53) :
    ∃ (after : Applied Float σ) (table : Table Float), (createTable name).apply (placeNear centre) s ids = .ok after ∧
      after.schema.tables = s.tables ++ [table] ∧ table.name = name ∧ table.At p ∧ table.height = 130 ∧
      ∀ t ∈ s.tables, ∀ corner, t.At corner →
        Disjoint (Layout.interior p 70) (t.interior corner) ∧
          (¬ Disjoint (table.interior p) (t.interior corner) ↔
            (p.1 < corner.1 + 280 ∧ corner.1 < p.1 + 280) ∧ p.2 + 70 ≤ corner.2 ∧ corner.2 < p.2 + 130) := by
  obtain ⟨after, table, happly, htables, hname, hposition, hheight⟩ := apply_createTable s ids name hfree
  have hhigh : table.height = 130 := hheight
  have hat : table.At p :=
    { left := by rw [hposition]; exact whole_ofInt hp.1
      top := by rw [hposition]; exact whole_ofInt hp.2.1
      right := hp.2.2.1
      bottom := by rw [hhigh]; exact hp.2.2.2
      height := by rw [hhigh]; decide }
  refine ⟨after, table, happly, htables, hname, hat, hhigh, fun t ht corner hcorner => ?_⟩
  have hdisjoint : Disjoint (Layout.interior p slotHeight) (t.interior corner) :=
    hcorner.disjoint_of_free (openSlot_of_freeCell? hfree).2 (List.mem_map_of_mem ht)
  refine ⟨hdisjoint, ?_⟩
  have hpos := t.height_pos
  -- that the upper part covers nothing, in coordinates
  have happart :=
    (interior_meet_iff (p := p) (q := corner) (h := slotHeight) (by decide) hpos).not.1 (not_not.2 hdisjoint)
  unfold Table.interior
  rw [hhigh, interior_meet_iff (by decide) hpos]
  change ¬ ((p.1 < corner.1 + 280 ∧ corner.1 < p.1 + 280) ∧ p.2 < corner.2 + t.height ∧ corner.2 < p.2 + 70) at happart
  change (p.1 < corner.1 + 280 ∧ corner.1 < p.1 + 280) ∧ _ ↔ _
  omega

/-- a table in the middle -/
def shops : Table Float := ⟨"t_1", "shops", ⟨Float.ofInt 0, Float.ofInt 0⟩, []⟩

/-- a table that begins 96 below the first free cell -/
def items : Table Float := ⟨"t_2", "items", ⟨Float.ofInt (-304), Float.ofInt (-160)⟩, []⟩

theorem Action.createTable_covers_iff_items :
    freeCell? ([shops, items].map Table.area) ⟨0, 0⟩ = .ok (some (-304, -256)) ∧ items.At (-304, -160) ∧
      ∃ (after : Applied Float Counting) (table : Table Float),
        (createTable "staff").apply (placeNear ⟨0, 0⟩) ⟨1, [shops, items], []⟩ ⟨"s", 0, []⟩ = .ok after ∧
        after.schema.tables = [shops, items, table] ∧ table.At (-304, -256) ∧
        Disjoint (Layout.interior (-304, -256) 70) (items.interior (-304, -160)) ∧
        ¬ Disjoint (table.interior (-304, -256)) (items.interior (-304, -160)) := by
  have hfree : freeCell? ([shops, items].map Table.area) ⟨0, 0⟩ = .ok (some (-304, -256)) := by decide +kernel
  have hitems : items.At (-304, -160) :=
    { left := by dsimp only [items]; exact whole_ofInt (by decide)
      top := by dsimp only [items]; exact whole_ofInt (by decide)
      right := by decide
      bottom := by decide
      height := by decide }
  obtain ⟨after, table, happly, htables, -, hat, -, hcovers⟩ :=
    createTable_covers_iff ⟨1, [shops, items], []⟩ (⟨"s", 0, []⟩ : Counting) "staff" hfree (by decide)
  obtain ⟨hupper, hlower⟩ := hcovers items (by simp) _ hitems
  exact ⟨hfree, hitems, after, table, happly, htables, hat, hupper, hlower.2 (by decide)⟩

/-- next to the only table there is, a new one is put into a free cell and covers part of the other -/
def CoveredBy (t : Table Float) (corner : ℤ × ℤ) (centre : Position Float) (p : ℤ × ℤ) : Prop :=
  freeCell? [t.area] centre = .ok (some p) ∧
    ∃ (after : Applied Float Counting) (table : Table Float),
      (Action.createTable "users").apply (placeNear centre) ⟨1, [t], []⟩ ⟨"", 0, []⟩ = .ok after ∧
      after.schema.tables = [t, table] ∧ table.position = ⟨Float.ofInt p.1, Float.ofInt p.2⟩ ∧
      ¬ Disjoint (table.interior p) (t.interior corner)

theorem coveredBy_of_free {t : Table Float} {corner p : ℤ × ℤ} {centre : Position Float}
    (hfree : freeCell? [t.area] centre = .ok (some p))
    (hmeet : (p.1 < corner.1 + tableWidth ∧ corner.1 < p.1 + tableWidth) ∧
      p.2 < corner.2 + t.height ∧ corner.2 < p.2 + heightOf 3) : CoveredBy t corner centre p := by
  obtain ⟨after, table, happly, htables, -, hposition, hheight⟩ :=
    Action.apply_createTable ⟨1, [t], []⟩ (⟨"", 0, []⟩ : Counting) "users" hfree
  refine ⟨hfree, after, table, happly, htables, hposition, ?_⟩
  unfold Table.interior
  rw [hheight]
  exact (interior_meet_iff (by decide) t.height_pos).2 hmeet

/-- A new table may cover another: one that begins just below the first column, and one so far away that its right edge
is rounded to the left. -/
theorem createTable_covers_shops :
    CoveredBy ⟨"t_1", "shops", ⟨Float.ofInt 0, Float.ofInt 100⟩, []⟩ (0, 100) ⟨0, 0⟩ (0, 0) ∧
      CoveredBy ⟨"t_1", "shops", ⟨Float.ofInt (2 ^ 60), Float.ofInt 0⟩, []⟩ (2 ^ 60, 0) ⟨Float.ofInt (2 ^ 60 + 256), 0⟩
        (2 ^ 60 + 256, 0) := by
  refine ⟨coveredBy_of_free ?_ ?_, coveredBy_of_free ?_ ?_⟩
  · decide +kernel
  · decide
  · decide +kernel
  · decide

end Crowfoot
