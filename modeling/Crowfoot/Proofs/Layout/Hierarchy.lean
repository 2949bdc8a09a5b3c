import Crowfoot.Proofs.Layout.Cycle
import Crowfoot.Proofs.Layout.Spacing

/-
What refers to something else stands above it, in exact arithmetic.

- `Schema.Refers`: one table refers to another, both of them there. These pairs are the edges of the drawing.
- `Schema.rowOf_ne`: cycles or not, tables that refer to one another are in different rows, as every edge leads down
  once some are turned round.
- `Schema.rowOf_lt`: where no table refers to itself over others, no edge is turned round, so that all lead down.
- `Schema.drawing_hierarchy`: rows do not meet, hence neither do the tables, and the grid leaves a gap between them.
-/

namespace Crowfoot

open Layout

variable {κ : Type}

namespace Schema

/-- a relationship leads from one table to another, both of which are there -/
def Refers (s : Schema κ) (source target : String) : Prop :=
  source ≠ target ∧ source ∈ s.tables.map (·.id) ∧ target ∈ s.tables.map (·.id) ∧
    ∃ r ∈ s.relationships, r.source.tableId = source ∧ r.target.tableId = target

/-- tables that refer to one another are joined by an edge of the drawing -/
theorem mem_linkEdges {s : Schema κ} {source target : String} :
    (source, target) ∈ linkEdges (s.tables.map (·.id)) s.links ↔ s.Refers source target := by
  have hlinks : (source, target) ∈ s.links ↔
      ∃ r ∈ s.relationships, r.source.tableId = source ∧ r.target.tableId = target := by
    simp [links, Prod.mk.injEq]
  simp only [linkEdges, mem_distinct, List.mem_filter, hlinks, ne_eq, Bool.and_eq_true, decide_eq_true_eq,
    List.contains_iff_mem, Refers]
  tauto

variable {s : Schema κ} {source target : String}

/-- whether its edge is turned round or not, what refers to a table is not in the same row -/
theorem rowOf_ne (hids : (s.tables.map (·.id)).Nodup) (h : s.Refers source target) :
    s.rowOf source ≠ s.rowOf target := by
  have hedge := mem_linkEdges.2 h
  have hbroken := rowOf_lt (sortable_of_nodup hids s.links) _ (mem_distinct.2 (List.mem_map_of_mem hedge))
  unfold turned at hbroken
  split_ifs at hbroken
  · exact hbroken.ne'
  · exact hbroken.ne

/-- without cycles, what refers to a table is in a row above it -/
theorem rowOf_lt (hids : (s.tables.map (·.id)).Nodup) (hacyclic : ∀ id, ¬ Relation.TransGen s.Refers id id)
    (h : s.Refers source target) : s.rowOf source < s.rowOf target := by
  have hkept : breakCycles (s.tables.map (·.id)) (linkEdges (s.tables.map (·.id)) s.links) =
      linkEdges (s.tables.map (·.id)) s.links := by
    rw [breakCycles_eq_distinct _ (by simpa only [CycleFree, mem_linkEdges] using hacyclic)]
    exact distinct_eq_self (distinct_nodup _)
  exact Layout.rowOf_lt (sortable_of_nodup hids s.links) _ (hkept.symm ▸ mem_linkEdges.2 h)

end Schema

/-- the heights that a table covers when its top is put somewhere -/
def Table.span (t : Table κ) (top : ℤ) : Set ℚ := Set.Icc (top : ℚ) (top + t.height : ℤ)

/-- spans one of which ends before the other begins -/
theorem Table.span_disjoint {t u : Table κ} {top top' : ℤ} (h : top + t.height < top') :
    Disjoint (t.span top) (u.span top') := by
  refine Set.disjoint_left.2 fun y hy hy' => ?_
  have hlt : ((top + t.height : ℤ) : ℚ) < (top' : ℚ) := by exact_mod_cast h
  linarith [hy.2, hy'.1]

/-- **References lead down.** Of any schema with different ids of tables, whatever its relationships join, there is a
drawing with one corner for each table. Tables one of which refers to the other have no height in common; and if no
table refers to itself over others, what refers to a table ends at least 64 above it. -/
theorem Schema.drawing_hierarchy (s : Schema ℚ) (hids : (s.tables.map (·.id)).Nodup) :
    ∃ corner : String → ℤ × ℤ, s.drawing = .ok (s.tables.map fun t => (t.id, corner t.id)) ∧
      (∀ t ∈ s.tables, ∀ u ∈ s.tables, s.Refers t.id u.id →
        Disjoint (t.span (corner t.id).2) (u.span (corner u.id).2)) ∧
      ((∀ id, ¬ Relation.TransGen s.Refers id id) → ∀ t ∈ s.tables, ∀ u ∈ s.tables, s.Refers t.id u.id →
        (corner t.id).2 + t.height + 64 ≤ (corner u.id).2) := by
  obtain ⟨corner, hdrawing, -, -, hstacked⟩ := s.drawing_spec hids
  refine ⟨corner, hdrawing, fun t ht u hu hrefers => ?_, fun hacyclic t ht u hu hrefers => ?_⟩
  · have hgap : (0 : ℤ) < rowGap - gridSize := by decide
    rcases (rowOf_ne hids hrefers).lt_or_gt with hlt | hlt
    · have hbelow := hstacked t ht u hu hlt
      exact Table.span_disjoint (by omega)
    · have hbelow := hstacked u hu t ht hlt
      exact (Table.span_disjoint (by omega)).symm
  · exact hstacked t ht u hu (rowOf_lt hids hacyclic hrefers)

/-- orders refer to people directly and through addresses, which makes the direct way a long one; one relationship
stays within a table, and one leads nowhere -/
def deliveries : Schema ℚ :=
  ⟨1, [⟨"t_1", "people", ⟨0, 0⟩, [⟨"c_1", "id", .integer, [.primaryKey]⟩]⟩,
      ⟨"t_2", "orders", ⟨0, 0⟩, [⟨"c_2", "person", .integer, []⟩, ⟨"c_3", "address", .integer, []⟩]⟩,
      ⟨"t_3", "addresses", ⟨0, 0⟩, [⟨"c_4", "id", .integer, [.primaryKey]⟩, ⟨"c_5", "person", .integer, []⟩]⟩],
    [⟨"r_1", ⟨"t_2", "c_2"⟩, ⟨"t_1", "c_1"⟩, .oneToMany⟩, ⟨"r_2", ⟨"t_2", "c_3"⟩, ⟨"t_3", "c_4"⟩, .oneToMany⟩,
      ⟨"r_3", ⟨"t_3", "c_5"⟩, ⟨"t_1", "c_1"⟩, .oneToMany⟩, ⟨"r_4", ⟨"t_1", "c_1"⟩, ⟨"t_1", "c_1"⟩, .oneToOne⟩,
      ⟨"r_5", ⟨"t_1", "c_1"⟩, ⟨"t_9", "c_9"⟩, .oneToMany⟩]⟩

theorem Schema.drawing_hierarchy_deliveries :
    (deliveries.tables.map (·.id)).Nodup ∧ (∀ id, ¬ Relation.TransGen deliveries.Refers id id) ∧
      deliveries.Refers "t_2" "t_1" ∧ ∃ corner : String → ℤ × ℤ,
        deliveries.drawing = .ok (deliveries.tables.map fun t => (t.id, corner t.id)) ∧
        (corner "t_2").2 + 100 + 64 ≤ (corner "t_1").2 := by
  have hids : (deliveries.tables.map (·.id)).Nodup := by decide
  have hrefers : deliveries.Refers "t_2" "t_1" := ⟨by decide, by decide, by decide, _, List.mem_cons_self, rfl, rfl⟩
  -- people, addresses and orders are numbered so that references lead to smaller numbers
  let level (id : String) : ℕ := if id = "t_1" then 0 else if id = "t_3" then 1 else 2
  have hlevel : ∀ source target, deliveries.Refers source target → level target < level source := by
    rintro source target ⟨hne, hsource, htarget, r, hr, rfl, rfl⟩
    simp only [deliveries, List.mem_cons, List.not_mem_nil, or_false] at hr
    rcases hr with rfl | rfl | rfl | rfl | rfl
    · decide
    · decide
    · decide
    · exact absurd rfl hne
    · exact absurd htarget (by decide)
  have hacyclic : ∀ id, ¬ Relation.TransGen deliveries.Refers id id := by
    intro id hcycle
    have hless : ∀ target, Relation.TransGen deliveries.Refers id target → level target < level id := by
      intro target hpath
      induction hpath with
      | single hedge => exact hlevel _ _ hedge
      | tail _ hedge ih => exact (hlevel _ _ hedge).trans ih
    exact (hless id hcycle).false
  obtain ⟨corner, hdrawing, -, hdown⟩ := Schema.drawing_hierarchy deliveries hids
  refine ⟨hids, hacyclic, hrefers, corner, hdrawing, ?_⟩
  exact hdown hacyclic _ (List.mem_cons_of_mem _ List.mem_cons_self) _ List.mem_cons_self hrefers

end Crowfoot
