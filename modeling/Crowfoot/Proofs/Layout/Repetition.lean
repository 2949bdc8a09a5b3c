import Crowfoot.Proofs.Layout.Arrangement
import Crowfoot.Document.Interchange

/-
Drawings of schemas whatever the ids of their tables: nothing keeps a document from giving one id to several tables.

- `Schema.Sortable`: the topological order by which ranks are assigned lists every table after all that lead to it.
  It does unless an id that several tables have is the start of a line and not the end of any, as the lines away from
  such a table are followed once for each time that it is given.
- `Schema.drawing_ok`: a drawing has one corner for each id, in order of first occurrence.
- `Schema.drawing_outcome`: there is a drawing just if tables can be sorted; otherwise one of them has no rank where
  it is looked for.
- `Document.drawing_crossroads`: a document is accepted that has no drawing.
-/

namespace Crowfoot

open Layout

/-- what a drawing puts in its places: each of the ids once -/
theorem Layout.draw_ok {κ ι : Type} [Coordinate κ] [DecidableEq ι] {boxes : List (Box ι)} {links : List (ι × ι)}
    {places : List (ι × ℤ × ℤ)} (h : draw κ boxes links = .ok places) :
    places.map (·.1) = distinct (boxes.map (·.id)) := by
  unfold draw at h
  obtain ⟨⟨layers, edges⟩, -, hplaces⟩ := except_bind_eq_ok.1 h
  rw [except_mapM_map_eq (k := id) (fun id place hplace => ?_) (except_mapError_eq_ok.1 hplaces), List.map_id]
  obtain ⟨corner, -, heq⟩ := except_bind_eq_ok.1 hplace
  cases heq
  rfl

namespace Schema

variable {κ : Type}

/-- the lines of a schema's drawing, once those that lead back are turned round -/
def downward (s : Schema κ) : List (Edge String) :=
  breakCycles (s.tables.map (·.id)) (linkEdges (s.tables.map (·.id)) s.links)

/-- every table is listed after all that lead to it -/
def Sortable (s : Schema κ) : Prop := Layout.Sortable (s.tables.map (·.id)) s.links

variable [Coordinate κ]

theorem drawing_ok {s : Schema κ} {places : List (String × ℤ × ℤ)} (h : s.drawing = .ok places) :
    places.map (·.1) = distinct (s.tables.map (·.id)) := by
  unfold drawing at h
  split_ifs at h with hempty
  · cases h
    rw [List.isEmpty_iff.1 hempty]
    rfl
  · rw [draw_ok h, List.map_map]
    rfl

/-- **Drawn or not.** Where tables can be sorted, there is a drawing with one corner for each id, unless some coordinate
has no integer part. Where they cannot, some table has no rank. Tables can be sorted if every line that starts at a
repeated id starts where another one ends. -/
theorem drawing_outcome (s : Schema κ) :
    (s.Sortable → (∃ places, s.drawing = .ok places ∧ places.map (·.1) = distinct (s.tables.map (·.id))) ∨
      ∃ (c : NotFinite) (x : κ), Coordinate.floor x = .error c ∧ s.drawing = .error (.notFinite c)) ∧
    (¬ s.Sortable → ∃ t ∈ s.tables, s.drawing = .error (.unplaced (.table t.id))) ∧
    ((∀ e ∈ s.downward, (s.tables.map (·.id)).count e.1 ≤ 1 ∨ ∃ e' ∈ s.downward, e'.2 = e.1) → s.Sortable) := by
  have hboxes : (s.tables.map Table.box).map (·.id) = s.tables.map (·.id) := List.map_map
  refine ⟨fun hsort => ?_, fun hsort => ?_, fun h => ?_⟩
  · cases hdrawing : s.drawing with
    | ok places => exact Or.inl ⟨places, rfl, drawing_ok hdrawing⟩
    | error fault =>
      unfold drawing at hdrawing
      split_ifs at hdrawing
      obtain ⟨c, x, hx, rfl⟩ := draw_error (hboxes ▸ hsort) hdrawing
      exact Or.inr ⟨c, x, hx, rfl⟩
  · obtain ⟨id, hid, hfail⟩ := arrange_error hsort
    obtain ⟨t, ht, rfl⟩ := List.mem_map.1 hid
    refine ⟨t, ht, ?_⟩
    unfold drawing
    rw [if_neg (by simpa using List.ne_nil_of_mem ht), draw, hboxes, hfail]
    rfl
  · refine sortable_of_unrepeated fun e he hnone => (h e he).resolve_right ?_
    rintro ⟨e', he', heq⟩
    have hmem : e'.1 ∈ predecessors s.downward e.1 := mem_predecessors.2 (heq ▸ he')
    rw [show predecessors s.downward e.1 = [] from hnone] at hmem
    cases hmem

end Schema

/-- two tables of one id refer to a third, to which a fourth leads over a fifth -/
def Document.crossroads : Json :=
  .object [("version", .int 1),
    ("tables", .array (["a", "a", "d", "b", "c"].map fun id => .object [("id", .text id), ("name", .text id)])),
    ("relationships", .array ([("a", "c"), ("d", "b"), ("b", "c")].map fun (source, target) =>
      .object [("id", .text (source ++ target)),
        ("source", .object [("tableId", .text source), ("columnId", .text "x")]),
        ("target", .object [("tableId", .text target), ("columnId", .text "x")])]))]

/-- Not every schema that is read from a document has a drawing: the third table is taken up before the one that the
fourth leads to has a rank. -/
theorem Document.drawing_crossroads :
    ¬ ∀ v s, Document.decodeJson v = .ok s → ∃ places, s.drawing = .ok places := by
  intro h
  obtain ⟨places, hplaces⟩ := h Document.crossroads _ rfl
  cases hplaces

end Crowfoot
