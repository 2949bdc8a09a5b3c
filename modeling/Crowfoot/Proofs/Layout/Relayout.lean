import Crowfoot.Proofs.Layout.Spacing
import Crowfoot.Proofs.Schema.Positions
import Crowfoot.Proofs.Store.Line

/-
Drawing a schema again. What a drawing knows of a schema is the ids of its tables, in order, their numbers of columns,
and the links in the order in which they first join two tables; where the tables are is no part of that.

- `linkEdges_append`: links that join nothing new add no edge.
- `Schema.drawing_congr`: schemas with the same boxes and the same edges have the same drawing.
- `Schema.relayout_eq_ok`: a schema that is laid out is the one before with its tables moved, and stays so when it is
  laid out again.
- `Store.commit_twice`: a store in which the layout was made takes no notice of the next one.
- `Schema.relayout_settles`: all of it together.
-/

namespace Crowfoot

namespace Layout

section Edges

variable {α : Type} [DecidableEq α]

/-- a link that joins nothing new: it leads back to where it begins, misses an end, or is there already -/
def Superfluous (nodes : List α) (links : List (α × α)) (l : α × α) : Prop :=
  l.1 = l.2 ∨ l.1 ∉ nodes ∨ l.2 ∉ nodes ∨ l ∈ links

instance (nodes : List α) (links : List (α × α)) : DecidablePred (Superfluous nodes links) := fun l =>
  inferInstanceAs (Decidable (l.1 = l.2 ∨ _))

theorem linkEdges_append {nodes : List α} {links added : List (α × α)} (h : ∀ l ∈ added, Superfluous nodes links l) :
    linkEdges nodes (links ++ added) = linkEdges nodes links := by
  rw [linkEdges, List.filter_append]
  refine distinct_append fun l hl => ?_
  obtain ⟨hadded, hjoins⟩ := List.mem_filter.1 hl
  simp only [ne_eq, decide_not, Bool.and_eq_true, Bool.not_eq_true', decide_eq_false_iff_not,
    List.contains_iff_mem] at hjoins
  obtain ⟨⟨hne, hstart⟩, hend⟩ := hjoins
  rcases h l hadded with hself | hmissing | hmissing | hthere
  · exact absurd hself hne
  · exact absurd hstart hmissing
  · exact absurd hend hmissing
  · exact List.mem_filter.2 ⟨hthere, by simp [hne, hstart, hend]⟩

end Edges

variable {ι : Type} [DecidableEq ι] {κ : Type} [Coordinate κ]

theorem arrange_congr {ids : List ι} {links links' : List (ι × ι)} (h : linkEdges ids links = linkEdges ids links') :
    arrange ids links = arrange ids links' := by
  unfold arrange
  rw [h]

theorem draw_congr {boxes : List (Box ι)} {links links' : List (ι × ι)}
    (h : linkEdges (boxes.map (·.id)) links = linkEdges (boxes.map (·.id)) links') :
    draw κ boxes links = draw κ boxes links' := by
  unfold draw
  simp only [arrange_congr h]

end Layout

open Layout

variable {κ : Type} [Coordinate κ]

namespace Schema

variable {s t : Schema κ}

/-- the drawing of a schema depends on the boxes of its tables and on the edges between them -/
theorem drawing_congr (hboxes : t.tables.map Table.box = s.tables.map Table.box)
    (hedges : linkEdges (s.tables.map (·.id)) t.links = linkEdges (s.tables.map (·.id)) s.links) :
    t.drawing = s.drawing := by
  have hids : (s.tables.map Table.box).map (·.id) = s.tables.map (·.id) := List.map_map
  have hempty : t.tables.isEmpty = s.tables.isEmpty := by
    rw [← List.isEmpty_map (f := Table.box), hboxes, List.isEmpty_map]
  unfold drawing
  rw [hempty, hboxes, draw_congr (hids ▸ hedges)]

theorem applyPositions_drawing (s : Schema κ) (positions : List (String × Position κ)) :
    (s.applyPositions positions).drawing = s.drawing := by
  refine drawing_congr ?_ rfl
  rw [applyPositions, List.map_map]
  refine List.map_congr_left fun t _ => ?_
  simp [Table.box, Table.height]

theorem relayout_eq_ok {s' : Schema κ} (h : s.relayout = .ok s') :
    s'.relayout = .ok s' ∧ ∃ positions, s' = s.applyPositions positions := by
  obtain ⟨places, hplaces, hs'⟩ := except_bind_eq_ok.1 h
  cases hs'
  refine ⟨?_, _, rfl⟩
  rw [relayout, applyPositions_drawing, hplaces]
  exact congrArg Except.ok (s.applyPositions_twice _)

end Schema

theorem Store.commit_twice {σ : Type} [IdSupply σ] (hself : ∀ x : κ, Coordinate.same x x = true) (st : Store κ σ)
    {s : Schema κ} (hlaid : st.schema.relayout = .ok s) :
    (st.commit s).2.schema.relayout = .ok s ∧ (st.commit s).2.commit s = (false, (st.commit s).2) := by
  by_cases hsame : s.same st.schema = true
  · rw [st.commit_same hsame]
    exact ⟨hlaid, st.commit_same hsame⟩
  · have hpresent : (st.commit s).2.schema = s := by
      rw [Store.commit, if_neg hsame]
      rfl
    refine ⟨?_, Store.commit_same _ ?_⟩
    · rw [hpresent]
      exact (Schema.relayout_eq_ok hlaid).1
    · rw [hpresent]
      exact s.same_self hself

/-- **Laying out twice is laying out once.** If the tables of a schema have different ids, there is a layout of it,
unless some coordinate has no integer part. The layout is its own layout, so that a store in which it was made takes no
notice of the next one; but for the positions it is the schema that it was made from, with the same issues and the same
script in every dialect. And the drawing is that of any schema with the same ids and numbers of columns, and with links
that go on with superfluous ones. -/
theorem Schema.relayout_settles {σ : Type} [IdSupply σ] (hself : ∀ x : κ, Coordinate.same x x = true) (s : Schema κ)
    (hids : (s.tables.map (·.id)).Nodup) :
    ((∃ s', s.relayout = .ok s' ∧ s'.relayout = .ok s' ∧
        (s'.version = s.version ∧ s'.tables.map Table.content = s.tables.map Table.content ∧
          s'.relationships = s.relationships) ∧
        s'.issues = s.issues ∧ (∀ dialect, Ddl.exportText s' dialect = Ddl.exportText s dialect) ∧
        ∀ st : Store κ σ, st.schema = s →
          (st.commit s').2.schema.relayout = .ok s' ∧ (st.commit s').2.commit s' = (false, (st.commit s').2)) ∨
      ∃ (c : NotFinite) (x : κ), Coordinate.floor x = .error c ∧ s.relayout = .error (.notFinite c)) ∧
    ∀ t : Schema κ,
      (t.tables.map fun u => (u.id, u.columns.length)) = (s.tables.map fun u => (u.id, u.columns.length)) →
      (∃ added, t.links = s.links ++ added ∧ ∀ l ∈ added, Superfluous (s.tables.map (·.id)) s.links l) →
      t.drawing = s.drawing := by
  constructor
  · cases hlaid : s.relayout with
    | ok s' =>
      obtain ⟨hagain, positions, rfl⟩ := relayout_eq_ok hlaid
      refine Or.inl ⟨_, rfl, hagain, ⟨rfl, s.applyPositions_content positions, rfl⟩, s.applyPositions_issues positions,
        s.applyPositions_exportText positions, ?_⟩
      rintro st rfl
      exact st.commit_twice hself hlaid
    | error fault =>
      rcases except_bind_eq_error.1 hlaid with hdrawing | ⟨_, -, hnever⟩
      · obtain ⟨c, x, hx, rfl⟩ := drawing_error hids hdrawing
        exact Or.inr ⟨c, x, hx, rfl⟩
      · cases hnever
  · rintro t hsizes ⟨added, hlinks, hadded⟩
    refine drawing_congr ?_ (hlinks ▸ linkEdges_append hadded)
    have hboxes := congrArg (List.map fun p : String × ℕ => (⟨p.1, heightOf p.2⟩ : Box String)) hsizes
    rw [List.map_map, List.map_map] at hboxes
    exact hboxes

/-- the market with other names, types and places, and with links that lead back, lead nowhere or are there already -/
def marketAgain : Schema ℚ :=
  ⟨1, [⟨"t_1", "stores", ⟨-5, 1/3⟩, [⟨"c_1", "key", .text, []⟩]⟩, ⟨"t_2", "people", ⟨7, 7⟩, []⟩,
      ⟨"t_3", "goods", ⟨100, 0⟩, [⟨"c_3", "id", .timestamp, [.unique]⟩, ⟨"c_4", "store", .integer, [.notNull]⟩]⟩],
    market.relationships ++
      [⟨"r_6", ⟨"t_1", "c_1"⟩, ⟨"t_1", "c_1"⟩, .oneToOne⟩, ⟨"r_7", ⟨"t_8", "c_8"⟩, ⟨"t_2", "c_5"⟩, .oneToMany⟩,
        ⟨"r_8", ⟨"t_3", "c_3"⟩, ⟨"t_1", "c_1"⟩, .oneToOne⟩]⟩

theorem Schema.relayout_settles_market :
    (∀ x : ℚ, Coordinate.same x x = true) ∧ (market.tables.map (·.id)).Nodup ∧
      (∃ s', market.relayout = .ok s' ∧ s'.relayout = .ok s' ∧ s'.issues = market.issues ∧
        ((Store.ofSchema market 50 (⟨"", 0, []⟩ : Counting)).commit s').2.commit s' =
          (false, ((Store.ofSchema market 50 (⟨"", 0, []⟩ : Counting)).commit s').2)) ∧
      marketAgain.drawing = market.drawing := by
  have hself : ∀ x : ℚ, Coordinate.same x x = true := fun x => decide_eq_true rfl
  have hids : (market.tables.map (·.id)).Nodup := by decide
  obtain ⟨⟨s', hlaid, hagain, -, hissues, -, hstore⟩ | ⟨c, x, hx, -⟩, hdrawing⟩ :=
    Schema.relayout_settles (σ := Counting) hself market hids
  · refine ⟨hself, hids, ⟨s', hlaid, hagain, hissues, (hstore _ rfl).2⟩, hdrawing marketAgain (by decide) ⟨_, rfl, ?_⟩⟩
    decide
  · cases hx

end Crowfoot
