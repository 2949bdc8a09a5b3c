import Crowfoot.Proofs.Items
import Crowfoot.Proofs.Layout.Ranks
import Crowfoot.Proofs.Layout.Ordering
import Crowfoot.Layout.Drawing

/-
Arranging tables. Links make edges, the edges that lead back are turned round, tables are ranked, long edges cut,
layers filled, and crossings reduced. Whatever the links, nothing is looked for in vain on the way, if tables can be
sorted; and they can be if no id is given twice.

- `Sortable`, `sortable_of_nodup`: when every table is listed after those that lead to it.
- `rowOf_tight`, `rowOf_lt`: cycles are broken, so that ranks can be assigned, and ranks grow along edges.
- `cutEdges`, `filledLayers`: what long edges are cut into, and the layers before crossings are reduced; `arrange_eq`.
- `Layering`: cut edges lead from one layer to the next, along a chain of its own for every edge, and every node stands
  in one place, in the layer of its rank. `filledLayers_layering`; by `Layering.rearranged` the order within layers does
  not matter.
- `arrange_spec`: so crossings can be counted and reduced. `arrange_error`: where tables cannot be sorted, one of them
  gets no rank.
- `arrange_layered`: all of it for tables with different ids.
- `draw_error`, `Schema.drawing_error`: of such tables there is a drawing, unless a coordinate has no integer part.
-/

namespace Crowfoot.Layout

open scoped List

variable {ι : Type} [DecidableEq ι] {ids : List ι} {links : List (ι × ι)}

/-! ## Rows -/

/-- the row of a table in the drawing of some links, counted from the top -/
def rowOf (ids : List ι) (links : List (ι × ι)) (id : ι) : ℕ :=
  match assignRanks ids (breakCycles ids (linkEdges ids links)) with
  | .ok ranks => (rankIn ranks id).toNat
  | .error _ => 0

/-- the topological order by which a drawing assigns ranks lists every table after all that lead to it -/
def Sortable (ids : List ι) (links : List (ι × ι)) : Prop :=
  Forward (breakCycles ids (linkEdges ids links)) (topological ids (breakCycles ids (linkEdges ids links)))

theorem breakCycles_linkEdges_simple (ids : List ι) (links : List (ι × ι)) :
    Simple ids (breakCycles ids (linkEdges ids links)) :=
  breakCycles_simple (linkEdges_simple ids links)

/-- tables can be sorted unless one that is given twice has links away from it only -/
theorem sortable_of_unrepeated (h : Unrepeated ids (breakCycles ids (linkEdges ids links))) : Sortable ids links :=
  (topological_spec (breakCycles_linkEdges_simple ids links)
    (breakCycles_acyclic (linkEdges_simple ids links))).2.2 h

theorem sortable_of_nodup (hids : ids.Nodup) (links : List (ι × ι)) : Sortable ids links :=
  sortable_of_unrepeated (unrepeated_of_nodup hids _)

/-- rows are the ranks that get assigned -/
theorem rowOf_spec (hsort : Sortable ids links) :
    ∃ ranks, assignRanks ids (breakCycles ids (linkEdges ids links)) = .ok ranks ∧
      (rowOf ids links = fun id => (rankIn ranks id).toNat) ∧
      Tight ids (breakCycles ids (linkEdges ids links)) fun id => rowOf ids links id := by
  have hsimple := breakCycles_linkEdges_simple ids links
  obtain ⟨ranks, hranks, -, -, htight⟩ :=
    assignRanks_spec hsort hsimple (breakCycles_acyclic (linkEdges_simple ids links))
  have hrow : rowOf ids links = fun id => (rankIn ranks id).toNat := by
    funext id
    simp only [rowOf, hranks]
  refine ⟨ranks, hranks, hrow, htight.congr (fun e he => ⟨(hsimple e he).1, (hsimple e he).2.1⟩) fun id hid => ?_⟩
  rw [hrow]
  exact Int.toNat_of_nonneg (htight.nonneg hid)

theorem rowOf_tight (hsort : Sortable ids links) :
    Tight ids (breakCycles ids (linkEdges ids links)) fun id => rowOf ids links id := by
  obtain ⟨-, -, -, htight⟩ := rowOf_spec hsort
  exact htight

/-- every edge leads down, once those that lead back are turned round -/
theorem rowOf_lt (hsort : Sortable ids links) :
    ∀ e ∈ breakCycles ids (linkEdges ids links), rowOf ids links e.1 < rowOf ids links e.2 := fun e he =>
  Int.ofNat_lt.1 ((rowOf_tight hsort).lt he (breakCycles_linkEdges_simple ids links e he).2.1)

/-- there is a table in every row above that of another -/
theorem exists_rowOf (hsort : Sortable ids links) {id : ι} (hid : id ∈ ids) {r : ℕ} (hr : r ≤ rowOf ids links id) :
    ∃ id' ∈ ids, rowOf ids links id' = r := by
  obtain ⟨id', hid', heq⟩ := (rowOf_tight hsort).full id hid r (Int.natCast_nonneg r) (Int.ofNat_le.2 hr)
  exact ⟨id', hid', Int.ofNat_inj.1 heq⟩

/-! ## Layers -/

/-- the edges of a drawing, cut at every row between their ends -/
def cutEdges (ids : List ι) (links : List (ι × ι)) : Ranked ι :=
  splitEdges (rowOf ids links) (breakCycles ids (linkEdges ids links))

/-- the number of the lowest layer -/
def depthOfLayers (ids : List ι) (links : List (ι × ι)) : ℕ :=
  (ids.map (rowOf ids links) ++ (cutEdges ids links).bends).max?.getD 0

/-- the layers of a drawing before crossings are reduced -/
def filledLayers (ids : List ι) (links : List (ι × ι)) : List (List (Node ι)) :=
  layersOf ((cutEdges ids links).rankOf (rowOf ids links)) (depthOfLayers ids links)
    (walkOrder (ids.map Node.table) (cutEdges ids links).edges)

theorem arrange_eq (hsort : Sortable ids links) :
    arrange ids links = (orderLayers (cutEdges ids links).edges (filledLayers ids links)).map fun layers =>
      (layers, (cutEdges ids links).edges) := by
  obtain ⟨ranks, hranks, hrow, -⟩ := rowOf_spec hsort
  unfold arrange
  simp only [hranks, except_mapError_ok, except_ok_bind]
  rw [show (fun id => ((ranks.lookup id).getD 0).toNat) = rowOf ids links from hrow.symm]
  change (orderLayers (cutEdges ids links).edges (filledLayers ids links) >>= _) = _
  cases orderLayers (cutEdges ids links).edges (filledLayers ids links) <;> rfl

/-- a layering of tables and bends: some edges are cut into steps from one rank to the next, and every layer holds the
nodes of its rank -/
structure Layering (ids : List ι) (edges : List (Edge ι)) (rank : ι → ℕ) (cut : Ranked ι)
    (layers : List (List (Node ι))) : Prop where
  /-- every step leads from one rank to the next -/
  step : ∀ e ∈ cut.edges, cut.rankOf rank e.2 = cut.rankOf rank e.1 + 1
  /-- every edge has become a chain of steps from its start to its end over bends of its own -/
  chains : ∃ bends : List (List ℕ), bends.length = edges.length ∧ bends.flatten = List.range cut.bends.length ∧
    cut.edges = (List.zipWith along edges bends).flatMap stepsOf
  /-- no node is anywhere twice -/
  nodup : layers.flatten.Nodup
  /-- every table is somewhere, and every bend -/
  holds : ∀ n, n ∈ layers.flatten ↔ n ∈ ids.map Node.table ∨ n ∈ (List.range cut.bends.length).map Node.bend
  /-- nodes are in the layer of their rank -/
  ranked : ∀ r layer, layers[r]? = some layer → ∀ n ∈ layer, cut.rankOf rank n = r
  /-- there is a table in every layer; where there are no tables nothing is drawn -/
  occupied : ids ≠ [] → ∀ layer ∈ layers, ∃ id ∈ ids, Node.table id ∈ layer

section Order

variable {edges : List (Edge ι)} {rank : ι → ℕ} {cut : Ranked ι} {layers layers' : List (List (Node ι))}

omit [DecidableEq ι] in
/-- the order within layers does not matter -/
theorem Layering.rearranged (h : Layering ids edges rank cut layers) (hsame : Rearranged layers' layers) :
    Layering ids edges rank cut layers' := by
  have hflatten : layers'.flatten ~ layers.flatten := List.Perm.flatten_congr hsame
  refine ⟨h.step, h.chains, hflatten.nodup_iff.2 h.nodup, fun n => hflatten.mem_iff.trans (h.holds n),
    fun r layer hlayer n hn => ?_, fun hne layer hlayer => ?_⟩
  · obtain ⟨layer', hget, hperm⟩ := forall₂_getElem?_right hsame.flip hlayer
    exact h.ranked r layer' hget n (hperm.mem_iff.1 hn)
  · obtain ⟨layer', hin, hperm⟩ := forall₂_mem_left hsame hlayer
    obtain ⟨id, hid, htable⟩ := h.occupied hne layer' hin
    exact ⟨id, hid, hperm.mem_iff.2 htable⟩

omit [DecidableEq ι] in
/-- every table is in the layer of its rank -/
theorem Layering.exists_layer (h : Layering ids edges rank cut layers) {id : ι} (hid : id ∈ ids) :
    ∃ layer, layers[rank id]? = some layer ∧ .table id ∈ layer := by
  obtain ⟨layer, hlayer, hin⟩ := List.mem_flatten.1 ((h.holds (.table id)).2 (Or.inl (List.mem_map_of_mem hid)))
  obtain ⟨r, hr⟩ := List.mem_iff_getElem?.1 hlayer
  have hrank : rank id = r := h.ranked r layer hr _ hin
  exact ⟨layer, by rw [hrank]; exact hr, hin⟩

end Order

/-- the walk meets both ends of every cut edge -/
theorem cutEdges_met (ids : List ι) (links : List (ι × ι)) :
    ∀ e ∈ (cutEdges ids links).edges, e.1 ∈ walkOrder (ids.map Node.table) (cutEdges ids links).edges ∧
      e.2 ∈ walkOrder (ids.map Node.table) (cutEdges ids links).edges := by
  obtain ⟨-, hstarts, hclosed⟩ := walkOrder_spec (ids.map Node.table) (cutEdges ids links).edges
  intro e he
  refine splitEdges_reached (fun e' he' => hstarts (List.mem_map_of_mem ?_)) hclosed he
  exact (breakCycles_linkEdges_simple ids links e' he').1

/-- the walk meets the tables and the bends, and nothing else -/
theorem mem_walkOrder_cutEdges {n : Node ι} :
    n ∈ walkOrder (ids.map Node.table) (cutEdges ids links).edges ↔
      n ∈ ids.map Node.table ∨ n ∈ (List.range (cutEdges ids links).bends.length).map Node.bend := by
  have htargets : n ∈ (cutEdges ids links).edges.map (·.2) ↔
      n ∈ (List.range (cutEdges ids links).bends.length).map Node.bend ∨
        n ∈ (breakCycles ids (linkEdges ids links)).map fun e => Node.table e.2 :=
    (splitEdges_targets _ _).mem_iff.trans List.mem_append
  constructor
  · intro hn
    rcases walkOrder_met hn with hn | hn
    · exact Or.inl hn
    · rcases htargets.1 hn with hn | hn
      · exact Or.inr hn
      · obtain ⟨e, he, rfl⟩ := List.mem_map.1 hn
        exact Or.inl (List.mem_map_of_mem (breakCycles_linkEdges_simple ids links e he).2.1)
  · rintro (hn | hn)
    · exact (walkOrder_spec _ _).2.1 hn
    · obtain ⟨e, he, rfl⟩ := List.mem_map.1 (htargets.2 (Or.inl hn))
      exact (cutEdges_met ids links e he).2

/-- bends are on rows between two tables -/
theorem exists_lt_rowOf {b : ℕ} (hb : b ∈ (cutEdges ids links).bends) : ∃ id ∈ ids, b < rowOf ids links id := by
  rw [cutEdges, splitEdges_eq] at hb
  obtain ⟨e, he, hb⟩ := List.mem_flatMap.1 hb
  obtain ⟨i, hi, rfl⟩ := List.mem_map.1 hb
  rw [List.mem_range, bendsOf] at hi
  exact ⟨e.2, (breakCycles_linkEdges_simple ids links e he).2.1, by omega⟩

/-- the lowest layer is that of a table -/
theorem exists_depthOfLayers_le (hne : ids ≠ []) (links : List (ι × ι)) :
    ∃ id ∈ ids, depthOfLayers ids links ≤ rowOf ids links id := by
  unfold depthOfLayers
  cases hmax : (ids.map (rowOf ids links) ++ (cutEdges ids links).bends).max? with
  | none =>
    rw [List.max?_eq_none_iff, List.append_eq_nil_iff, List.map_eq_nil_iff] at hmax
    exact absurd hmax.1 hne
  | some depth =>
    rcases List.mem_append.1 (List.max?_eq_some_iff.1 hmax).1 with hin | hin
    · obtain ⟨id, hid, rfl⟩ := List.mem_map.1 hin
      exact ⟨id, hid, le_rfl⟩
    · obtain ⟨id, hid, hlt⟩ := exists_lt_rowOf hin
      exact ⟨id, hid, hlt.le⟩

/-- no node is below the lowest layer -/
theorem rankOf_le_depthOfLayers {n : Node ι} (hn : n ∈ walkOrder (ids.map Node.table) (cutEdges ids links).edges) :
    (cutEdges ids links).rankOf (rowOf ids links) n ≤ depthOfLayers ids links := by
  rcases mem_walkOrder_cutEdges.1 hn with hn | hn
  · obtain ⟨id, hid, rfl⟩ := List.mem_map.1 hn
    exact le_max?_getD (List.mem_append_left _ (List.mem_map_of_mem (f := rowOf ids links) hid)) 0
  · obtain ⟨k, hk, rfl⟩ := List.mem_map.1 hn
    rw [List.mem_range] at hk
    have hrank : (cutEdges ids links).rankOf (rowOf ids links) (.bend k) = (cutEdges ids links).bends[k] := by
      rw [Ranked.rankOf, List.getElem?_eq_getElem hk, Option.getD_some]
    rw [hrank]
    exact le_max?_getD (List.mem_append_right _ (List.getElem_mem hk)) 0

/-- **Layers.** If tables can be sorted, the layers that are filled are a layering. -/
theorem filledLayers_layering (hsort : Sortable ids links) :
    Layering ids (breakCycles ids (linkEdges ids links)) (rowOf ids links) (cutEdges ids links)
      (filledLayers ids links) := by
  obtain ⟨hnodup, hstarts, -⟩ := walkOrder_spec (ids.map Node.table) (cutEdges ids links).edges
  refine ⟨fun e he => splitEdges_step (rowOf_lt hsort) he, splitEdges_along _ _, layersOf_nodup _ _ hnodup, fun n => ?_,
    fun r layer hlayer n hn => ?_, fun hne layer hlayer => ?_⟩
  · rw [filledLayers, (layersOf_perm hnodup fun n => rankOf_le_depthOfLayers).mem_iff]
    exact mem_walkOrder_cutEdges
  · rw [(getElem?_layersOf.1 hlayer).2] at hn
    simpa using (List.mem_filter.1 hn).2
  · obtain ⟨r, hr⟩ := List.mem_iff_getElem?.1 hlayer
    obtain ⟨hdepth, rfl⟩ := getElem?_layersOf.1 hr
    obtain ⟨low, hlow, hle⟩ := exists_depthOfLayers_le hne links
    obtain ⟨id, hid, hrow⟩ := exists_rowOf hsort hlow (hdepth.trans hle)
    refine ⟨id, hid, List.mem_filter.2 ⟨hstarts (List.mem_map_of_mem hid), ?_⟩⟩
    exact decide_eq_true hrow

theorem filledLayers_joined (hsort : Sortable ids links) :
    (filledLayers ids links).IsChain (Joined (cutEdges ids links).edges) :=
  layersOf_joined _ (filledLayers_layering hsort).step (cutEdges_met ids links)

/-- **Arranged layers.** If tables can be sorted, they are arranged, and the layers are those that were filled. -/
theorem arrange_spec (hsort : Sortable ids links) :
    ∃ layers, arrange ids links = .ok (layers, (cutEdges ids links).edges) ∧
      Rearranged layers (filledLayers ids links) := by
  obtain ⟨layers, hlayers, hsame⟩ := orderLayers_spec (filledLayers_joined hsort)
  exact ⟨layers, by rw [arrange_eq hsort]; exact except_map_eq_ok.2 ⟨layers, hlayers, rfl⟩, hsame⟩

/-- where tables cannot be sorted, one of them gets no rank -/
theorem arrange_error (h : ¬ Sortable ids links) : ∃ id ∈ ids, arrange ids links = .error (.table id) := by
  obtain ⟨e, he, hfail⟩ := assignRanks_error h
  refine ⟨e.1, (breakCycles_linkEdges_simple ids links e he).1, ?_⟩
  simp only [arrange, hfail]
  rfl

/-- **Arranged layers are proper.** Of tables with different ids, whatever the links, the layers that are filled are a
layering. However their nodes are ordered, all neighbours are found when crossings are counted and when nodes are
reordered downwards or upwards; so the tables are arranged, in these layers. -/
theorem arrange_layered (hids : ids.Nodup) (links : List (ι × ι)) :
    Layering ids (breakCycles ids (linkEdges ids links)) (rowOf ids links) (cutEdges ids links)
        (filledLayers ids links) ∧
      (∀ layers, Rearranged layers (filledLayers ids links) →
        (∃ crossings, countCrossings (successors (cutEdges ids links).edges) layers = .ok crossings) ∧
        ∀ down, ∃ swept, sweepOnce (predecessors (cutEdges ids links).edges) (successors (cutEdges ids links).edges)
          down layers = .ok swept ∧ Rearranged swept (filledLayers ids links)) ∧
      ∃ layers, arrange ids links = .ok (layers, (cutEdges ids links).edges) ∧
        Rearranged layers (filledLayers ids links) := by
  have hsort := sortable_of_nodup hids links
  refine ⟨filledLayers_layering hsort, fun layers hsame => ?_, arrange_spec hsort⟩
  have hjoined := Joined.rearranged (filledLayers_joined hsort) hsame
  refine ⟨countCrossings_ok _ (hjoined.imp fun _ _ hj => hj.1), fun down => ?_⟩
  obtain ⟨swept, hswept, hsame'⟩ := sweepOnce_spec hjoined down
  exact ⟨swept, hswept, hsame'.trans hsame⟩

/-- visits lead from orders to people, and orders lead to people directly as well -/
def visitLinks : List (String × String) := [("orders", "visits"), ("visits", "people"), ("orders", "people")]

def visitTables : List String := ["people", "orders", "visits"]

/-- the direct edge gets a bend beside the visits -/
theorem arrange_layered_visits :
    visitTables.Nodup ∧
      Layering visitTables (breakCycles visitTables (linkEdges visitTables visitLinks)) (rowOf visitTables visitLinks)
        (cutEdges visitTables visitLinks) (filledLayers visitTables visitLinks) ∧
      filledLayers visitTables visitLinks = [[.table "orders"], [.table "visits", .bend 0], [.table "people"]] ∧
      ∃ layers, arrange visitTables visitLinks = .ok (layers, [(.table "orders", .table "visits"),
        (.table "visits", .table "people"), (.table "orders", .bend 0), (.bend 0, .table "people")]) := by
  have hids : visitTables.Nodup := by decide
  have hcut : (cutEdges visitTables visitLinks).edges = [(.table "orders", .table "visits"),
      (.table "visits", .table "people"), (.table "orders", .bend 0), (.bend 0, .table "people")] := by decide +kernel
  obtain ⟨hlayering, -, layers, harranged, -⟩ := arrange_layered hids visitLinks
  rw [hcut] at harranged
  exact ⟨hids, hlayering, by decide +kernel, layers, harranged⟩

end Crowfoot.Layout

/-! ## Drawings -/

namespace Crowfoot

namespace Layout

variable {ι : Type} [DecidableEq ι]
variable {κ : Type} [Coordinate κ]

theorem snap_error {x : κ} {c : NotFinite} (h : snap x = .error c) : ∃ y : κ, Coordinate.floor y = .error c :=
  ⟨_, except_map_eq_error.1 h⟩

theorem cornerOf_error {xs ys : Rows (Node ι) κ} {height : Node ι → Int} {left top : κ} {n : Node ι} {c : NotFinite}
    (h : cornerOf xs ys height left top n = .error c) : ∃ y : κ, Coordinate.floor y = .error c := by
  rcases except_bind_eq_error.1 h with hx | ⟨x, -, h⟩
  · exact snap_error hx
  · rcases except_bind_eq_error.1 h with hy | ⟨y, -, h⟩
    · exact snap_error hy
    · cases h

/-- **Drawings exist.** Of boxes whose tables can be sorted there is a drawing, unless some coordinate has no integer
part. -/
theorem draw_error {boxes : List (Box ι)} {links : List (ι × ι)} (hsort : Sortable (boxes.map (·.id)) links)
    {fault : Fault ι} (h : draw κ boxes links = .error fault) : ∃ (c : NotFinite) (x : κ), Coordinate.floor x = .error c ∧
      fault = .notFinite c := by
  obtain ⟨layers, hdrawn, -⟩ := arrange_spec hsort
  unfold draw at h
  simp only [hdrawn, except_mapError_ok, except_ok_bind] at h
  obtain ⟨c, hc, rfl⟩ := except_mapError_eq_error.1 h
  obtain ⟨id, -, hid⟩ := except_mapM_eq_error hc
  rcases except_bind_eq_error.1 hid with hcorner | ⟨x, -, hx⟩
  · obtain ⟨y, hy⟩ := cornerOf_error hcorner
    exact ⟨c, y, hy, rfl⟩
  · cases hx

end Layout

theorem Schema.drawing_error {κ : Type} [Coordinate κ] {s : Schema κ} (hids : (s.tables.map (·.id)).Nodup)
    {fault : Layout.Fault String} (h : s.drawing = .error fault) :
    ∃ (c : NotFinite) (x : κ), Coordinate.floor x = .error c ∧ fault = .notFinite c := by
  unfold Schema.drawing at h
  split_ifs at h
  exact Layout.draw_error (Layout.sortable_of_nodup (by rw [List.map_map]; exact hids) _) h

end Crowfoot
