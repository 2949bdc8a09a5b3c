import Crowfoot.Proofs.Layout.Renaming.Layers
import Crowfoot.Proofs.Layout.Spacing
import Crowfoot.Proofs.Schema.Renaming

/-
Other names for the tables of a drawing, from ordered layers to corners on the grid. Coordinates are computed from places,
widths and heights, and a name only says where a coordinate is kept.

- `settleRow_map`, `horizontal_map`, `verticalFrom_map`: the coordinates of all nodes.
- `arrange_map`, `draw_map`: a drawing as a whole. Of the links only the edges matter that they make.
- `linkEdges_within`: links that lead to no table make none, and so their ends may have any names that no table has.
- `Schema.drawing_renamed`: a schema under new names is drawn as under its old ones.
-/

namespace Crowfoot

namespace Layout

variable {α β κ : Type} {f : α → β}

/-- coordinates of nodes under new names -/
abbrev renameRows (f : α → β) (rows : Rows α κ) : Rows β κ := rows.map (List.map (Prod.map f id))

/-! ## Coordinates -/

section Separation

variable {separation : α → α → κ} {separation' : β → β → κ} (hsame : ∀ a b, separation' (f a) (f b) = separation a b)
include hsame

theorem distances_map (ns : List α) : distances separation' (ns.map f) = distances separation ns := by
  induction ns with
  | nil => rfl
  | cons a ns ih =>
    cases ns with
    | nil => rfl
    | cons b rest =>
      simp only [List.map_cons] at ih ⊢
      rw [distances, distances, hsame, ih]

variable [Coordinate κ]

theorem packedFrom_map (last : α) (x : κ) (ns : List α) :
    packedFrom separation' (f last) x (ns.map f) = packedFrom separation last x ns := by
  induction ns generalizing last x with
  | nil => rfl
  | cons n rest ih =>
    simp only [List.map_cons, packedFrom, hsame, ih]

theorem packed_map (ns : List α) :
    packed separation' (ns.map f) = (packed separation ns).map (Prod.map f id) := by
  cases ns with
  | nil => rfl
  | cons n rest =>
    simp only [List.map_cons, packed, packedFrom_map hsame]
    rw [← List.map_cons, List.zip_map_left]

end Separation

variable [Coordinate κ]

theorem verticalFrom_map {height : α → ℤ} {height' : β → ℤ} (hsame : ∀ n, height' (f n) = height n) (top : κ)
    (layers : List (List α)) :
    verticalFrom height' top (layers.map (List.map f)) = renameRows f (verticalFrom height top layers) := by
  induction layers generalizing top with
  | nil => rfl
  | cons layer rest ih =>
    have hheights : (layer.map f).map height' = layer.map height := by
      rw [List.map_map]
      exact List.map_congr_left fun n _ => hsame n
    simp only [List.map_cons, verticalFrom, hheights, ih, List.map_map, renameRows]
    rfl

variable [DecidableEq α] [DecidableEq β] (hf : Function.Injective f)
include hf

theorem coordinateOf_map (rows : Rows α κ) (n : α) : coordinateOf (renameRows f rows) (f n) = coordinateOf rows n := by
  rw [coordinateOf, coordinateOf, List.findSome?_map]
  congr 2
  funext row
  exact lookup_map hf row n

omit hf [DecidableEq β] in
/-- where a node of a row is drawn to -/
def desiredFor (neighbours : α → List α) (rows : Rows α κ) (p : α × κ) : κ :=
  match (neighbours p.1).map (coordinateOf rows) with
  | [] => p.2
  | xs => median xs

omit hf [DecidableEq β] in
theorem settleRow_eq (separation : α → α → κ) (neighbours : α → List α) (rows : Rows α κ) (r : ℕ) :
    settleRow separation neighbours rows r = rows.set r (((rows[r]?.getD []).map (·.1)).zip
      (placeRow (distances separation ((rows[r]?.getD []).map (·.1)))
        ((rows[r]?.getD []).map (desiredFor neighbours rows)))) :=
  rfl

section Rows

variable {separation : α → α → κ} {separation' : β → β → κ} (hsame : ∀ a b, separation' (f a) (f b) = separation a b)
include hsame

theorem settleRow_map {next : α → List α} {next' : β → List β} (hnext : Follows f next next') (rows : Rows α κ)
    (r : ℕ) : settleRow separation' next' (renameRows f rows) r = renameRows f (settleRow separation next rows r) := by
  have hrow : (renameRows f rows)[r]?.getD [] = (rows[r]?.getD []).map (Prod.map f id) := by
    rw [List.getElem?_map]
    cases rows[r]? <;> rfl
  have hnodes : ((rows[r]?.getD []).map (Prod.map f id)).map (·.1) = ((rows[r]?.getD []).map (·.1)).map f := by
    rw [List.map_map, List.map_map]
    rfl
  have hdesired : ((rows[r]?.getD []).map (Prod.map f id)).map (desiredFor next' (renameRows f rows)) =
      (rows[r]?.getD []).map (desiredFor next rows) := by
    rw [List.map_map]
    refine List.map_congr_left fun (n, x) _ => ?_
    have hnear : (next' (f n)).map (coordinateOf (renameRows f rows)) = (next n).map (coordinateOf rows) := by
      rw [hnext n, List.map_map]
      exact List.map_congr_left fun m _ => coordinateOf_map hf rows m
    simp only [Function.comp_apply, Prod.map_apply, desiredFor, hnear, id]
  rw [settleRow_eq, settleRow_eq, hrow, hnodes, distances_map hsame, hdesired, List.zip_map_left, renameRows, renameRows,
    List.map_set]

theorem settleRows_map {above below : α → List α} {above' below' : β → List β} (habove : Follows f above above')
    (hbelow : Follows f below below') (down : Bool) (rows : Rows α κ) :
    settleRows separation' above' below' down (renameRows f rows) =
      renameRows f (settleRows separation above below down rows) := by
  rw [settleRows, settleRows, List.length_map]
  split_ifs
  · exact List.foldl_hom (renameRows f) fun rows r => settleRow_map hf hsame habove rows r
  · exact List.foldl_hom (renameRows f) fun rows r => settleRow_map hf hsame hbelow rows r

theorem horizontal_map (edges : List (Edge α)) (layers : List (List α)) :
    horizontal separation' (renameEdges f edges) (layers.map (List.map f)) =
      renameRows f (horizontal separation edges layers) := by
  have hpacked : (layers.map (List.map f)).map (packed separation') = renameRows f (layers.map (packed separation)) := by
    rw [List.map_map, renameRows, List.map_map]
    exact List.map_congr_left fun layer _ => packed_map hsame layer
  rw [horizontal, horizontal, hpacked, settled, settled]
  exact List.foldl_hom (renameRows f) fun rows i =>
    settleRows_map hf hsame (predecessors_map hf edges) (successors_map hf edges) _ rows

end Rows

/-! ## Drawings -/

omit [DecidableEq α] [DecidableEq β] hf in
/-- layers and edges, when tables have new names -/
def renameLayers (f : α → β) (x : List (List (Node α)) × List (Edge (Node α))) :
    List (List (Node β)) × List (Edge (Node β)) :=
  (x.1.map (List.map (Node.map f)), renameEdges (Node.map f) x.2)

/-- the same edges under new names are arranged in the same way -/
theorem arrange_map {ids : List α} {links : List (α × α)} {links' : List (β × β)}
    (hlinks : linkEdges (ids.map f) links' = renameEdges f (linkEdges ids links)) :
    arrange (ids.map f) links' = bimap (Node.map f) (renameLayers f) (arrange ids links) := by
  have hinj := Node.map_injective hf
  rw [arrange, arrange, hlinks]
  simp only [breakCycles_map hf, assignRanks_map hf]
  have hfault : ∀ a : Except α (Ranks α), (bimap f (renameRanks f) a).mapError Node.table =
      bimap (Node.map f) (renameRanks f) (a.mapError Node.table) := bimap_mapError fun _ => rfl
  rw [hfault]
  refine bimap_bind fun ranks => ?_
  generalize hrank : (fun id => ((ranks.lookup id).getD 0).toNat) = rank
  generalize hrank' : (fun id => (((renameRanks f ranks).lookup id).getD 0).toNat) = rank'
  have hsame : ∀ id, rank' (f id) = rank id := fun id => by simp only [← hrank, ← hrank', lookup_map hf]
  have hranks : (ids.map f).map rank' = ids.map rank := by
    rw [List.map_map]
    exact List.map_congr_left fun id _ => hsame id
  have htables : (ids.map f).map Node.table = (ids.map Node.table).map (Node.map f) := by
    rw [List.map_map, List.map_map]
    rfl
  rw [splitEdges_map hsame, hranks, htables]
  have hlayers := fun depth nodes => layersOf_map (Ranked.rankOf_map hsame (splitEdges rank
    (breakCycles ids (linkEdges ids links)))) depth nodes
  simp only [Ranked.map] at hlayers ⊢
  rw [walkOrder_map hinj, hlayers, orderLayers_map hinj]
  exact bimap_bind fun layers => rfl

omit [DecidableEq α] [DecidableEq β] hf in
def Box.map (f : α → β) (b : Box α) : Box β := ⟨f b.id, b.height⟩

omit [DecidableEq α] [DecidableEq β] hf in
/-- why there is no drawing, when tables have new names -/
def Fault.map (f : α → β) : Fault α → Fault β
  | unplaced n => unplaced (n.map f)
  | notFinite c => notFinite c

theorem cornerOf_map {xs ys : Rows (Node α) κ} {height : Node α → ℤ} {height' : Node β → ℤ}
    (hheight : ∀ n, height' (n.map f) = height n) (left top : κ) (n : Node α) :
    cornerOf (renameRows (Node.map f) xs) (renameRows (Node.map f) ys) height' left top (n.map f) =
      cornerOf xs ys height left top n := by
  have hinj := Node.map_injective hf
  have hwidth : (n.map f).width = n.width := by cases n <;> rfl
  rw [cornerOf, cornerOf, coordinateOf_map hinj, coordinateOf_map hinj, hheight, hwidth]

omit hf in
/-- where a drawing begins, given how far its nodes reach in one direction -/
def beginning (rows : Rows (Node α) κ) (extent : Node α → ℤ) : κ :=
  least (rows.flatten.map fun (n, x) => Coordinate.sub x (halfLength (extent n)))

omit hf in
/-- the corners of boxes whose nodes have been arranged -/
def corners (boxes : List (Box α)) (xs ys : Rows (Node α) κ) : Except (Fault α) (List (α × ℤ × ℤ)) :=
  let ids := boxes.map (·.id)
  ((distinct ids).mapM fun id => do
    let (x, y) ← cornerOf xs ys (heightIn boxes) (beginning xs Node.width) (beginning ys (heightIn boxes)) (.table id)
    return (id, x, y)).mapError Fault.notFinite

omit hf in
theorem draw_eq_corners (boxes : List (Box α)) (links : List (α × α)) :
    draw κ boxes links = (arrange (boxes.map (·.id)) links).mapError Fault.unplaced >>= fun x =>
      corners boxes (horizontal Node.separation x.2 x.1) (verticalFrom (heightIn boxes) (Coordinate.ofInt 0 : κ) x.1) :=
  rfl

omit [DecidableEq α] [DecidableEq β] [Coordinate κ] hf in
theorem Node.width_map (n : Node α) : (n.map f).width = n.width := by
  cases n <;> rfl

omit [DecidableEq α] [DecidableEq β] hf in
theorem Node.separation_map (a b : Node α) : (separation (a.map f) (b.map f) : κ) = separation a b := by
  cases a <;> cases b <;> rfl

theorem heightIn_map (boxes : List (Box α)) (n : Node α) :
    heightIn (boxes.map (Box.map f)) (n.map f) = heightIn boxes n := by
  cases n with
  | bend n => rfl
  | table id =>
    have hfind : (fun b => decide (b.id = f id)) ∘ Box.map f = fun b : Box α => decide (b.id = id) := by
      funext b
      simp [Box.map, hf.eq_iff]
    simp only [Node.map, heightIn]
    rw [← List.map_reverse, List.find?_map, hfind, Option.map_map]
    rfl

omit [DecidableEq α] [DecidableEq β] hf in
theorem beginning_map {extent : Node α → ℤ} {extent' : Node β → ℤ} (hsame : ∀ n, extent' (n.map f) = extent n)
    (rows : Rows (Node α) κ) : beginning (renameRows (Node.map f) rows) extent' = beginning rows extent := by
  rw [beginning, beginning, renameRows, ← List.map_flatten, List.map_map]
  congr 1
  refine List.map_congr_left fun (n, x) _ => ?_
  simp only [Function.comp_apply, Prod.map_apply, hsame, id]

theorem corners_map (boxes : List (Box α)) (xs ys : Rows (Node α) κ) :
    corners (boxes.map (Box.map f)) (renameRows (Node.map f) xs) (renameRows (Node.map f) ys) =
      bimap (Fault.map f) (List.map (Prod.map f id)) (corners boxes xs ys) := by
  have hids : (boxes.map (Box.map f)).map (·.id) = (boxes.map (·.id)).map f := by
    rw [List.map_map, List.map_map]
    rfl
  have hheight := heightIn_map hf boxes
  rw [corners, corners, hids]
  dsimp only
  rw [distinct_map hf, beginning_map Node.width_map, beginning_map hheight]
  have hfault : ∀ a : Except NotFinite (List (α × ℤ × ℤ)),
      (bimap id (List.map (Prod.map f id)) a).mapError Fault.notFinite =
        bimap (Fault.map f) (List.map (Prod.map f id)) (a.mapError Fault.notFinite) := bimap_mapError fun _ => rfl
  rw [← hfault]
  refine congrArg (Except.mapError Fault.notFinite) (mapM_bimap _ fun id _ => ?_)
  rw [show Node.table (f id) = (Node.table id).map f from rfl, cornerOf_map hf hheight]
  cases cornerOf xs ys (heightIn boxes) (beginning xs Node.width) (beginning ys (heightIn boxes)) (.table id) <;> rfl

/-- the same edges under new names are drawn in the same way -/
theorem draw_map {boxes : List (Box α)} {links : List (α × α)} {links' : List (β × β)}
    (hlinks : linkEdges ((boxes.map (·.id)).map f) links' = renameEdges f (linkEdges (boxes.map (·.id)) links)) :
    draw κ (boxes.map (Box.map f)) links' =
      bimap (Fault.map f) (List.map (Prod.map f id)) (draw κ boxes links) := by
  have hinj := Node.map_injective hf
  have hids : (boxes.map (Box.map f)).map (·.id) = (boxes.map (·.id)).map f := by
    rw [List.map_map, List.map_map]
    rfl
  have hfault : ∀ a : Except (Node α) (List (List (Node α)) × List (Edge (Node α))),
      (bimap (Node.map f) (renameLayers f) a).mapError Fault.unplaced =
        bimap (Fault.map f) (renameLayers f) (a.mapError Fault.unplaced) := bimap_mapError fun _ => rfl
  rw [draw_eq_corners, draw_eq_corners, hids, arrange_map hf hlinks, hfault]
  refine bimap_bind fun (layers, edges) => ?_
  rw [renameLayers, horizontal_map hinj Node.separation_map, verticalFrom_map (heightIn_map hf boxes), corners_map hf]

/-! ## Links that lead to no table -/

omit hf [DecidableEq β] [Coordinate κ] in
/-- the links both ends of which are among some nodes -/
def within (nodes : List α) (links : List (α × α)) : List ({x // x ∈ nodes} × {x // x ∈ nodes}) :=
  links.filterMap fun e => if h : e.1 ∈ nodes ∧ e.2 ∈ nodes then some (⟨e.1, h.1⟩, ⟨e.2, h.2⟩) else none

omit hf [Coordinate κ] in
/-- a link makes no edge where the new name of one of its ends is that of no node -/
theorem linkEdges_within {nodes : List α} {links : List (α × α)}
    (hends : ∀ e ∈ links, ∀ x ∈ nodes, (f e.1 = f x → e.1 = x) ∧ (f e.2 = f x → e.2 = x)) :
    linkEdges (nodes.map f) (renameEdges f links) =
      linkEdges (nodes.map f) (renameEdges (f ∘ Subtype.val) (within nodes links)) := by
  unfold linkEdges
  congr 1
  induction links with
  | nil => rfl
  | cons e links ih =>
    simp only [List.mem_cons, forall_eq_or_imp] at hends
    have hrest := ih hends.2
    rw [renameEdges, List.map_cons, List.filter_cons, hrest]
    by_cases h : e.1 ∈ nodes ∧ e.2 ∈ nodes
    · have hwithin : within nodes (e :: links) = (⟨e.1, h.1⟩, ⟨e.2, h.2⟩) :: within nodes links :=
        List.filterMap_cons_some (dif_pos h)
      simp only [hwithin, renameEdges, List.map_cons, List.filter_cons]
      rfl
    · have hwithin : within nodes (e :: links) = within nodes links := List.filterMap_cons_none (dif_neg h)
      rw [hwithin, if_neg]
      simp only [Prod.map_fst, Prod.map_snd, Bool.and_eq_true, List.contains_iff_mem, List.mem_map]
      rintro ⟨⟨-, x, hx, hsource⟩, y, hy, htarget⟩
      exact h ⟨(hends.1 x hx).1 hsource.symm ▸ hx, (hends.1 y hy).2 htarget.symm ▸ hy⟩

omit hf [DecidableEq α] [DecidableEq β] [Coordinate κ] in
/-- some boxes, named by the ids that are among theirs -/
def attached (boxes : List (Box α)) : List (Box {x // x ∈ boxes.map (·.id)}) :=
  boxes.attach.map fun b => ⟨⟨b.1.id, List.mem_map_of_mem b.2⟩, b.1.height⟩

omit hf in
/-- names that tell boxes apart draw them in the way in which they are drawn by themselves -/
theorem draw_attached {boxes : List (Box α)} {links : List (α × α)}
    (hids : ∀ b ∈ boxes, ∀ x ∈ boxes.map (·.id) ++ links.flatMap fun e => [e.1, e.2], f x = f b.id → x = b.id) :
    draw κ (boxes.map (Box.map f)) (renameEdges f links) =
      bimap (Fault.map (f ∘ Subtype.val)) (List.map (Prod.map (f ∘ Subtype.val) id))
        (draw κ (attached boxes) (within (boxes.map (·.id)) links)) := by
  have hinj : Function.Injective (f ∘ Subtype.val : {x // x ∈ boxes.map (·.id)} → β) := by
    rintro ⟨x, hx⟩ ⟨y, hy⟩ heq
    obtain ⟨b, hb, rfl⟩ := List.mem_map.1 hy
    exact Subtype.ext (hids b hb x (List.mem_append_left _ hx) heq)
  have hboxes : (attached boxes).map (Box.map (f ∘ Subtype.val)) = boxes.map (Box.map f) := by
    rw [attached, List.map_map]
    exact List.attach_map_val (f := Box.map f)
  have hnodes : ((attached boxes).map (·.id)).map (f ∘ Subtype.val) = (boxes.map (·.id)).map f := by
    simp only [attached, List.map_map]
    exact List.attach_map_val (f := fun b : Box α => f b.id)
  have hends : ∀ e ∈ links, ∀ x ∈ boxes.map (·.id), (f e.1 = f x → e.1 = x) ∧ (f e.2 = f x → e.2 = x) := by
    intro e he x hx
    obtain ⟨b, hb, rfl⟩ := List.mem_map.1 hx
    have hmentioned : ∀ y ∈ [e.1, e.2], f y = f b.id → y = b.id := fun y hy =>
      hids b hb y (List.mem_append_right _ (List.mem_flatMap.2 ⟨e, he, hy⟩))
    exact ⟨hmentioned e.1 (by simp), hmentioned e.2 (by simp)⟩
  rw [← hboxes]
  refine draw_map hinj ?_
  rw [hnodes, linkEdges_within hends, ← hnodes]
  exact linkEdges_map hinj _ _

omit hf in
/-- names that tell boxes apart from each other, and from what links lead to that is no box, change nothing else -/
theorem draw_renamed {boxes : List (Box α)} {links : List (α × α)}
    (hids : ∀ b ∈ boxes, ∀ x ∈ boxes.map (·.id) ++ links.flatMap fun e => [e.1, e.2], f x = f b.id → x = b.id) :
    draw κ (boxes.map (Box.map f)) (renameEdges f links) =
      bimap (Fault.map f) (List.map (Prod.map f id)) (draw κ boxes links) := by
  have hself : draw κ (boxes.map (Box.map id)) (renameEdges id links) =
      bimap (Fault.map (id ∘ Subtype.val)) (List.map (Prod.map (id ∘ Subtype.val) id))
        (draw κ (attached boxes) (within (boxes.map (·.id)) links)) :=
    draw_attached fun _ _ _ _ heq => heq
  have hboxes : boxes.map (Box.map id) = boxes := List.map_id boxes
  have hlinks : renameEdges id links = links := List.map_id links
  rw [hboxes, hlinks] at hself
  have hfault : Fault.map f ∘ Fault.map (id ∘ Subtype.val) =
      Fault.map (f ∘ (Subtype.val : {x // x ∈ boxes.map (·.id)} → α)) := by
    funext fault
    rcases fault with (_ | _) | _ <;> rfl
  rw [draw_attached hids, hself, bimap_bimap, hfault, List.map_comp_map]
  rfl

end Layout

open Layout

/-- **Names do not matter.** A schema whose tables have other ids is drawn as it is under its own: each table gets the
same corner, or what is in the way is the same. -/
theorem Schema.drawing_renamed [Coordinate κ] {s : Schema κ} {ρ : Renaming} (h : s.ToldApart ρ) :
    (s.renamed ρ).drawing = bimap (Fault.map ρ.table) (List.map (Prod.map ρ.table id)) s.drawing := by
  have hboxes : (s.renamed ρ).tables.map Table.box = (s.tables.map Table.box).map (Box.map ρ.table) := by
    simp only [renamed, List.map_map]
    refine List.map_congr_left fun t _ => ?_
    simp [Table.box, Box.map, Table.renamed, Table.height]
  have hlinks : (s.renamed ρ).links = renameEdges ρ.table s.links := by
    simp only [renamed, links, renameEdges, List.map_map]
    rfl
  have hempty : (s.renamed ρ).tables.isEmpty = s.tables.isEmpty := by simp [renamed]
  unfold drawing
  rw [hempty, hboxes, hlinks]
  split_ifs
  · rfl
  · refine draw_renamed fun b hb x hx => ?_
    obtain ⟨t, ht, rfl⟩ := List.mem_map.1 hb
    refine h t ht x ?_
    rw [List.map_map, links, List.flatMap_map] at hx
    exact hx

end Crowfoot
