import Crowfoot.Proofs.Outcome
import Crowfoot.Proofs.Schema.Counting
import Crowfoot.Proofs.Schema.Reference
import Crowfoot.Action.Apply

/-
Runs of actions keep every relationship between columns that exist.

- `KeepsEnds`: what is asked of an action. Only an update that gives a relationship ends of the caller's can lead
  nowhere.
- `Inv`: the schema is intact and the source of ids is ahead of it. `sourceOfLink_spec` says what a link by names finds
  or makes, `apply_inv` keeps the invariant over one action, with one case for each kind, and `run_inv` over a run.
- `run_intact`: after every number of actions all ends resolve, and no issue says that one is missing.
-/

namespace Crowfoot

open IdSupply

variable {κ σ : Type}

theorem Schema.columnNamed?_mem {s : Schema κ} {tableName columnName : String} {t : Table κ} {c : Column}
    (h : s.columnNamed? tableName columnName = some (t, c)) : t ∈ s.tables ∧ c ∈ t.columns := by
  simp only [Schema.columnNamed?, Option.bind_eq_bind, Option.bind_eq_some_iff] at h
  obtain ⟨u, hu, d, hd, heq⟩ := h
  cases heq
  exact ⟨List.mem_of_find?_eq_some hu, List.mem_of_find?_eq_some hd⟩

theorem Schema.columnNamed?_resolves {s : Schema κ} {tableName columnName : String} {t : Table κ} {c : Column}
    (h : s.columnNamed? tableName columnName = some (t, c)) : s.Resolves ⟨t.id, c.id⟩ :=
  Schema.resolves_of_mem (Schema.columnNamed?_mem h).1 (Schema.columnNamed?_mem h).2

namespace Action

/-- the action gives no relationship another end -/
def KeepsEnds : Action → Prop
  | updateRelationship _ update => update.source = none ∧ update.target = none
  | _ => True

variable [IdSupply σ]

/-- an intact schema beside a source that will hand out none of its ids -/
structure Inv (s : Schema κ) (ids : σ) : Prop where
  ahead : Ahead s.allIds ids
  intact : s.Intact

variable {s : Schema κ} {ids : σ}

/-! ## Edits -/

theorem Inv.addTable (h : Inv s ids) (name : String) (position : Position κ) (specs : List ColumnSpec) :
    Inv (s.addTable name position specs ids).1 (s.addTable name position specs ids).2 :=
  ⟨h.ahead.addTable name position specs,
    h.intact.keeps (s.addTable_keeps name position specs ids) (List.Subset.refl _)⟩

theorem Inv.addColumn (h : Inv s ids) (tableId : String) (spec : ColumnSpec) :
    Inv (s.addColumn tableId spec ids).1 (s.addColumn tableId spec ids).2 := by
  refine ⟨h.ahead.addColumn tableId spec, h.intact.keeps (s.addColumn_keeps tableId spec ids) ?_⟩
  rw [Schema.addColumn_relationships]
  exact List.Subset.refl _

theorem Inv.updateTable (h : Inv s ids) (tableId : String) (u : TableUpdate κ) : Inv (s.updateTable tableId u) ids :=
  ⟨h.ahead.subperm (s.updateTable_allIds tableId u),
    h.intact.keeps (s.updateTable_keeps tableId u) (List.Subset.refl _)⟩

theorem Inv.updateColumn (h : Inv s ids) (tableId columnId : String) (u : ColumnUpdate) :
    Inv (s.updateColumn tableId columnId u) ids :=
  ⟨h.ahead.subperm (s.updateColumn_allIds tableId columnId u),
    h.intact.keeps (s.updateColumn_keeps tableId columnId u) (List.Subset.refl _)⟩

/-- an update that sets no end leaves both ends of every relationship -/
theorem Inv.updateRelationship (h : Inv s ids) (relationshipId : String) {u : RelationshipUpdate}
    (hsource : u.source = none) (htarget : u.target = none) : Inv (s.updateRelationship relationshipId u) ids := by
  refine ⟨by rw [Schema.updateRelationship_allIds]; exact h.ahead, fun r hr => ?_⟩
  obtain ⟨type, source, target⟩ := u
  cases hsource
  cases htarget
  obtain ⟨r', hr', rfl⟩ := List.mem_map.1 hr
  split_ifs <;> exact h.intact r' hr'

theorem Inv.removeRelationship (h : Inv s ids) (relationshipId : String) :
    Inv (s.removeRelationship relationshipId) ids :=
  ⟨h.ahead.subperm (s.removeRelationship_allIds relationshipId),
    h.intact.keeps (Schema.Keeps.refl s) (List.filter_subset_self _)⟩

/-! ## Links by name -/

/-- what a link is to start from is a column of the schema as it is then, and no end is lost on the way -/
theorem sourceOfLink_spec (h : Ahead s.allIds ids) (link : NamedLink) (target : Column) {found : Applied κ σ}
    {source : Option (Table κ × Column)} (hfound : s.sourceOfLink link target ids = (found, source)) :
    Ahead found.schema.allIds found.ids ∧ Schema.Keeps s found.schema ∧
      found.schema.relationships = s.relationships ∧
      ∀ e ∈ source, found.schema.Resolves ⟨e.1.id, e.2.id⟩ := by
  unfold Schema.sourceOfLink at hfound
  split at hfound
  · rename_i t c hnamed
    have hresolves := Schema.columnNamed?_resolves hnamed
    split_ifs at hfound
    · cases hfound
      exact ⟨h, Schema.Keeps.refl s, rfl, fun _ hend => by cases hend; exact hresolves⟩
    · cases hfound
      have hkeeps := s.updateColumn_keeps t.id c.id ⟨none, none, some (c.constraints ++ [.foreignKey])⟩
      refine ⟨h.subperm (s.updateColumn_allIds _ _ _), hkeeps, rfl, fun _ hend => ?_⟩
      cases hend
      exact hkeeps _ hresolves
  · split at hfound
    · cases hfound
      exact ⟨h, Schema.Keeps.refl s, rfl, fun _ hend => by cases hend⟩
    · rename_i t _
      let spec : ColumnSpec := ⟨link.sourceColumn, target.type, [.foreignKey, .notNull]⟩
      have hahead := h.addColumn t.id spec
      have hkeeps := s.addColumn_keeps t.id spec ids
      have hsame := s.addColumn_relationships t.id spec ids
      -- the name is looked up again, in the schema that has the new column
      dsimp only at hfound
      split at hfound
      · rename_i e hnamed
        cases hfound
        exact ⟨hahead, hkeeps, hsame, fun _ hend => by cases hend; exact Schema.columnNamed?_resolves hnamed⟩
      · cases hfound
        exact ⟨hahead, hkeeps, hsame, fun _ hend => by cases hend⟩

theorem Inv.addNamedLink (h : Inv s ids) (link : NamedLink) :
    Inv (s.addNamedLink link ids).schema (s.addNamedLink link ids).ids := by
  unfold Schema.addNamedLink
  split
  · exact h
  · rename_i targetTable target htarget
    split
    · rename_i found hfound
      obtain ⟨hahead, hkeeps, hsame, -⟩ := sourceOfLink_spec h.ahead link target hfound
      exact ⟨hahead, h.intact.keeps hkeeps (hsame ▸ List.Subset.refl _)⟩
    · rename_i found sourceTable source hfound
      obtain ⟨hahead, hkeeps, hsame, hsource⟩ := sourceOfLink_spec h.ahead link target hfound
      have hintact := h.intact.keeps hkeeps (hsame ▸ List.Subset.refl _)
      exact ⟨hahead.addRelationship _, hintact.addRelationship (hsource _ rfl)
        (hkeeps _ (Schema.columnNamed?_resolves htarget)) _⟩

theorem Inv.addNamedLinks (h : Inv s ids) (links : List NamedLink) :
    Inv (s.addNamedLinks links ids).schema (s.addNamedLinks links ids).ids := by
  have hfold : ∀ a : Applied κ σ, Inv a.schema a.ids → ∀ links : List NamedLink,
      let after := links.foldl (fun a link =>
        let next := a.schema.addNamedLink link a.ids
        { next with warnings := a.warnings ++ next.warnings }) a
      Inv after.schema after.ids := by
    intro a ha links
    induction links generalizing a with
    | nil => exact ha
    | cons link links ih => exact ih _ (ha.addNamedLink link)
  exact hfold ⟨s, ids, []⟩ h links

theorem Inv.addPlacedTables (h : Inv s ids) {place : Placer κ} (ts : List NewTable) {r : Schema κ × σ}
    (hr : Schema.addPlacedTables place ts s ids = .ok r) : Inv r.1 r.2 := by
  induction ts generalizing s ids with
  | nil => cases hr; exact h
  | cons t ts ih =>
    obtain ⟨position, -, hrest⟩ := except_bind_eq_ok.1 hr
    exact ih (h.addTable t.name position t.columns) hrest

/-! ## Runs -/

variable [Coordinate κ] {place : Placer κ}

theorem Inv.junction (h : Inv s ids) (idA idB : String) :
    Inv (s.junction idA idB ids).1 (s.junction idA idB ids).2 :=
  ⟨h.ahead.junction idA idB, h.intact.junction h.ahead idA idB⟩

theorem apply_inv (h : Inv s ids) (a : Action) (ha : a.KeepsEnds) {after : Applied κ σ}
    (hafter : a.apply place s ids = .ok after) : Inv after.schema after.ids := by
  cases a with
  | createTable name =>
    obtain ⟨r, hr, rfl⟩ := except_map_eq_ok.1 hafter
    exact h.addPlacedTables _ hr
  | createTableWithColumns t =>
    obtain ⟨r, hr, rfl⟩ := except_map_eq_ok.1 hafter
    exact h.addPlacedTables _ hr
  | createMultipleTables ts =>
    obtain ⟨r, hr, rfl⟩ := except_map_eq_ok.1 hafter
    exact h.addPlacedTables _ hr
  | renameTable table newName =>
    simp only [apply] at hafter
    split at hafter <;> cases hafter
    · exact h
    · exact h.updateTable _ _
  | deleteTable table =>
    simp only [apply] at hafter
    split at hafter <;> cases hafter
    · exact h
    · exact ⟨h.ahead.subperm (s.removeTable_allIds _), h.intact.removeTable _⟩
  | addColumn table column =>
    simp only [apply] at hafter
    split at hafter <;> cases hafter
    · exact h
    · exact h.addColumn _ _
  | updateColumn table column update =>
    simp only [apply] at hafter
    split at hafter <;> cases hafter
    · exact h
    · exact h.updateColumn _ _ _
  | deleteColumn table column =>
    simp only [apply] at hafter
    split at hafter <;> cases hafter
    · exact h
    · exact ⟨h.ahead.subperm (s.removeColumn_allIds _ _), h.intact.removeColumn _ _⟩
  | addRelationship link => cases hafter; exact h.addNamedLink link
  | addMultipleRelationships links => cases hafter; exact h.addNamedLinks links
  | updateRelationship relationshipId update => cases hafter; exact h.updateRelationship relationshipId ha.1 ha.2
  | deleteRelationship relationshipId => cases hafter; exact h.removeRelationship relationshipId
  | deleteAllRelationships => cases hafter; exact ⟨h.ahead.subperm s.removeAllRelationships_allIds, nofun⟩
  | generateJunctionTable source target =>
    simp only [apply] at hafter
    split at hafter <;> cases hafter
    · exact h.junction _ _
    · exact h
  | resetSchema => cases hafter; exact ⟨h.ahead.subperm (List.nil_subperm), nofun⟩
  | undo steps => cases hafter; exact h
  | redo steps => cases hafter; exact h

theorem step_inv (h : Inv s ids) (a : Action) (ha : a.KeepsEnds) :
    Inv (step place (s, ids) a).1 (step place (s, ids) a).2 := by
  unfold step
  split
  · rename_i after hafter
    exact apply_inv h a ha hafter
  · exact h

theorem run_inv (h : Inv s ids) (as : List Action) (has : ∀ a ∈ as, a.KeepsEnds) :
    Inv (run place (s, ids) as).1 (run place (s, ids) as).2 := by
  induction as generalizing s ids with
  | nil => exact h
  | cons a as ih =>
    exact ih (step_inv h a (has a List.mem_cons_self)) fun a' ha' => has a' (List.mem_cons_of_mem a ha')

/-- **Actions leave no end without its column.** From an intact schema with different ids, and with a source that hands
out different ids and none of the schema's, all ends resolve after every number of actions of a run, whatever names
the actions use; so no issue is about a table or column that a relationship misses. -/
theorem run_intact (place : Placer κ) (s : Schema κ) (ids : σ) (hnodup : s.allIds.Nodup) (hs : s.Intact)
    (hids : Fresh s.allIds ids) (as : List Action) (has : ∀ a ∈ as, a.KeepsEnds) (n : ℕ) :
    (run place (s, ids) (as.take n)).1.Intact ∧ ∀ side id tableName,
      .missingTable side id ∉ (run place (s, ids) (as.take n)).1.issues ∧
      .missingColumn side id tableName ∉ (run place (s, ids) (as.take n)).1.issues := by
  have hinv : Inv (run place (s, ids) (as.take n)).1 (run place (s, ids) (as.take n)).2 :=
    run_inv ⟨⟨hnodup, hids⟩, hs⟩ (as.take n) fun a ha => has a (List.mem_of_mem_take ha)
  exact ⟨hinv.intact, hinv.intact.missing_notMem hinv.ahead.nodup⟩

/-- what customers have ordered -/
def orders : Schema ℚ :=
  ⟨1, [⟨"t_1", "customers", ⟨0, 0⟩, [⟨"c_2", "id", .integer, [.primaryKey, .notNull]⟩]⟩,
    ⟨"t_3", "orders", ⟨300, 0⟩, [⟨"c_4", "customer_id", .integer, [.foreignKey]⟩]⟩],
    [⟨"r_5", ⟨"t_3", "c_4"⟩, ⟨"t_1", "c_2"⟩, .oneToMany⟩]⟩

/-- a source that knows the ids of `orders` -/
def ordersIds : Counting := ⟨"", 0, orders.allIds⟩

/-- a link makes the column that it starts from, two tables are joined, and what is referred to is deleted -/
def ordersActions : List Action :=
  [createMultipleTables [⟨"items", []⟩, ⟨"shops", []⟩],
    addRelationship ⟨"Items", "order", "ORDERS", "customer_id", .manyToMany⟩,
    generateJunctionTable "items" "shops", updateRelationship "r_5" ⟨some .oneToOne, none, none⟩,
    deleteColumn "shops" "id", deleteTable "orders"]

theorem run_intact_orders :
    orders.allIds.Nodup ∧ orders.Intact ∧ Fresh orders.allIds ordersIds ∧ (∀ a ∈ ordersActions, a.KeepsEnds) ∧
      (run (placeNear Position.origin) (orders, ordersIds) (ordersActions.take 6)).1.Intact := by
  have hnodup : orders.allIds.Nodup := by decide
  have hs : orders.Intact := by simp [Schema.Intact, Schema.Resolves, orders]
  have hids : Fresh orders.allIds ordersIds := Counting.fresh_of_subset (List.Subset.refl _)
  have has : ∀ a ∈ ordersActions, a.KeepsEnds := by simp [ordersActions, KeepsEnds]
  exact ⟨hnodup, hs, hids, has,
    (run_intact (placeNear Position.origin) orders ordersIds hnodup hs hids ordersActions has 6).1⟩

end Action

end Crowfoot
