import Crowfoot.Editing.Operation
import Crowfoot.Proofs.Schema.Identity

/-
Edits of different tables commute, also where ids are used twice. Every edit that names a table changes the first table
with that id or takes out all of them, and leaves relationships out; which ones depends on the first table with the id
only. None of this is changed by an edit of the tables with another id.

- `TableEdit`: the two things that become of the tables. `TableEdit.comm`: for different ids their order is free.
- `Schema.EditsOnly`: an edit of the tables with one id, as a whole. Each of the five edits is one.
- `Operation.apply_comm`: two edits; `Operation.run_comm`: two runs of edits.
-/

namespace Crowfoot

variable {κ σ : Type}

/-! ## Lists of tables -/

/-- what becomes of all tables when those with one id are edited: the first of them is changed and keeps its id, or all
of them are taken out -/
inductive TableEdit (id : String) : (List (Table κ) → List (Table κ)) → Prop where
  | change {f : Table κ → Table κ} (hf : ∀ t, (f t).id = t.id) : TableEdit id (mapFirst (·.id = id) f)
  | takeOut : TableEdit id (List.filter (·.id ≠ id))

namespace TableEdit

variable {id id' : String} {act act' : List (Table κ) → List (Table κ)}

theorem comm (h : TableEdit id act) (h' : TableEdit id' act') (hne : id ≠ id') (ts : List (Table κ)) :
    act (act' ts) = act' (act ts) := by
  cases h with
  | change hf =>
    cases h' with
    | change hg =>
      refine mapFirst_comm (fun t ht => ?_) (fun t => by rw [hf t]) (fun t => by rw [hg t]) ts
      simpa [of_decide_eq_true ht] using hne
    | takeOut =>
      refine (filter_mapFirst (fun t ht => ?_) ts).symm
      simpa [hf t, of_decide_eq_true ht] using hne
  | takeOut =>
    cases h' with
    | change hg =>
      refine filter_mapFirst (fun t ht => ?_) ts
      simpa [hg t, of_decide_eq_true ht] using hne.symm
    | takeOut => exact List.filter_comm _ _ ts

/-- another id still means the table that it meant -/
theorem find? (h : TableEdit id act) (hne : id ≠ id') (ts : List (Table κ)) :
    (act ts).find? (·.id = id') = ts.find? (·.id = id') := by
  cases h with
  | change hf =>
    refine find?_mapFirst (fun t ht => ?_) (fun t => by rw [hf t]) ts
    simpa [of_decide_eq_true ht] using hne
  | takeOut =>
    rw [List.find?_filter]
    congr 1
    funext t
    by_cases ht : t.id = id'
    · simp [ht, Ne.symm hne]
    · simp [ht]

end TableEdit

/-! ## Schemas -/

namespace Schema

/-- an edit of the tables with one id; of relationships some may go, and the first table with the id, or that there is
none, decides which -/
def EditsOnly (id : String) (edit : Schema κ → Schema κ) : Prop :=
  ∃ (act : List (Table κ) → List (Table κ)) (keep : Option (Table κ) → Relationship → Bool), TableEdit id act ∧
    ∀ s, edit s = { s with tables := act s.tables, relationships := s.relationships.filter (keep (s.table? id)) }

theorem EditsOnly.comm {id id' : String} {edit edit' : Schema κ → Schema κ} (h : EditsOnly id edit)
    (h' : EditsOnly id' edit') (hne : id ≠ id') (s : Schema κ) : edit (edit' s) = edit' (edit s) := by
  obtain ⟨act, keep, hact, hedit⟩ := h
  obtain ⟨act', keep', hact', hedit'⟩ := h'
  have hfound : (edit' s).table? id = s.table? id := by
    rw [hedit']
    exact hact'.find? hne.symm s.tables
  have hfound' : (edit s).table? id' = s.table? id' := by
    rw [hedit]
    exact hact.find? hne s.tables
  rw [hedit (edit' s), hedit' (edit s), hfound, hfound', hedit, hedit']
  dsimp only
  rw [hact.comm hact' hne, List.filter_comm]

variable (tableId : String)

theorem mapTable_editsOnly {f : Table κ → Table κ} (hf : ∀ t, (f t).id = t.id) :
    EditsOnly tableId fun s => s.mapTable tableId f := by
  refine ⟨_, fun _ _ => true, TableEdit.change hf, fun s => ?_⟩
  simp only [mapTable, List.filter_true]

theorem removeTable_editsOnly : EditsOnly tableId fun s : Schema κ => s.removeTable tableId := by
  refine ⟨_, fun found r => found.isNone || !r.touchesTable tableId, TableEdit.takeOut, fun s => ?_⟩
  cases hfind : s.table? tableId with
  | none =>
    -- relationships to a table that does not exist stay
    have hnone : s.tables.filter (·.id ≠ tableId) = s.tables := by
      refine List.filter_eq_self.2 fun t ht => ?_
      simpa using List.find?_eq_none.1 hfind t ht
    simp only [removeTable, hfind, Option.isNone_none, Bool.true_or, List.filter_true, hnone]
  | some t => simp only [removeTable, hfind, Option.isNone_some, Bool.false_or]

theorem removeColumn_editsOnly (columnId : String) :
    EditsOnly tableId fun s : Schema κ => s.removeColumn tableId columnId := by
  refine ⟨_, fun found r => (found.bind (·.column? columnId)).isNone || !r.touchesColumn tableId columnId,
    TableEdit.change (f := fun t => { t with columns := t.columns.filter (·.id ≠ columnId) }) fun _ => rfl,
    fun s => ?_⟩
  cases hfind : (s.table? tableId).bind (·.column? columnId) with
  | none =>
    have hsame : mapFirst (·.id = tableId) (fun t : Table κ => { t with columns := t.columns.filter (·.id ≠ columnId) })
        s.tables = s.tables := by
      refine mapFirst_eq_self fun t ht => ?_
      have hfound : s.table? tableId = some t := ht
      rw [hfound, Option.bind_some] at hfind
      have hcolumns : t.columns.filter (·.id ≠ columnId) = t.columns := by
        refine List.filter_eq_self.2 fun c hc => ?_
        simpa using List.find?_eq_none.1 hfind c hc
      rw [hcolumns]
    simp only [removeColumn, hfind, Option.isNone_none, Bool.true_or, List.filter_true, hsame]
  | some c => simp only [removeColumn, hfind, mapTable, Option.isNone_some, Bool.false_or]

end Schema

/-! ## Operations -/

namespace Operation

/-- the table that an edit of a table or of its columns names -/
def edited? : Operation κ → Option String
  | updateTable tableId _ => some tableId
  | removeTable tableId => some tableId
  | updateColumn tableId _ _ => some tableId
  | removeColumn tableId _ => some tableId
  | reorderColumns tableId _ _ => some tableId
  | _ => none

variable [Coordinate κ] [IdSupply σ] {o o' : Operation κ} {t u : String}

/-- an edit of a table edits the tables with that id only, always succeeds, and draws no ids -/
theorem apply_edited (h : o.edited? = some t) :
    ∃ edit, Schema.EditsOnly t edit ∧ ∀ (s : Schema κ) (ids : σ), o.apply s ids = .ok (edit s, ids) := by
  cases o with
  | updateTable tableId update =>
    cases h
    exact ⟨_, Schema.mapTable_editsOnly t (f := update.apply) fun _ => rfl, fun _ _ => rfl⟩
  | removeTable tableId =>
    cases h
    exact ⟨_, Schema.removeTable_editsOnly t, fun _ _ => rfl⟩
  | updateColumn tableId columnId update =>
    cases h
    exact ⟨_, Schema.mapTable_editsOnly t fun v => v.updateColumn_id columnId update, fun _ _ => rfl⟩
  | removeColumn tableId columnId =>
    cases h
    exact ⟨_, Schema.removeColumn_editsOnly t columnId, fun _ _ => rfl⟩
  | reorderColumns tableId source target =>
    cases h
    exact ⟨_, Schema.mapTable_editsOnly t fun v => v.reorderColumns_id source target, fun _ _ => rfl⟩
  | addTable | addColumn | addRelationship | updateRelationship | removeRelationship | removeAllRelationships |
    applyPositions | relayout | junction => cases h

/-- two edits of different tables -/
def Apart (o o' : Operation κ) : Prop := ∃ t u, o.edited? = some t ∧ o'.edited? = some u ∧ t ≠ u

theorem step_comm (h : Apart o o') (state : Schema κ × σ) : step (step state o) o' = step (step state o') o := by
  obtain ⟨t, u, ho, ho', hne⟩ := h
  obtain ⟨edit, hedit, happly⟩ := apply_edited (σ := σ) ho
  obtain ⟨edit', hedit', happly'⟩ := apply_edited (σ := σ) ho'
  simp only [step, happly, happly', hedit.comm hedit' hne]

theorem run_step_comm {os : List (Operation κ)} (h : ∀ o' ∈ os, Apart o o') (state : Schema κ × σ) :
    run (step state o) os = step (run state os) o := by
  induction os generalizing state with
  | nil => rfl
  | cons o' os ih =>
    obtain ⟨ho', hos⟩ := List.forall_mem_cons.1 h
    calc run (step state o) (o' :: os)
        = run (step (step state o) o') os := rfl
      _ = run (step (step state o') o) os := by rw [step_comm ho']
      _ = step (run (step state o') os) o := ih hos _
      _ = step (run state (o' :: os)) o := rfl

/-- two runs of edits, no two of one table, can be made in either order -/
theorem run_comm {os os' : List (Operation κ)} (h : ∀ o ∈ os, ∀ o' ∈ os', Apart o o') (state : Schema κ × σ) :
    run (run state os) os' = run (run state os') os := by
  induction os generalizing state with
  | nil => rfl
  | cons o os ih =>
    obtain ⟨ho, hos⟩ := List.forall_mem_cons.1 h
    calc run (run state (o :: os)) os'
        = run (run (step state o) os) os' := rfl
      _ = run (run (step state o) os') os := ih hos _
      _ = run (step (run state os') o) os := by rw [run_step_comm ho]
      _ = run (run state os') (o :: os) := rfl

/-- **Edits of different tables commute.** Of any schema, in which ids may be used twice, and any two edits that name
different tables, whatever else they are given: either of them can be made first, neither fails, and both orders lead to
the same schema. -/
theorem apply_comm (s : Schema κ) (ids : σ) (ho : o.edited? = some t) (ho' : o'.edited? = some u) (hne : t ≠ u) :
    ∃ first first' both : Schema κ,
      o.apply s ids = .ok (first, ids) ∧ o'.apply first ids = .ok (both, ids) ∧
      o'.apply s ids = .ok (first', ids) ∧ o.apply first' ids = .ok (both, ids) := by
  obtain ⟨edit, hedit, happly⟩ := apply_edited (σ := σ) ho
  obtain ⟨edit', hedit', happly'⟩ := apply_edited (σ := σ) ho'
  refine ⟨edit s, edit' s, edit' (edit s), happly s ids, happly' _ ids, happly' s ids, ?_⟩
  rw [happly, hedit.comm hedit' hne]

end Operation

/-- two shifts with one id, and people who work in them -/
def rota : Schema ℚ :=
  ⟨1, [⟨"t_1", "mornings", ⟨0, 0⟩, [⟨"c_1", "id", .integer, [.primaryKey]⟩]⟩,
      ⟨"t_2", "people", ⟨0, 300⟩, [⟨"c_2", "id", .integer, [.primaryKey]⟩, ⟨"c_3", "shift", .integer, []⟩]⟩,
      ⟨"t_1", "evenings", ⟨0, 600⟩, []⟩],
    [⟨"r_1", ⟨"t_2", "c_3"⟩, ⟨"t_1", "c_1"⟩, .oneToMany⟩, ⟨"r_2", ⟨"t_2", "c_3"⟩, ⟨"t_2", "c_2"⟩, .oneToOne⟩,
      ⟨"r_3", ⟨"t_2", "c_2"⟩, ⟨"t_2", "c_2"⟩, .oneToOne⟩]⟩

theorem Operation.apply_comm_rota :
    (removeTable "t_1" : Operation ℚ).edited? = some "t_1" ∧
      (removeColumn "t_2" "c_3" : Operation ℚ).edited? = some "t_2" ∧ "t_1" ≠ "t_2" ∧
      ∃ first first' both : Schema ℚ,
        (removeTable "t_1").apply rota (⟨0⟩ : Stamping) = .ok (first, ⟨0⟩) ∧
        (removeColumn "t_2" "c_3").apply first (⟨0⟩ : Stamping) = .ok (both, ⟨0⟩) ∧
        (removeColumn "t_2" "c_3").apply rota (⟨0⟩ : Stamping) = .ok (first', ⟨0⟩) ∧
        (removeTable "t_1").apply first' (⟨0⟩ : Stamping) = .ok (both, ⟨0⟩) ∧
        both.tables.map (fun t => (t.name, t.columns.map (·.id))) = [("people", ["c_2"])] ∧
        both.relationships.map (·.id) = ["r_3"] := by
  have hshift : (removeTable "t_1" : Operation ℚ).edited? = some "t_1" := rfl
  have hpeople : (removeColumn "t_2" "c_3" : Operation ℚ).edited? = some "t_2" := rfl
  have hne : "t_1" ≠ "t_2" := by decide
  obtain ⟨first, first', both, hfirst, hthen, hfirst', hthen'⟩ :=
    apply_comm rota (⟨0⟩ : Stamping) hshift hpeople hne
  obtain rfl : rota.removeTable "t_1" = first := congrArg Prod.fst (Except.ok.inj hfirst)
  obtain rfl : (rota.removeTable "t_1").removeColumn "t_2" "c_3" = both := congrArg Prod.fst (Except.ok.inj hthen)
  exact ⟨hshift, hpeople, hne, _, first', _, hfirst, hthen, hfirst', hthen', by decide, by decide⟩

end Crowfoot
