import Crowfoot.Proofs.Schema.Junction
import Crowfoot.Proofs.Schema.Validity

/-
What creations leave of a schema: tables stay in their places and may get columns more, new tables come after them, and
relationships come after the old ones. All that is new has ids that are drawn for it.

- `Extends`: one schema comes from another in this way, with some new ids.
- `Creates`: the new ids are drawn; `addTable_creates`, `addColumn_creates`, `junction_creates`.
- `Extends.relationshipIssues_eq`: a relationship that mentions none of the new ids has the same issues as before.
- `mentioned_subset_allIds`: a relationship without issues mentions ids of the schema only.
-/

namespace Crowfoot

open IdSupply

variable {κ σ : Type}

/-- the ids that the ends of a relationship mention -/
def Relationship.mentioned (r : Relationship) : List String :=
  [r.source.tableId, r.source.columnId, r.target.tableId, r.target.columnId]

/-- the same table, but for columns with new ids and for what is not said of it in issues -/
structure Table.Widened (new : List String) (t t' : Table κ) : Prop where
  id : t'.id = t.id
  name : t'.name = t.name
  kept : t.columns.map (·.id) ⊆ t'.columns.map (·.id)
  added : t'.columns.map (·.id) ⊆ t.columns.map (·.id) ++ new

namespace Table.Widened

variable {new : List String} {t t' t'' : Table κ}

theorem refl (new : List String) (t : Table κ) : t.Widened new t :=
  ⟨rfl, rfl, List.Subset.refl _, List.subset_append_left _ _⟩

theorem trans (h : t.Widened new t') (h' : t'.Widened new t'') : t.Widened new t'' :=
  ⟨h'.id.trans h.id, h'.name.trans h.name, List.Subset.trans h.kept h'.kept,
    List.Subset.trans h'.added (List.append_subset.2 ⟨h.added, List.subset_append_right _ _⟩)⟩

theorem mono {new' : List String} (h : t.Widened new t') (hsub : new ⊆ new') : t.Widened new' t' :=
  ⟨h.id, h.name, h.kept, List.Subset.trans h.added
    (List.append_subset.2 ⟨List.subset_append_left _ _, List.subset_append_of_subset_right _ hsub⟩)⟩

/-- a column is missing still, or is there still, unless its id is new -/
theorem column?_isNone (h : t.Widened new t') {columnId : String} (hcolumn : columnId ∉ new) :
    (t'.column? columnId).isNone = (t.column? columnId).isNone := by
  have hthere : ∀ u : Table κ, (u.column? columnId).isNone = true ↔ columnId ∉ u.columns.map (·.id) := by
    simp [Table.column?]
  rw [Bool.eq_iff_iff, hthere, hthere, not_iff_not]
  exact ⟨fun hmem => (List.mem_append.1 (h.added hmem)).resolve_right hcolumn, fun hmem => h.kept hmem⟩

end Table.Widened

namespace Schema

/-- the tables in their places, widened, and after them some with new ids -/
inductive TablesExtend (new : List String) : List (Table κ) → List (Table κ) → Prop where
  | added {ts : List (Table κ)} (h : ∀ t ∈ ts, t.id ∈ new) : TablesExtend new [] ts
  | kept {t t' : Table κ} {ts ts' : List (Table κ)} (h : t.Widened new t') (rest : TablesExtend new ts ts') :
    TablesExtend new (t :: ts) (t' :: ts')

namespace TablesExtend

variable {new : List String} {ts ts' ts'' : List (Table κ)}

theorem refl (new : List String) (ts : List (Table κ)) : TablesExtend new ts ts := by
  induction ts with
  | nil => exact added nofun
  | cons t ts ih => exact kept (Table.Widened.refl new t) ih

theorem mono {new' : List String} (h : TablesExtend new ts ts') (hsub : new ⊆ new') : TablesExtend new' ts ts' := by
  induction h with
  | added h => exact added fun t ht => hsub (h t ht)
  | kept h _ ih => exact kept (h.mono hsub) ih

theorem ids_mem (h : TablesExtend new ts ts') (hts : ∀ t ∈ ts, t.id ∈ new) : ∀ t ∈ ts', t.id ∈ new := by
  induction h with
  | added h => exact h
  | kept h _ ih =>
    simp only [List.mem_cons, forall_eq_or_imp] at hts ⊢
    exact ⟨h.id ▸ hts.1, ih hts.2⟩

theorem trans (h : TablesExtend new ts ts') (h' : TablesExtend new ts' ts'') : TablesExtend new ts ts'' := by
  induction h generalizing ts'' with
  | added h => exact added (h'.ids_mem h)
  | kept h _ ih =>
    cases h' with
    | kept h' rest => exact kept (h.trans h') (ih rest)

theorem append (ts : List (Table κ)) {t : Table κ} (ht : t.id ∈ new) : TablesExtend new ts (ts ++ [t]) := by
  induction ts with
  | nil => exact added (by simpa using ht)
  | cons u ts ih => exact kept (Table.Widened.refl new u) ih

theorem mapFirst (p : Table κ → Bool) {f : Table κ → Table κ} (hf : ∀ t : Table κ, t.Widened new (f t))
    (ts : List (Table κ)) : TablesExtend new ts (mapFirst p f ts) := by
  induction ts with
  | nil => exact refl new []
  | cons t ts ih =>
    unfold Crowfoot.mapFirst
    split_ifs
    · exact kept (hf t) (refl new ts)
    · exact kept (Table.Widened.refl new t) ih

/-- by an id that is not new, the same table is found last, as it has become -/
theorem find?_reverse (h : TablesExtend new ts ts') {id : String} (hid : id ∉ new) :
    Option.Rel (Table.Widened new) (ts.reverse.find? (·.id = id)) (ts'.reverse.find? (·.id = id)) := by
  induction h with
  | @added ts h =>
    have hnone : ts.reverse.find? (·.id = id) = none := by
      simp only [List.find?_eq_none, List.mem_reverse, decide_eq_true_eq]
      exact fun t ht heq => hid (heq ▸ h t ht)
    rw [hnone]
    exact Option.Rel.none
  | @kept t t' ts ts' h _ ih =>
    simp only [List.reverse_cons, List.find?_append, List.find?_cons, List.find?_nil, h.id]
    generalize ts.reverse.find? (·.id = id) = found, ts'.reverse.find? (·.id = id) = found' at ih
    cases ih with
    | some hfound => exact Option.Rel.some hfound
    | none =>
      by_cases heq : t.id = id
      · simpa [heq] using Option.Rel.some h
      · simp [heq]

end TablesExtend

/-- some tables are widened, and what is added has new ids -/
structure Extends (new : List String) (s s' : Schema κ) : Prop where
  tables : TablesExtend new s.tables s'.tables
  relationships : s.relationships <+: s'.relationships

variable {new : List String} {s s' s'' : Schema κ}

theorem Extends.refl (new : List String) (s : Schema κ) : Extends new s s :=
  ⟨TablesExtend.refl new _, List.prefix_refl _⟩

theorem Extends.mono {new' : List String} (h : Extends new s s') (hsub : new ⊆ new') : Extends new' s s' :=
  ⟨h.tables.mono hsub, h.relationships⟩

theorem Extends.trans (h : Extends new s s') (h' : Extends new s' s'') : Extends new s s'' :=
  ⟨h.tables.trans h'.tables, h.relationships.trans h'.relationships⟩

/-! ## Issues -/

theorem Extends.endIssues_eq (h : Extends new s s') (relationshipId : String) (side : Side) {e : Endpoint}
    (htable : e.tableId ∉ new) (hcolumn : e.columnId ∉ new) :
    s'.endIssues relationshipId side e = s.endIssues relationshipId side e :=
  endIssues_congr (fun _ _ hwidened => ⟨hwidened.name, hwidened.column?_isNone hcolumn⟩)
    (h.tables.find?_reverse htable) relationshipId side

theorem Extends.relationshipIssues_eq (h : Extends new s s') {r : Relationship} (hr : ∀ id ∈ r.mentioned, id ∉ new) :
    s'.relationshipIssues r = s.relationshipIssues r := by
  simp only [Relationship.mentioned, List.mem_cons, List.not_mem_nil, or_false, forall_eq_or_imp, forall_eq] at hr
  obtain ⟨hsourceTable, hsourceColumn, htargetTable, htargetColumn⟩ := hr
  rw [relationshipIssues, h.endIssues_eq _ _ hsourceTable hsourceColumn, h.endIssues_eq _ _ htargetTable htargetColumn,
    relationshipIssues]

theorem mem_allIds_of_endIssues {relationshipId : String} {side : Side} {e : Endpoint}
    (h : s.endIssues relationshipId side e = []) : e.tableId ∈ s.allIds ∧ e.columnId ∈ s.allIds := by
  unfold endIssues at h
  split at h
  · cases h
  · rename_i t ht
    obtain ⟨hmem, hid⟩ := referred?_eq_some ht
    have hsub := tableIds_subset_allIds hmem
    split_ifs at h with hnone
    obtain ⟨c, hc⟩ : ∃ c, t.column? e.columnId = some c := by
      rwa [Option.isNone_iff_eq_none, ← ne_eq, Option.ne_none_iff_exists'] at hnone
    obtain ⟨hcolumn, hcid⟩ := Table.column?_eq_some hc
    have hcin : c.id ∈ t.columns.map (·.id) := List.mem_map_of_mem hcolumn
    exact ⟨hsub (hid ▸ List.mem_cons_self), hsub (List.mem_cons_of_mem _ (hcid ▸ hcin))⟩

theorem mentioned_subset_allIds {r : Relationship} (h : s.relationshipIssues r = []) : r.mentioned ⊆ s.allIds := by
  obtain ⟨hsource, htarget⟩ := List.append_eq_nil_iff.1 h
  obtain ⟨hsourceTable, hsourceColumn⟩ := mem_allIds_of_endIssues hsource
  obtain ⟨htargetTable, htargetColumn⟩ := mem_allIds_of_endIssues htarget
  simp only [Relationship.mentioned, List.cons_subset, List.nil_subset, and_true]
  exact ⟨hsourceTable, hsourceColumn, htargetTable, htargetColumn⟩

/-! ## Creating -/

variable [IdSupply σ]

/-- some ids are drawn, and the schema is extended with these -/
def Creates (before after : Schema κ × σ) : Prop :=
  ∃ drawn, Draws before.2 drawn after.2 ∧ Extends drawn before.1 after.1

theorem Creates.refl (x : Schema κ × σ) : Creates x x := ⟨[], Draws.none _, Extends.refl [] _⟩

theorem Creates.trans {x y z : Schema κ × σ} (h : Creates x y) (h' : Creates y z) : Creates x z := by
  obtain ⟨drawn, hdraws, hextends⟩ := h
  obtain ⟨drawn', hdraws', hextends'⟩ := h'
  exact ⟨drawn ++ drawn', hdraws.trans hdraws', (hextends.mono (List.subset_append_left _ _)).trans
    (hextends'.mono (List.subset_append_right _ _))⟩

variable (s) (ids : σ)

theorem addTable_creates (name : String) (position : Position κ) (specs : List ColumnSpec) :
    Creates (s, ids) (s.addTable name position specs ids) :=
  ⟨_, Draws.next tableLetter ((drawColumns_draws (keySpec :: timestampSpecs) _).trans (drawColumns_draws specs _)),
    TablesExtend.append _ List.mem_cons_self, List.prefix_refl _⟩

theorem addColumn_creates (tableId : String) (spec : ColumnSpec) :
    Creates (s, ids) (s.addColumn tableId spec ids) := by
  unfold addColumn
  split
  · exact Creates.refl _
  · have hwidened : ∀ t : Table κ, t.Widened [(newId columnLetter ids).1]
        { t with columns := appendColumn t.columns (spec.build (newId columnLetter ids).1) } := fun t =>
      ⟨rfl, rfl, by simp, by simp⟩
    exact ⟨_, Draws.one columnLetter ids, TablesExtend.mapFirst _ hwidened _, List.prefix_refl _⟩

theorem addRelationship_creates (spec : RelationshipSpec) : Creates (s, ids) (s.addRelationship spec ids) :=
  ⟨_, Draws.one relationshipLetter ids, TablesExtend.refl _ _, List.prefix_append _ _⟩

theorem linkLast_creates (a b : Table κ) (keyA keyB : Column) :
    Creates (s, ids) (s.linkLast a b keyA keyB ids) :=
  (((s.addColumn_creates ids _ _).trans (addColumn_creates _ _ _ _)).trans (addRelationship_creates _ _ _)).trans
    (addRelationship_creates _ _ _)

theorem junction_creates [Coordinate κ] (idA idB : String) : Creates (s, ids) (s.junction idA idB ids) := by
  rcases s.junction_cases idA idB ids with heq | ⟨a, b, keyA, keyB, -, -, -, -, heq⟩
  · rw [heq]
    exact Creates.refl _
  · have hmade := s.addTable_creates ids (a.name ++ "_" ++ b.name) (junctionPosition a b) []
    rw [heq]
    exact hmade.trans (linkLast_creates _ _ a b keyA keyB)

end Schema

end Crowfoot
