import Crowfoot.Proofs.Schema.Extending
import Crowfoot.Proofs.Store.Chronicle

/-
Relationships with missing ends, and new tables and columns. The source of a store knows the ids of what its schemas
hold. It does not know those that are only mentioned, by the ends of relationships that lead nowhere, and so it may
hand one of them out; the end then leads to something that has nothing to do with it.

- `Use.creates`: the uses of a store that create tables and columns.
- `Schema.addPlacedTables_creates`, `made_creates`, `use_extends`: whatever is created extends the schema, with the ids
  that are handed out for it.
- `creation_issues`: what is created changes the issues only of relationships that mention an id handed out for it, and
  these had issues before. If the source knows what is mentioned, then no issue changes.
- `creation_captures`: an id that is mentioned is handed out.
-/

namespace Crowfoot

open IdSupply
open Schema (Creates Extends)

variable {σ : Type} [IdSupply σ]

theorem Schema.addPlacedTables_creates {κ : Type} {place : Placer κ} (ts : List NewTable) {s : Schema κ} {ids : σ}
    {made : Schema κ × σ} (h : addPlacedTables place ts s ids = .ok made) : Creates (s, ids) made := by
  induction ts generalizing s ids with
  | nil =>
    cases h
    exact Creates.refl _
  | cons t ts ih =>
    obtain ⟨position, -, hrest⟩ := except_bind_eq_ok.1 h
    exact (s.addTable_creates ids t.name position t.columns).trans (ih hrest)

namespace Store

/-- a use that creates tables or columns, with what a junction links them by, and does nothing else -/
def Use.creates : Use → Bool
  | .act _ (.createTable _) | .act _ (.createTableWithColumns _) | .act _ (.createMultipleTables _)
  | .act _ (.addColumn _ _) | .act _ (.generateJunctionTable _ _)
  | .edit (.addTable _ _ _) | .edit (.addColumn _ _) | .edit (.junction _ _) => true
  | _ => false

variable {st : Store Float Counting} {u : Use}

theorem made_creates (hu : u.creates = true) {made : Schema Float × Counting} (h : st.made u = some made) :
    Creates (st.schema, st.ids) made := by
  have hplaced : ∀ {place : Placer Float} {ts : List NewTable} {after : Applied Float Counting},
      (Schema.addPlacedTables place ts st.schema st.ids).map Action.quietly = .ok after →
        Creates (st.schema, st.ids) (after.schema, after.ids) := by
    intro place ts after hafter
    obtain ⟨placed, hplaced, rfl⟩ := except_map_eq_ok.1 hafter
    exact Schema.addPlacedTables_creates ts hplaced
  cases u with
  | edit o =>
    have happly := except_toOption_eq_some.1 h
    cases o with
    | addTable name position columns => cases happly; exact st.schema.addTable_creates st.ids name position columns
    | addColumn tableId column => cases happly; exact st.schema.addColumn_creates st.ids tableId column
    | junction idA idB => cases happly; exact st.schema.junction_creates st.ids idA idB
    | _ => cases hu
  | act place a =>
    obtain ⟨after, hafter, rfl⟩ := Option.map_eq_some_iff.1 h
    have happly := except_toOption_eq_some.1 hafter
    cases a with
    | createTable name => exact hplaced happly
    | createTableWithColumns t => exact hplaced happly
    | createMultipleTables ts => exact hplaced happly
    | addColumn table column =>
      simp only [Action.apply] at happly
      split at happly <;> cases happly
      · exact Creates.refl _
      · exact st.schema.addColumn_creates st.ids _ _
    | generateJunctionTable source target =>
      simp only [Action.apply] at happly
      split at happly <;> cases happly
      · exact st.schema.junction_creates st.ids _ _
      · exact Creates.refl _
    | _ => cases hu
  | _ => cases hu

/-- what is held after a creation: what was made for it, or the schema as it was -/
theorem use_schema (hu : u.creates = true) :
    (st.use u).schema = st.schema ∨ ∃ made, st.made u = some made ∧ (st.use u).schema = made.1 := by
  have hcommit : ∀ made, (st.commitDrawn made).2.schema = st.schema ∨ (st.commitDrawn made).2.schema = made.1 := by
    intro made
    unfold commitDrawn commit
    split_ifs
    · exact Or.inl rfl
    · exact Or.inr rfl
  have hact : ∀ {place : Placer Float} {a : Action}, (st.act place a = do
        let r ← a.apply place st.schema st.ids
        let committed := st.commitDrawn (r.schema, r.ids)
        return (committed.1, r.warnings, committed.2)) →
      (st.use (.act place a)).schema = st.schema ∨
        ∃ made, st.made (.act place a) = some made ∧ (st.use (.act place a)).schema = made.1 := by
    intro place a h
    simp only [use, made, h]
    cases a.apply place st.schema st.ids with
    | error e => exact Or.inl rfl
    | ok after => exact (hcommit (after.schema, after.ids)).imp id fun hmade => ⟨_, rfl, hmade⟩
  cases u with
  | edit o =>
    simp only [use]
    split
    · rename_i made hmade
      exact (hcommit made).imp id fun heq => ⟨made, hmade, heq⟩
    · exact Or.inl rfl
  | act place a => cases a <;> first | exact hact rfl | cases hu
  | _ => cases hu

/-- a creation extends the schema with the ids that are handed out for it -/
theorem use_extends (hu : u.creates = true) : Extends (st.issues u) st.schema (st.use u).schema := by
  rcases (use_schema hu : (st.use u).schema = st.schema ∨ _) with hsame | ⟨made, hmade, heq⟩
  · rw [hsame]
    exact Extends.refl _ _
  · obtain ⟨drawn, hdraws, hextends⟩ := made_creates hu hmade
    rw [heq, issues, source_made hmade, Counting.handedOut_of_draws hdraws]
    exact hextends

/-- what is handed out is new to the source -/
theorem issues_notMem (st : Store Float Counting) (u : Use) : ∀ id ∈ st.issues u, id ∉ st.ids.taken :=
  ((Counting.fresh_of_subset (List.Subset.refl st.ids.taken)).draws (st.source_draws u)).2

theorem foldl_reserved (h : st.Reserved) (us : List Use) : (us.foldl use st).Reserved :=
  List.foldlRecOn us use h fun _ hst u _ => hst.use u

/-- **Creations and issues.** Whatever was done with a store that numbers its ids, when tables or columns are created,
every relationship stays. It keeps its issues if its ends mention none of the ids that are handed out for what is
created. So it does if it has none, and if the source knows all ids that its ends mention. -/
theorem creation_issues (s : Schema Float) (limit : ℕ) (ids : Counting) (us : List Use) (u : Use)
    (hu : u.creates = true) :
    let st := us.foldl use (ofSchema s limit ids)
    let after := (st.use u).schema
    ∀ r ∈ st.schema.relationships, r ∈ after.relationships ∧
      ((∀ id ∈ r.mentioned, id ∉ st.issues u) → after.relationshipIssues r = st.schema.relationshipIssues r) ∧
      (st.schema.relationshipIssues r = [] → after.relationshipIssues r = []) ∧
      (r.mentioned ⊆ st.ids.taken → after.relationshipIssues r = st.schema.relationshipIssues r) := by
  intro st after r hr
  have hreserved : st.Reserved := foldl_reserved (ofSchema_reserved s limit ids) us
  have hextends : Extends (st.issues u) st.schema after := use_extends hu
  have hknown : r.mentioned ⊆ st.ids.taken → after.relationshipIssues r = st.schema.relationshipIssues r :=
    fun hsub => hextends.relationshipIssues_eq fun id hid hissued => st.issues_notMem u id hissued (hsub hid)
  refine ⟨hextends.relationships.subset hr, hextends.relationshipIssues_eq, fun hnone => ?_, hknown⟩
  rw [hknown (List.Subset.trans (Schema.mentioned_subset_allIds hnone) (hreserved _ st.schema_mem)), hnone]

/-- a relationship between two columns of a table that is gone -/
def severance : Relationship := ⟨"r_9", ⟨"t_1", "c_1"⟩, ⟨"t_1", "c_2"⟩, .oneToMany⟩

def severed : Schema Float := ⟨1, [], [severance]⟩

/-- users are created at the corner of the canvas -/
def createUsers : Use := .act (fun _ => .ok ⟨0, 0⟩) (.createTable "users")

theorem creation_issues_severed :
    createUsers.creates = true ∧ severance ∈ ((ofSchema severed 5 ⟨"s", 0, []⟩).use createUsers).schema.relationships ∧
      ((ofSchema severed 5 ⟨"s", 0, []⟩).use createUsers).schema.relationshipIssues severance =
        severed.relationshipIssues severance := by
  have hu : createUsers.creates = true := rfl
  obtain ⟨hstays, hsame, -⟩ := creation_issues severed 5 ⟨"s", 0, []⟩ [] createUsers hu severance List.mem_cons_self
  exact ⟨hu, hstays, hsame (by decide +kernel)⟩

/-- Not every relationship with an issue keeps it: with a source that starts to count, the new table is the one that
the ends mention. -/
theorem creation_captures :
    ¬ ∀ (s : Schema Float) (limit : ℕ) (ids : Counting) (u : Use), u.creates = true → ∀ r ∈ s.relationships,
      s.relationshipIssues r ≠ [] →
        ((ofSchema s limit ids).use u).schema.relationshipIssues r = s.relationshipIssues r := by
  intro h
  have hsame := h severed 5 ⟨"", 0, []⟩ createUsers rfl severance List.mem_cons_self (by decide)
  revert hsame
  decide +kernel

end Store

end Crowfoot
