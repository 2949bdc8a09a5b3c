import Crowfoot.Proofs.Ddl.Assembly
import Crowfoot.Ddl.Source

/-
The ids of what a script makes. They are drawn while the script is turned into a schema: those of tables and columns
before linking, those of relationships during it.

- `Linking.Extends`: what linking does to ids; `connect_extends` says it of one column that is joined to its target.
- `assemble_draws`: the schema has the ids drawn, in the order in which they are. `assemble_grows`,
  `importTextWith_grows`: it has no others.
- `importTextWith_eq`: reading a script with the source of ids kept where there is no schema is reading it.
  `importing_draws`: the source that is kept.
-/

namespace Crowfoot.Ddl

open IdSupply
open Schema (Grows)

variable {σ : Type} [IdSupply σ]

namespace Linking

/-- the ids of drafts stay, and relationships follow that have drawn ids -/
def Extends (l l' : Linking σ) : Prop :=
  l'.drafts.map Draft.ids = l.drafts.map Draft.ids ∧
    ∃ drawn, Draws l.ids drawn l'.ids ∧ l'.relationships.map (·.id) = l.relationships.map (·.id) ++ drawn

theorem Extends.refl (l : Linking σ) : Extends l l := ⟨rfl, [], Draws.none l.ids, by simp⟩

theorem Extends.trans {l l' l'' : Linking σ} (h : Extends l l') (h' : Extends l' l'') : Extends l l'' := by
  obtain ⟨hdrafts, drawn, hdraws, hrelationships⟩ := h
  obtain ⟨hdrafts', drawn', hdraws', hrelationships'⟩ := h'
  refine ⟨hdrafts'.trans hdrafts, drawn ++ drawn', hdraws.trans hdraws', ?_⟩
  rw [hrelationships', hrelationships, List.append_assoc]

theorem connect_extends (l : Linking σ) {p : Place} {d : Draft} {c : DraftColumn} (hd : l.drafts[p.table]? = some d)
    (hc : d.columns[p.column]? = some c) (target : Endpoint) :
    Extends l (l.connect p.table p.column d c target) := by
  have hids : (marked l.drafts p d c).map Draft.ids = l.drafts.map Draft.ids := marked_ids hd hc
  unfold connect
  dsimp only
  split
  · exact ⟨hids, [], Draws.none l.ids, by simp⟩
  · exact ⟨hids, _, Draws.one relationshipLetter l.ids, by simp⟩

/-- the ids of tables and columns as linking has them -/
def draftIds (l : Linking σ) : List String := (l.drafts.map Draft.ids).flatMap fun x => x.1 :: x.2

end Linking

/-- all ids that come out of linking are drawn -/
theorem linked_draws {statements : List Statement} {ids : σ} {l : Linking σ} (h : linked statements ids = .ok l) :
    Draws ids (l.draftIds ++ l.relationships.map (·.id)) l.ids := by
  let drawn := drawIds (draftsOf statements) ids
  let start : Linking σ := ⟨keysFrom 0 drawn.1, drawn.1, [], drawn.2⟩
  have hkeeps : Linking.ConnectKeeps (Linking.Extends start) := fun l p d c target hd hc hl =>
    hl.trans (l.connect_extends hd hc target)
  obtain ⟨hdrafts, drawn', hdraws, hrelationships⟩ := linked_keeps hkeeps h (Linking.Extends.refl start)
  have hstart : Draws ids start.draftIds start.ids := drawIds_draws _ ids
  rw [Linking.draftIds, hdrafts, hrelationships]
  exact hstart.trans hdraws

variable {κ : Type}

/-- tables have the ids of the drafts they were made of -/
theorem tableIds_of_parts {s : Schema κ} {drafts : List Draft} (h : s.tables.map sameParts = drafts.map Draft.parts) :
    s.tables.flatMap Schema.tableIds = (drafts.map Draft.ids).flatMap fun x => x.1 :: x.2 := by
  have hids := congrArg (List.flatMap fun p : String × String × List Column => p.1 :: p.2.2.map (·.id)) h
  rw [List.flatMap_map, List.flatMap_map] at hids
  rw [List.flatMap_map]
  refine hids.trans (List.flatMap_congr fun d _ => ?_)
  simp [Draft.parts, Draft.ids, DraftColumn.column]

variable [Coordinate κ]

/-- the ids that are drawn are those of the schema: tables with their columns, then relationships -/
theorem assemble_draws {statements : List Statement} {ids : σ} {after : Schema κ × σ}
    (h : assemble statements ids = .ok after) : Draws ids after.1.allIds after.2 := by
  obtain ⟨l, hl, -⟩ := except_bind_eq_ok.1 h
  rw [assemble_eq_placed hl] at h
  obtain ⟨s, hs, rfl⟩ := except_map_eq_ok.1 h
  obtain ⟨htables, hrelationships⟩ := placed_ok (except_mapError_eq_ok.1 hs)
  rw [Schema.allIds, hrelationships, tableIds_of_parts (htables.trans l.schema_parts)]
  exact linked_draws hl

theorem assemble_grows {statements : List Statement} {ids : σ} {after : Schema κ × σ}
    (h : assemble statements ids = .ok after) : Grows (Schema.empty, ids) after :=
  ⟨_, assemble_draws h, List.Perm.subperm (List.Perm.of_eq (List.append_nil _).symm)⟩

/-- nothing but drawn ids is in a schema that comes from a script, whoever reads the script -/
theorem importTextWith_grows {read : Reader} {sql : String} {dialect : Option String} {ids : σ}
    {after : Schema κ × σ} (h : importTextWith read sql dialect ids = .ok after) :
    Grows (Schema.empty, ids) after := by
  unfold importTextWith at h
  dsimp only at h
  split at h
  · cases h
    exact Grows.refl _
  · obtain ⟨chosen, -, hrest⟩ := except_bind_eq_ok.1 h
    obtain ⟨statements, -, hassemble⟩ := except_bind_eq_ok.1 hrest
    exact assemble_grows (except_mapError_eq_ok.1 hassemble)

/-! ## With the source of ids in either case -/

/-- without the source of ids where there is no schema, it is the plain assembly -/
theorem assemble_eq (statements : List Statement) (ids : σ) :
    (assemble statements ids : Except AssemblyError (Schema κ × σ)) =
      (assembling statements ids).1.map fun s => (s, (assembling (κ := κ) statements ids).2) := by
  unfold assemble assembling
  cases linked statements ids with
  | error e => rfl
  | ok l =>
    rw [except_ok_bind]
    dsimp only
    cases placed (⟨1, l.drafts.map Draft.tableAt, l.relationships⟩ : Schema κ) <;> rfl

theorem importTextWith_eq (read : Reader) (sql : String) (dialect : Option String) (ids : σ) :
    (importTextWith read sql dialect ids : Except ImportError (Schema κ × σ)) =
      (importing read sql dialect ids).1.map fun s => (s, (importing (κ := κ) read sql dialect ids).2) := by
  unfold importTextWith importing
  dsimp only
  split_ifs with hblank
  · rfl
  · cases Dialect.resolve? dialect with
    | error e => rfl
    | ok chosen =>
      simp only [except_mapError_ok, except_ok_bind, assemble_eq]
      cases chosen <;> dsimp only [Option.map_some, Option.map_none, Option.getD_some, Option.getD_none]
      all_goals
        cases firstReading read (Text.trim sql) _ with
        | error e => rfl
        | ok statements =>
          dsimp only [except_ok_bind]
          cases (assembling (κ := κ) statements ids).1 <;> rfl

/-- whatever becomes of a script, nothing happens to the source but that ids are drawn from it; if only the layout
fails, they are drawn for the whole schema -/
theorem importing_draws (read : Reader) (sql : String) (dialect : Option String) (ids : σ) :
    ∃ drawn, Draws ids drawn (importing (κ := κ) read sql dialect ids).2 := by
  unfold importing
  dsimp only
  split_ifs
  · exact ⟨[], Draws.none ids⟩
  · cases Dialect.resolve? dialect with
    | error e => exact ⟨[], Draws.none ids⟩
    | ok chosen =>
      dsimp only
      cases firstReading read (Text.trim sql) ((chosen.map fun d => [d]).getD Dialect.all) with
      | error e => exact ⟨[], Draws.none ids⟩
      | ok statements =>
        dsimp only [assembling]
        cases hlinked : linked statements ids with
        | error e => exact ⟨[], Draws.none ids⟩
        | ok l => exact ⟨_, linked_draws hlinked⟩

end Crowfoot.Ddl
