import Crowfoot.Proofs.Ddl.Content
import Crowfoot.Proofs.Ddl.RoundTrip

/-
What a schema made of statements tells by names: of its tables, their columns with types and constraints, and of its
relationships the names of the two columns and the type. All of it is in the skeletons of the statements and in the
columns that they join.

- `linked_marksLast`: the mark of a foreign key comes after all other constraints of a column, whenever it is set.
- `Table.told`, `Schema.named?`: what is told. `Draft.told`, `namedJoin?`: the same, from skeletons and joins.
- `assemble_told`: statements make a schema that tells just that, if no key is claimed by two tables.
-/

namespace Crowfoot

variable {κ σ : Type}

/-- the name of a table, and its columns with their types and constraints -/
def Table.told (t : Table κ) : String × List (String × ColumnType × List Constraint) :=
  (t.name, t.columns.map fun c => (c.name, c.type, c.constraints))

namespace Ddl

open IdSupply

variable {statements : List Statement} {s : Schema κ}

/-! ## Marks come last -/

/-- the constraints of a column are those it had before linking, and after them the mark if it has one -/
def DraftColumn.MarksLast (c : DraftColumn) : Prop :=
  c.constraints = c.bare.constraints ++ if .foreignKey ∈ c.constraints then [.foreignKey] else []

theorem DraftColumn.MarksLast.add {c : DraftColumn} (h : c.MarksLast) : (c.add .foreignKey).MarksLast := by
  by_cases hmark : .foreignKey ∈ c.constraints
  · have hadd : c.add .foreignKey = c := if_pos (List.contains_iff_mem.2 hmark)
    rw [hadd]
    exact h
  · have hconstraints : (c.add .foreignKey).constraints = c.constraints ++ [.foreignKey] := by
      rw [DraftColumn.add, if_neg fun hin => hmark (List.contains_iff_mem.1 hin)]
    have hplain : c.constraints = c.bare.constraints := by
      rw [MarksLast, if_neg hmark, List.append_nil] at h
      exact h
    rw [MarksLast, c.add_bare, if_pos (c.mem_add.2 (Or.inr rfl)), hconstraints, ← hplain]

theorem DraftColumn.marksLast_of_unmarked {c : DraftColumn} (h : .foreignKey ∉ c.constraints) : c.MarksLast := by
  have hfilter : c.constraints.filter (· ≠ .foreignKey) = c.constraints :=
    List.filter_eq_self.2 fun k hk => by simpa using fun heq : k = .foreignKey => h (heq ▸ hk)
  rw [MarksLast, if_neg h, List.append_nil]
  exact hfilter.symm

section Linking

variable [IdSupply σ]

theorem connect_drafts (l : Linking σ) (p : Place) (d : Draft) (c : DraftColumn) (target : Endpoint) :
    (l.connect p.table p.column d c target).drafts = marked l.drafts p d c := by
  unfold Linking.connect
  dsimp only
  split <;> rfl

theorem linked_marksLast {ids : σ} {l : Linking σ} (h : linked statements ids = .ok l) :
    ∀ d ∈ l.drafts, ∀ c ∈ d.columns, c.MarksLast := by
  refine linked_keeps (P := fun l => ∀ d ∈ l.drafts, ∀ c ∈ d.columns, c.MarksLast) ?_ h ?_
  · intro l p d c target hd hc hlast d' hd' c' hc'
    rw [connect_drafts, marked] at hd'
    rcases List.mem_or_eq_of_mem_set hd' with hd' | rfl
    · exact hlast d' hd' c' hc'
    · rcases List.mem_or_eq_of_mem_set hc' with hc' | rfl
      · exact hlast d (List.mem_of_getElem? hd) c' hc'
      · exact (hlast d (List.mem_of_getElem? hd) c (List.mem_of_getElem? hc)).add
  · intro d hd c hc
    have hunmarked := drawIds_unmarked (fun d hd => (draftsOf_plain hd).2) ids d hd c hc
    exact DraftColumn.marksLast_of_unmarked hunmarked

end Linking

/-! ## Tables -/

/-- what a table tells whose skeleton this is, if these columns are joined -/
def Draft.told (js : List (Spot × Spot)) (d : Draft) : String × List (String × ColumnType × List Constraint) :=
  (d.table.name, d.columns.mapIdx fun i c =>
    (c.name, c.type, c.constraints ++ if ∃ k ∈ js, k.1 = ⟨some d, i⟩ then [.foreignKey] else []))

variable {l : Linking σ}

theorem skeletons_of_linked (h : Linked (draftsOf statements) (resolvedKeys statements) l) :
    skeletons statements = l.drafts.map fun d => d.bare.skeleton := by
  rw [skeletons, ← h.bare, List.map_map]
  rfl

theorem spotAt_of_linked (h : Linked (draftsOf statements) (resolvedKeys statements) l) {p : Place} {d : Draft}
    (hd : l.drafts[p.table]? = some d) : spotAt statements p = ⟨some d.bare.skeleton, p.column⟩ := by
  rw [spotAt, skeletons_of_linked h, List.getElem?_map, hd, Option.map_some]

theorem skeleton_getElem? {d : Draft} {c : DraftColumn} {j : ℕ} (hc : d.columns[j]? = some c) :
    d.bare.skeleton.columns[j]? = some c.bare.skeleton := by
  rw [Draft.skeleton, Draft.bare, List.map_map, List.getElem?_map, hc]
  rfl

/-- a column is marked exactly if it is joined to another -/
theorem Linked.marks_iff (h : Linked (draftsOf statements) (resolvedKeys statements) l)
    (hkeys : Unambiguous (createdTables statements)) {i j : ℕ} {d : Draft} {c : DraftColumn}
    (hd : l.drafts[i]? = some d) (hc : d.columns[j]? = some c) :
    .foreignKey ∈ c.constraints ↔ ∃ k ∈ joins statements, k.1 = ⟨some d.bare.skeleton, j⟩ := by
  have hskeleton : (skeletons statements)[i]? = some d.bare.skeleton := by
    rw [skeletons_of_linked h, List.getElem?_map, hd, Option.map_some]
  have hspot : spotAt statements ⟨i, j⟩ = ⟨some d.bare.skeleton, j⟩ := spotAt_of_linked h hd
  rw [h.marks ⟨i, j⟩ c (columnAt?_eq_some.2 ⟨d, hd, hc⟩), ← hspot]
  simp only [joins, List.mem_map, List.mem_eraseDups]
  constructor
  · rintro ⟨k, hk, hplace⟩
    exact ⟨_, ⟨k, hk, rfl⟩, congrArg (spotAt statements) hplace⟩
  · rintro ⟨_, ⟨k, hk, rfl⟩, heq⟩
    exact ⟨k, hk, (spotAt_inj hkeys hskeleton heq.symm).symm⟩

theorem told_tables (h : Linked (draftsOf statements) (resolvedKeys statements) l)
    (hkeys : Unambiguous (createdTables statements)) (hlast : ∀ d ∈ l.drafts, ∀ c ∈ d.columns, c.MarksLast)
    (hparts : s.tables.map sameParts = l.drafts.map Draft.parts) :
    s.tables.map Table.told = (skeletons statements).map (Draft.told (joins statements)) := by
  have htold := congrArg (List.map fun p : String × String × List Column =>
    (p.2.1, p.2.2.map fun c => (c.name, c.type, c.constraints))) hparts
  rw [List.map_map, List.map_map] at htold
  refine htold.trans ?_
  rw [skeletons_of_linked h, List.map_map]
  refine List.map_congr_left fun d hd => Prod.ext rfl ?_
  obtain ⟨i, hi⟩ := List.mem_iff_getElem?.1 hd
  refine List.ext_getElem? fun j => ?_
  simp only [Function.comp_apply, Draft.parts, Draft.told, Draft.skeleton, Draft.bare, List.getElem?_map,
    List.getElem?_mapIdx, Option.map_map]
  cases hc : d.columns[j]? with
  | none => rfl
  | some c =>
    have hmarks := h.marks_iff hkeys hi hc
    have hconstraints := hlast d hd c (List.mem_of_getElem? hc)
    simp only [DraftColumn.MarksLast, hmarks] at hconstraints
    exact congrArg (fun ks => some (c.name, c.type, ks)) hconstraints

/-! ## Relationships -/

/-- two joined columns, by names, with the type that a relationship between them has -/
def namedJoin? (k : Spot × Spot) : Option NamedKey := do
  let d ← k.1.table
  let c ← d.columns[k.1.column]?
  let e ← k.2.table
  let c' ← e.columns[k.2.column]?
  return ⟨d.table.name, c.name, e.table.name, c'.name,
    if c.constraints.contains .unique then .oneToOne else .oneToMany⟩

/-- the column of a schema at a place is what became of a draft's -/
theorem columnAt?_of_parts (hparts : s.tables.map sameParts = l.drafts.map Draft.parts) {p : Place} {t : Table κ}
    {c : Column} (h : s.columnAt? p = some (t, c)) :
    ∃ d dc, l.drafts[p.table]? = some d ∧ d.columns[p.column]? = some dc ∧ t.name = d.table.name ∧ c = dc.column := by
  obtain ⟨ht, hc⟩ := columnAt?_eq_some_iff.1 h
  obtain ⟨d, hd, hname, hcolumns⟩ := table_of_parts hparts ht
  rw [hcolumns, List.getElem?_map] at hc
  obtain ⟨dc, hdc, rfl⟩ := Option.map_eq_some_iff.1 hc
  exact ⟨d, dc, hd, hdc, hname, rfl⟩

theorem named?_of_linked (h : Linked (draftsOf statements) (resolvedKeys statements) l)
    (hparts : s.tables.map sameParts = l.drafts.map Draft.parts) {r : Relationship} {k : Place × Place}
    (hjoins : Joins (draftsOf statements) l.drafts r k) :
    s.named? r = namedJoin? (spotAt statements k.1, spotAt statements k.2) := by
  have hids := identified_of_parts h.ids hparts
  have hends := endAt?_of_parts hparts
  obtain ⟨t, c, hfound, hend⟩ := resolveEnd_of_endAt? hids ((hends k.1).trans hjoins.source)
  obtain ⟨t', c', hfound', hend'⟩ := resolveEnd_of_endAt? hids ((hends k.2).trans hjoins.target)
  obtain ⟨d, dc, hd, hdc, hname, rfl⟩ := columnAt?_of_parts hparts hfound
  obtain ⟨e, ec, he, hec, hname', rfl⟩ := columnAt?_of_parts hparts hfound'
  have htype : r.type = if dc.bare.constraints.contains .unique then .oneToOne else .oneToMany := by
    rw [hjoins.type, linkType, ← h.bare, columnAt?_bare, columnAt?_eq_some.2 ⟨d, hd, hdc⟩]
    rfl
  have hnamed : s.named? r = some ⟨t.name, dc.name, t'.name, ec.name, r.type⟩ := by
    rw [Schema.named?, hend, hend']
    rfl
  rw [hnamed, hname, hname', htype, namedJoin?, spotAt_of_linked h hd, spotAt_of_linked h he]
  simp only [Option.bind_eq_bind, Option.bind_some, skeleton_getElem? hdc, skeleton_getElem? hec]
  rfl

theorem told_relationships (h : Linked (draftsOf statements) (resolvedKeys statements) l)
    (hparts : s.tables.map sameParts = l.drafts.map Draft.parts) (hrelationships : s.relationships = l.relationships) :
    s.relationships.map s.named? = (joins statements).map namedJoin? := by
  rw [joins, List.map_map, ← List.forall₂_eq_eq_eq, List.forall₂_map_left_iff, List.forall₂_map_right_iff,
    hrelationships]
  exact h.relationships.imp fun r k hjoins => named?_of_linked h hparts hjoins

/-! ## Schemas -/

/-- a schema that tells what statements say -/
structure Told (statements : List Statement) (s : Schema κ) : Prop where
  tables : s.tables.map Table.told = (skeletons statements).map (Draft.told (joins statements))
  relationships : s.relationships.map s.named? = (joins statements).map namedJoin?
  /-- so that every relationship has names -/
  intact : s.Intact

variable [Coordinate κ] [IdSupply σ]

/-- statements make a schema that tells what they say, if no key is claimed by two tables -/
theorem assemble_told (hkeys : Unambiguous (createdTables statements)) {ids : σ} (hids : Fresh [] ids) :
    (Keyless statements ∧ (assemble statements ids : Except AssemblyError (Schema κ × σ)) = .error .noColumns) ∨
      ¬ Keyless statements ∧
        MadeOrUnplaced id (Told statements) (assemble statements ids : Except AssemblyError (Schema κ × σ)) := by
  refine (assemble_cases (κ := κ) statements hids).imp_right ?_
  rintro ⟨hkeyless, l, hl, hlinked, hmade⟩
  refine ⟨hkeyless, hmade.imp fun s hs => ⟨?_, ?_, (hlinked.built hs.1 hs.2).intact⟩⟩
  · exact told_tables hlinked hkeys (linked_marksLast hl) hs.1
  · exact told_relationships hlinked hs.1 hs.2

end Ddl

end Crowfoot
