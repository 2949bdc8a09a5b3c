import Crowfoot.Proofs.Ddl.Drafting
import Crowfoot.Proofs.Ddl.Origin

/-
What statements say, whatever their order and wherever their foreign keys are written. All of it is said for statements
in which no key is claimed by two tables.

- `writtenKeys`: the foreign keys, those of column definitions among them, as keys on the names of tables. `Writes`: that
  there is one for a table, whatever its place.
- `Draft.skeleton`: a draft without the references in its columns. Columns are found by it just the same.
- `joins`: the joined columns, told apart by the skeletons of their tables and not by places. `mem_joins` says what they
  are in terms of written keys and skeletons.
- `SameContent`: the same skeletons in some order, and the same written keys. `SameContent.joins_perm`: then the same
  columns are joined.
-/

namespace Crowfoot.Ddl

variable {statements statements' : List Statement} {t u : TableRef} {i : ℕ}

/-! ## Written keys -/

/-- the foreign key that a column definition of a table writes -/
def ColumnDef.key? (table : TableRef) (c : ColumnDef) : Option PendingKey :=
  c.reference.map fun target => ⟨table, c.name, target⟩

/-- the foreign keys that a statement writes, in its column definitions and among its constraints -/
def Statement.writtenKeys : Statement → List PendingKey
  | createTable table columns cs =>
    columns.filterMap (ColumnDef.key? table) ++ cs.filterMap (ConstraintDef.pending? table)
  | alterTable table cs => cs.filterMap (ConstraintDef.pending? table)

def writtenKeys (statements : List Statement) : List PendingKey := statements.flatMap Statement.writtenKeys

theorem mem_createdKeys {k : PendingKey} : k ∈ createdKeys statements ↔ ∃ table columns cs,
    .createTable table columns cs ∈ statements ∧ k ∈ cs.filterMap (ConstraintDef.pending? table) := by
  rw [createdKeys, List.mem_flatMap]
  constructor
  · rintro ⟨⟨table, columns, cs⟩ | _, hmem, hk⟩
    · exact ⟨table, columns, cs, hmem, hk⟩
    · cases hk
  · rintro ⟨table, columns, cs, hmem, hk⟩
    exact ⟨_, hmem, hk⟩

theorem mem_alteredKeys {k : PendingKey} : k ∈ alteredKeys statements ↔ ∃ table cs,
    .alterTable table cs ∈ statements ∧ k ∈ cs.filterMap (ConstraintDef.pending? table) := by
  rw [alteredKeys, List.mem_flatMap]
  constructor
  · rintro ⟨_ | ⟨table, cs⟩, hmem, hk⟩
    · cases hk
    · exact ⟨table, cs, hmem, hk⟩
  · rintro ⟨table, cs, hmem, hk⟩
    exact ⟨_, hmem, hk⟩

/-- a foreign key is written in a column definition or among constraints -/
theorem mem_writtenKeys {k : PendingKey} : k ∈ writtenKeys statements ↔
    (∃ columns cs, .createTable k.table columns cs ∈ statements ∧
      ∃ c ∈ columns, c.name = k.column ∧ c.reference = some k.target) ∨
      k ∈ createdKeys statements ++ alteredKeys statements := by
  rw [List.mem_append, mem_createdKeys, mem_alteredKeys, writtenKeys, List.mem_flatMap]
  constructor
  · rintro ⟨⟨table, columns, cs⟩ | ⟨table, cs⟩, hmem, hk⟩
    · rcases List.mem_append.1 hk with hk | hk
      · obtain ⟨c, hc, heq⟩ := List.mem_filterMap.1 hk
        obtain ⟨target, htarget, rfl⟩ := Option.map_eq_some_iff.1 heq
        exact Or.inl ⟨columns, cs, hmem, c, hc, rfl, htarget⟩
      · exact Or.inr (Or.inl ⟨table, columns, cs, hmem, hk⟩)
    · exact Or.inr (Or.inr ⟨table, cs, hmem, hk⟩)
  · rintro (⟨columns, cs, hmem, c, hc, hname, htarget⟩ | ⟨table, columns, cs, hmem, hk⟩ | ⟨table, cs, hmem, hk⟩)
    · refine ⟨_, hmem, List.mem_append_left _ (List.mem_filterMap.2 ⟨c, hc, ?_⟩)⟩
      rw [ColumnDef.key?, htarget, Option.map_some, hname]
    · exact ⟨_, hmem, List.mem_append_right _ hk⟩
    · exact ⟨_, hmem, hk⟩

/-- a foreign key over a column of a table to some target is written somewhere -/
def Writes (statements : List Statement) (u : TableRef) (column : String) (target : Reference) : Prop :=
  ∃ t, OwnedBy (createdTables statements) t u ∧ ⟨t, column, target⟩ ∈ writtenKeys statements

/-! ## Drafts -/

theorem mem_draftsOf {d : Draft} : d ∈ draftsOf statements ↔
    ∃ table columns cs, .createTable table columns cs ∈ statements ∧ draftTable table columns cs = d := by
  rw [draftsOf, List.mem_filterMap]
  constructor
  · rintro ⟨⟨table, columns, cs⟩ | _, hmem, hd⟩
    · exact ⟨table, columns, cs, hmem, Option.some.inj hd⟩
    · cases hd
  · rintro ⟨table, columns, cs, hmem, rfl⟩
    exact ⟨_, hmem, rfl⟩

theorem mem_createdTables : t ∈ createdTables statements ↔ ∃ columns cs, .createTable t columns cs ∈ statements := by
  rw [← draftsOf_tables, List.mem_map]
  simp only [mem_draftsOf]
  constructor
  · rintro ⟨d, ⟨table, columns, cs, hmem, rfl⟩, rfl⟩
    exact ⟨columns, cs, hmem⟩
  · rintro ⟨columns, cs, hmem⟩
    exact ⟨_, ⟨t, columns, cs, hmem, rfl⟩, rfl⟩

/-- a key is declared on the table at a place if it is written for that table -/
theorem declares_iff (h : Unambiguous (createdTables statements)) {column : String} {target : Reference} :
    Declares statements i column target ↔
      ∃ u, (createdTables statements)[i]? = some u ∧ Writes statements u column target := by
  constructor
  · rintro (@⟨d, c, hd, hc, hname, htarget⟩ | ⟨hk, howner⟩)
    · obtain ⟨table, columns, cs, hmem, rfl⟩ := mem_draftsOf.1 (List.mem_of_getElem? hd)
      refine ⟨table, by rw [← draftsOf_tables, List.getElem?_map, hd]; rfl, table, ?_, mem_writtenKeys.2 (Or.inl ?_)⟩
      · exact .own (mem_createdTables.2 ⟨columns, cs, hmem⟩) table.qualified_mem_keys
      · exact ⟨columns, cs, hmem, (mem_references table columns cs).1 ⟨c, hc, hname, htarget⟩⟩
    · obtain ⟨u, hu, howned⟩ := h.owner_iff.1 howner
      exact ⟨u, hu, _, howned, mem_writtenKeys.2 (Or.inr hk)⟩
  · rintro ⟨u, hu, t, howned, hk⟩
    rcases mem_writtenKeys.1 hk with ⟨columns, cs, hmem, hreference⟩ | hk
    · have ht : t ∈ createdTables statements := mem_createdTables.2 ⟨columns, cs, hmem⟩
      cases h.ownedBy_unique howned (.own ht t.qualified_mem_keys)
      obtain ⟨c, hc, hname, htarget⟩ := (mem_references u columns cs).2 hreference
      obtain ⟨j, hj⟩ := List.mem_iff_getElem?.1 (mem_draftsOf.2 ⟨u, columns, cs, hmem, rfl⟩)
      have hu' : (createdTables statements)[j]? = some u := by
        rw [← draftsOf_tables, List.getElem?_map, hj]
        rfl
      cases h.place_eq hu hu' u.qualified_mem_keys u.qualified_mem_keys
      exact .inline hj hc hname htarget
    · exact .constraint hk (h.owner_iff.2 ⟨u, hu, howned⟩)

/-! ## Joined columns -/

/-- a column of a created table, told by the skeleton of the table and not by its place -/
structure Spot where
  table : Option Draft
  column : ℕ
  deriving DecidableEq, Repr

def skeletons (statements : List Statement) : List Draft := (draftsOf statements).map Draft.skeleton

def spotAt (statements : List Statement) (p : Place) : Spot := ⟨(skeletons statements)[p.table]?, p.column⟩

/-- the columns that foreign keys join, each pair once -/
def joins (statements : List Statement) : List (Spot × Spot) :=
  (resolvedKeys statements).eraseDups.map fun k => (spotAt statements k.1, spotAt statements k.2)

/-- a written foreign key joins a column of one skeleton to a column of another -/
def WritesJoin (statements : List Statement) (d : Draft) (i : ℕ) (e : Draft) (j : ℕ) : Prop :=
  ∃ column target, Writes statements d.table column target ∧ columnIndex? d.columns column = some i ∧
    nameKey target.table.qualified ∈ e.table.keys ∧ targetIndex? e.columns target = some j

theorem skeletons_tables (statements : List Statement) :
    (skeletons statements).map (·.table) = createdTables statements := by
  rw [skeletons, List.map_map, ← draftsOf_tables]
  rfl

theorem createdTables_of_skeletons {d : Draft} (h : (skeletons statements)[i]? = some d) :
    (createdTables statements)[i]? = some d.table := by
  rw [← skeletons_tables, List.getElem?_map, h, Option.map_some]

/-- where keys are claimed once, spots are as good as places -/
theorem spotAt_inj (h : Unambiguous (createdTables statements)) {p q : Place} {d : Draft}
    (hp : (skeletons statements)[p.table]? = some d) (heq : spotAt statements p = spotAt statements q) : p = q := by
  obtain ⟨htable, hcolumn⟩ := Spot.mk.inj heq
  have hq : (skeletons statements)[q.table]? = some d := htable ▸ hp
  have hplace : p.table = q.table := h.place_eq (createdTables_of_skeletons hp) (createdTables_of_skeletons hq)
    d.table.qualified_mem_keys d.table.qualified_mem_keys
  exact Place.ext hplace hcolumn

/-- the places of two joined columns are those of skeletons -/
theorem skeletons_of_mem {p q : Place} (hk : (p, q) ∈ resolvedKeys statements) :
    (∃ d, (skeletons statements)[p.table]? = some d) ∧ ∃ d, (skeletons statements)[q.table]? = some d := by
  obtain ⟨column, target, hjoined⟩ := mem_resolvedKeys.1 hk
  obtain ⟨d, hd, -⟩ := hjoined.source
  obtain ⟨e, he, -⟩ := hjoined.targetColumn
  simp [skeletons, hd, he]

theorem joins_nodup (h : Unambiguous (createdTables statements)) : (joins statements).Nodup := by
  refine List.Nodup.map_on (fun k hk k' _ heq => ?_) (nodup_eraseDups _)
  obtain ⟨⟨d, hd⟩, e, he⟩ := skeletons_of_mem (List.mem_eraseDups.1 hk)
  obtain ⟨hsource, htarget⟩ := Prod.mk.inj heq
  exact Prod.ext (spotAt_inj h hd hsource) (spotAt_inj h he htarget)

/-- what is joined, with no word of places -/
theorem mem_joins (h : Unambiguous (createdTables statements)) {a b : Spot} :
    (a, b) ∈ joins statements ↔ ∃ d ∈ skeletons statements, ∃ e ∈ skeletons statements,
      a.table = some d ∧ b.table = some e ∧ WritesJoin statements d a.column e b.column := by
  have hskeleton : ∀ (i : ℕ) d, (skeletons statements)[i]? = some d ↔ ∃ d', (draftsOf statements)[i]? = some d' ∧
      d'.skeleton = d := fun i d => by rw [skeletons, List.getElem?_map, Option.map_eq_some_iff]
  simp only [joins, List.mem_map, List.mem_eraseDups, Prod.exists, mem_resolvedKeys, Prod.mk.injEq]
  constructor
  · rintro ⟨p, q, ⟨column, target, hdeclares, ⟨d, hd, hi⟩, htable, e, he, hj⟩, rfl, rfl⟩
    have hd' := (hskeleton _ _).2 ⟨d, hd, rfl⟩
    have he' := (hskeleton _ _).2 ⟨e, he, rfl⟩
    obtain ⟨u, hu, hwrites⟩ := (declares_iff h).1 hdeclares
    obtain ⟨v, hv, hkey⟩ := h.firstWith_iff.1 htable
    cases hu.symm.trans (createdTables_of_skeletons hd')
    cases hv.symm.trans (createdTables_of_skeletons he')
    refine ⟨_, List.mem_of_getElem? hd', _, List.mem_of_getElem? he', hd', he', column, target, hwrites, ?_, hkey, ?_⟩
    · exact (columnIndex?_skeleton d column).trans hi
    · exact (targetIndex?_skeleton e target).trans hj
  · rintro ⟨d, hd, e, he, ha, hb, column, target, hwrites, hi, hkey, hj⟩
    obtain ⟨i, hi'⟩ := List.mem_iff_getElem?.1 hd
    obtain ⟨j, hj'⟩ := List.mem_iff_getElem?.1 he
    obtain ⟨d, hd', rfl⟩ := (hskeleton _ _).1 hi'
    obtain ⟨e, he', rfl⟩ := (hskeleton _ _).1 hj'
    rw [columnIndex?_skeleton] at hi
    rw [targetIndex?_skeleton] at hj
    refine ⟨⟨i, a.column⟩, ⟨j, b.column⟩, ⟨column, target, ?_, ⟨d, hd', hi⟩, ?_, e, he', hj⟩, ?_, ?_⟩
    · exact (declares_iff h).2 ⟨_, createdTables_of_skeletons hi', hwrites⟩
    · exact h.firstWith_iff.2 ⟨_, createdTables_of_skeletons hj', hkey⟩
    · rw [spotAt, hi', ← ha]
    · rw [spotAt, hj', ← hb]

/-! ## The same content -/

/-- statements that create the same tables and write the same foreign keys for them -/
structure SameContent (statements statements' : List Statement) : Prop where
  skeletons : (skeletons statements).Perm (skeletons statements')
  keys : ∀ u column target, Writes statements u column target ↔ Writes statements' u column target
  keyless : Keyless statements ↔ Keyless statements'

theorem SameContent.refl (statements : List Statement) : SameContent statements statements :=
  ⟨.refl _, fun _ _ _ => Iff.rfl, Iff.rfl⟩

theorem SameContent.trans {statements'' : List Statement} (h : SameContent statements statements')
    (h' : SameContent statements' statements'') : SameContent statements statements'' :=
  ⟨h.skeletons.trans h'.skeletons, fun u column target => (h.keys u column target).trans (h'.keys u column target),
    h.keyless.trans h'.keyless⟩

/-- no key is claimed twice in either -/
theorem SameContent.unambiguous (hsame : SameContent statements statements')
    (h : Unambiguous (createdTables statements)) : Unambiguous (createdTables statements') := by
  have htables := hsame.skeletons.map (·.table)
  rw [skeletons_tables, skeletons_tables] at htables
  exact (htables.pairwise_iff fun hdisjoint => List.Disjoint.symm hdisjoint).1 h

/-- the same columns are joined -/
theorem SameContent.joins_perm (hsame : SameContent statements statements')
    (h : Unambiguous (createdTables statements)) : (joins statements).Perm (joins statements') := by
  have h' := hsame.unambiguous h
  refine (List.perm_ext_iff_of_nodup (joins_nodup h) (joins_nodup h')).2 fun ⟨a, b⟩ => ?_
  rw [mem_joins h, mem_joins h']
  simp only [WritesJoin, hsame.keys, hsame.skeletons.mem_iff]

end Crowfoot.Ddl
