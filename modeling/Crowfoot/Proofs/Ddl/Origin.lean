import Crowfoot.Proofs.Ddl.Assembly
import Crowfoot.Proofs.Ddl.Keys

/-
Where relationships come from: which foreign key of the statements, on which table.

- `Declares`: the foreign keys of a table, be they references in its column definitions or constraints that name it.
- `Joined`: a foreign key whose two columns are there. `mem_resolvedKeys` says that these are the ones that count.
- `assemble_traced`: the relationships of a schema are the foreign keys that join columns; all others are dropped.
- `assemble_crossing`: a constraint may end up on a table of another database schema, since short names of qualified
  tables are looked up like names without a schema. Targets are not looked up so.
-/

namespace Crowfoot.Ddl

variable {statements : List Statement} {p q : Place}

/-! ## Declared keys -/

/-- the table at a place has a foreign key over a column to some target -/
inductive Declares (statements : List Statement) (i : ℕ) (column : String) (target : Reference) : Prop where
  /-- a reference in one of its column definitions -/
  | inline {d : Draft} {c : DraftColumn} (hd : (draftsOf statements)[i]? = some d) (hc : c ∈ d.columns)
    (hname : c.name = column) (htarget : c.reference = some target)
  /-- a constraint on a name that it is taken for -/
  | constraint {t : TableRef} (hk : ⟨t, column, target⟩ ∈ createdKeys statements ++ alteredKeys statements)
    (howner : Owner (createdTables statements) t i)

theorem mem_declaredKeys {k : DeclaredKey} :
    k ∈ declaredKeys statements ↔ Declares statements k.table k.column k.target := by
  simp only [declaredKeys, List.mem_append (s := (draftsOf statements).zipIdx.flatMap _), List.mem_flatMap,
    Draft.inlineKeys, List.mem_filterMap, Option.map_eq_some_iff, Prod.exists, List.mem_zipIdx_iff_getElem?]
  constructor
  · rintro (⟨d, i, hd, c, hc, target, htarget, rfl⟩ | ⟨k, hk, i, hi, rfl⟩)
    · exact .inline hd hc rfl htarget
    · rw [tablePlace?_eq_some, draftsOf_tables] at hi
      exact .constraint hk hi
  · rintro (⟨hd, hc, hname, htarget⟩ | ⟨hk, howner⟩)
    · exact Or.inl ⟨_, _, hd, _, hc, _, htarget, by rw [hname]⟩
    · rw [← draftsOf_tables, ← tablePlace?_eq_some] at howner
      exact Or.inr ⟨_, hk, _, howner, rfl⟩

/-! ## Joined columns -/

/-- a foreign key joins the columns at two places -/
structure Joined (statements : List Statement) (column : String) (target : Reference) (p q : Place) : Prop where
  declared : Declares statements p.table column target
  source : ∃ d, (draftsOf statements)[p.table]? = some d ∧ columnIndex? d.columns column = some p.column
  /-- the table that it refers to is the first one that claims just the name it gives -/
  targetTable : FirstWith (createdTables statements) (nameKey target.table.qualified) q.table
  targetColumn : ∃ d, (draftsOf statements)[q.table]? = some d ∧ targetIndex? d.columns target = some q.column

theorem resolve?_eq_some {drafts : List Draft} {k : DeclaredKey} :
    resolve? drafts k = some (p, q) ↔ k.table = p.table ∧
      (∃ d, drafts[p.table]? = some d ∧ columnIndex? d.columns k.column = some p.column) ∧
      FirstWith (drafts.map (·.table)) (nameKey k.target.table.qualified) q.table ∧
      ∃ d, drafts[q.table]? = some d ∧ targetIndex? d.columns k.target = some q.column := by
  simp only [resolve?, Option.bind_eq_bind, Option.bind_eq_some_iff, lookup_keysFrom_eq_some]
  constructor
  · rintro ⟨d, hd, j, hj, d', hd', i, hi, i', hi', heq⟩
    cases heq
    exact ⟨rfl, ⟨d, hd, hi⟩, hj, d', hd', hi'⟩
  · rintro ⟨htable, ⟨d, hd, hi⟩, hj, d', hd', hi'⟩
    exact ⟨d, htable ▸ hd, q.table, hj, d', hd', p.column, hi, q.column, hi', by rw [htable]; rfl⟩

/-- the foreign keys that count are those that join columns -/
theorem mem_resolvedKeys : (p, q) ∈ resolvedKeys statements ↔ ∃ column target, Joined statements column target p q := by
  simp only [resolvedKeys, List.mem_filterMap, mem_declaredKeys, resolve?_eq_some, draftsOf_tables]
  constructor
  · rintro ⟨⟨i, column, target⟩, hdeclares, rfl, hsource, htable, hcolumn⟩
    exact ⟨column, target, hdeclares, hsource, htable, hcolumn⟩
  · rintro ⟨column, target, hdeclares, hsource, htable, hcolumn⟩
    exact ⟨⟨p.table, column, target⟩, hdeclares, rfl, hsource, htable, hcolumn⟩

/-! ## Relationships -/

variable {κ σ : Type}

/-- what the relationships of a schema have to do with the foreign keys of statements -/
structure Traced (statements : List Statement) (s : Schema κ) : Prop where
  /-- places of tables are those of the statements that create them -/
  tables : s.tables.map (·.name) = (createdTables statements).map (·.name)
  /-- every relationship comes from a foreign key -/
  origin : ∀ r ∈ s.relationships, ∃ p q column target, Joined statements column target p q ∧
    s.endAt? p = some r.source ∧ s.endAt? q = some r.target
  /-- no foreign key that joins columns is dropped -/
  kept : ∀ p q column target, Joined statements column target p q →
    ∃ r ∈ s.relationships, s.endAt? p = some r.source ∧ s.endAt? q = some r.target

theorem Built.traced {s : Schema κ} (h : Built statements s) : Traced statements s := by
  refine ⟨?_, fun r hr => ?_, fun p q column target hjoined => ?_⟩
  · have hnames := congrArg (List.map (·.1)) h.tables
    rw [List.map_map, List.map_map] at hnames
    rw [← draftsOf_tables, List.map_map]
    exact hnames
  · obtain ⟨⟨p, q⟩, hk, hsource, htarget⟩ := forall₂_mem_left h.relationships hr
    obtain ⟨column, target, hjoined⟩ := mem_resolvedKeys.1 (List.mem_eraseDups.1 hk)
    exact ⟨p, q, column, target, hjoined, hsource, htarget⟩
  · have hk : (p, q) ∈ (resolvedKeys statements).eraseDups :=
      List.mem_eraseDups.2 (mem_resolvedKeys.2 ⟨column, target, hjoined⟩)
    exact forall₂_mem_right h.relationships hk

variable [Coordinate κ] [IdSupply σ]

/-- **Origins.** A schema that statements make has a relationship for every foreign key that joins columns, and no
other. A reference in a column definition is a foreign key of its own table. A constraint belongs to the first table
that claims the qualified name it is declared on, and, only if none does, to the first that claims the short one; in
that case its table may be of any database schema. -/
theorem assemble_traced (statements : List Statement) (ids : σ) (hids : IdSupply.Fresh [] ids) :
    (Keyless statements ∧ (assemble statements ids : Except AssemblyError (Schema κ × σ)) = .error .noColumns) ∨
      MadeOrUnplaced id (Traced statements) (assemble statements ids : Except AssemblyError (Schema κ × σ)) := by
  rcases assemble_cases (κ := κ) statements hids with hkeyless | ⟨-, l, -, hlinked, hmade⟩
  · exact Or.inl hkeyless
  · exact Or.inr (hmade.imp fun s hs => (hlinked.built hs.1 hs.2).traced)

/-- two tables of one database schema, and a foreign key added to a table of another -/
def crossing : List Statement :=
  [.createTable ⟨"t", some "b"⟩ [⟨"id", "INTEGER", true, false, false, none⟩,
      ⟨"u_id", "INTEGER", false, false, false, none⟩] [],
    .createTable ⟨"u", some "b"⟩ [⟨"id", "INTEGER", true, false, false, none⟩] [],
    .alterTable ⟨"t", some "a"⟩ [⟨.foreignKey, ["u_id"], some ⟨⟨"u", some "b"⟩, ["id"]⟩, none⟩]]

theorem assemble_traced_crossing :
    IdSupply.Fresh [] (⟨"", 0, []⟩ : Counting) ∧
      ((Keyless crossing ∧
          (assemble crossing ⟨"", 0, []⟩ : Except AssemblyError (Schema ℚ × Counting)) = .error .noColumns) ∨
        MadeOrUnplaced id (Traced crossing)
          (assemble crossing ⟨"", 0, []⟩ : Except AssemblyError (Schema ℚ × Counting))) := by
  have hids : IdSupply.Fresh [] (⟨"", 0, []⟩ : Counting) := Counting.fresh_of_subset (List.Subset.refl _)
  exact ⟨hids, assemble_traced crossing (⟨"", 0, []⟩ : Counting) hids⟩

/-- The only foreign key is on `a.t`, and neither `a.t` nor a `t` without a schema is created; it becomes a relationship
of `b.t` all the same. -/
theorem assemble_crossing :
    (∀ d ∈ draftsOf crossing, ∀ c ∈ d.columns, c.reference = none) ∧
      createdKeys crossing ++ alteredKeys crossing =
        [⟨⟨"t", some "a"⟩, "u_id", ⟨⟨"u", some "b"⟩, ["id"]⟩⟩] ∧
      (∀ t ∈ createdTables crossing, nameKey t.qualified ≠ nameKey "a.t" ∧
        (t.isQualified = false → nameKey t.name ≠ nameKey "t")) ∧
      (assemble crossing ⟨"", 0, []⟩ : Except AssemblyError (Schema ℚ × Counting)).toOption.map
          (fun made => made.1.relationships.map fun r => (r.source, r.target)) =
        some [(⟨"t_1", "c_3"⟩, ⟨"t_4", "c_5"⟩)] := by
  refine ⟨?_, ?_, ?_, ?_⟩ <;> decide +kernel

end Crowfoot.Ddl
