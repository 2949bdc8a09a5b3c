import Mathlib.Order.Bounds.Basic
import Crowfoot.Proofs.Ddl.Drafting

/-
Which constraints the columns of a created table have: those of their own definitions, and those of the constraints of
the table that name them. Of several primary keys only the first column keeps one.

- `Means`: the column that a name means. `columnIndex?_eq_some_iff`: it is the one that is looked up.
- `HasAt`: the column at a place has a constraint. `hasAt_flagColumn`, `hasAt_applyConstraint`: what one step adds;
  `foldl_hasAt`: what all of them add; `hasAt_keepFirstKey`: what is left of keys.
- `applyConstraint_matched`: names that no column has do nothing.
- `draftTable_merges`: the whole table.
-/

namespace Crowfoot.Ddl

/-! ## Names of columns -/

/-- the column that a name means: the first with exactly this name or, if there is none, the first with it in another
letter case -/
inductive Means (names : List String) (name : String) (j : ℕ) : Prop where
  | exactly (h : IsLeast {i | names[i]? = some name} j)
  | folded (hnone : name ∉ names) (h : IsLeast {i | ∃ n, names[i]? = some n ∧ Text.lower n = Text.lower name} j)

theorem columnIndex?_eq_some_iff {cs : List DraftColumn} {name : String} {j : ℕ} :
    columnIndex? cs name = some j ↔ Means (cs.map (·.name)) name j := by
  have hexact : ∀ i, cs.findIdx? (·.name = name) = some i ↔ IsLeast {i | (cs.map (·.name))[i]? = some name} i := by
    intro i
    rw [findIdx?_eq_some_iff_isLeast]
    simp
  have hfolded : ∀ i, cs.findIdx? (fun c => Text.lower c.name = Text.lower name) = some i ↔
      IsLeast {i | ∃ n, (cs.map (·.name))[i]? = some n ∧ Text.lower n = Text.lower name} i := by
    intro i
    rw [findIdx?_eq_some_iff_isLeast]
    simp
  unfold columnIndex?
  cases hfound : cs.findIdx? (·.name = name) with
  | some i =>
    have hmem : name ∈ cs.map (·.name) := List.mem_of_getElem? ((hexact i).1 hfound).1
    constructor
    · rintro heq
      cases heq
      exact .exactly ((hexact j).1 hfound)
    · rintro (h | ⟨hnone, -⟩)
      · rw [(hexact j).2 h] at hfound
        exact hfound.symm
      · exact absurd hmem hnone
  | none =>
    have hnone : name ∉ cs.map (·.name) := by
      simpa [List.findIdx?_eq_none_iff] using hfound
    refine (hfolded j).trans ⟨.folded hnone, ?_⟩
    rintro (h | ⟨-, h⟩)
    · exact absurd (List.mem_of_getElem? h.1) hnone
    · exact h

/-! ## Constraints of columns -/

/-- the column at a place has a constraint -/
def HasAt (cs : List DraftColumn) (k : Constraint) (j : ℕ) : Prop := ∃ c, cs[j]? = some c ∧ k ∈ c.constraints

section HasAt

variable {k : Constraint} {j : ℕ}

@[simp] theorem hasAt_nil : ¬ HasAt [] k j := by simp [HasAt]

@[simp] theorem hasAt_cons_zero {c : DraftColumn} {cs : List DraftColumn} :
    HasAt (c :: cs) k 0 ↔ k ∈ c.constraints := by simp [HasAt]

@[simp] theorem hasAt_cons_succ {c : DraftColumn} {cs : List DraftColumn} :
    HasAt (c :: cs) k (j + 1) ↔ HasAt cs k j := by simp [HasAt]

theorem hasAt_ofDef (columns : List ColumnDef) :
    HasAt (columns.map DraftColumn.ofDef) k j ↔ ∃ d, columns[j]? = some d ∧ k ∈ (DraftColumn.ofDef d).constraints := by
  simp [HasAt]

theorem hasAt_flagColumn (flag : Constraint) (cs : List DraftColumn) (name : String) :
    HasAt (flagColumn flag cs name) k j ↔ HasAt cs k j ∨ k = flag ∧ Means (cs.map (·.name)) name j := by
  rw [← columnIndex?_eq_some_iff]
  unfold flagColumn
  cases hfound : columnIndex? cs name with
  | none => simp
  | some i =>
    by_cases hij : i = j
    · subst hij
      obtain ⟨c, hc⟩ := columnIndex?_getElem? hfound
      simp [HasAt, hc, DraftColumn.mem_add]
    · simp [HasAt, hij]

/-- what is added step by step, by steps that leave the names, is added by one of them -/
theorem foldl_hasAt {α : Type} {step : List DraftColumn → α → List DraftColumn} {Q : List String → α → Prop}
    (hnames : ∀ cs x, (step cs x).map (·.name) = cs.map (·.name))
    (hstep : ∀ cs x, HasAt (step cs x) k j ↔ HasAt cs k j ∨ Q (cs.map (·.name)) x) (xs : List α)
    (cs : List DraftColumn) : HasAt (xs.foldl step cs) k j ↔ HasAt cs k j ∨ ∃ x ∈ xs, Q (cs.map (·.name)) x := by
  induction xs generalizing cs with
  | nil => simp
  | cons x xs ih => rw [List.foldl_cons, ih, hnames, hstep, List.exists_mem_cons_iff, or_assoc]

theorem map_name_ofDef (columns : List ColumnDef) :
    (columns.map DraftColumn.ofDef).map (·.name) = columns.map (·.name) := by
  rw [List.map_map]
  exact List.map_congr_left fun d _ => map_ofDef (f := DraftColumn.name) (fun _ _ => rfl) d

theorem map_name_flagColumn (flag : Constraint) (cs : List DraftColumn) (name : String) :
    (flagColumn flag cs name).map (·.name) = cs.map (·.name) := map_flagColumn (fun _ _ => rfl) flag cs name

theorem map_name_applyConstraint (cs : List DraftColumn) (c : ConstraintDef) :
    (applyConstraint cs c).map (·.name) = cs.map (·.name) := map_applyConstraint (fun _ _ => rfl) cs c

theorem hasAt_applyConstraint (cs : List DraftColumn) (c : ConstraintDef) :
    HasAt (applyConstraint cs c) k j ↔
      HasAt cs k j ∨ c.kind.flag? = some k ∧ ∃ name ∈ c.columns, Means (cs.map (·.name)) name j := by
  unfold applyConstraint
  split
  · rename_i flag hflag
    rw [hflag, foldl_hasAt (Q := fun names name => k = flag ∧ Means names name j) (map_name_flagColumn flag)
      (hasAt_flagColumn flag)]
    simp [eq_comm, and_left_comm]
  · rename_i hnone
    simp [hnone]

/-- the columns keep their constraints, but for a key after another one -/
theorem hasAt_keepFirstKey (cs : List DraftColumn) :
    HasAt (keepFirstKey cs) k j ↔ HasAt cs k j ∧ (k = .primaryKey → ∀ i < j, ¬ HasAt cs .primaryKey i) := by
  induction cs generalizing j with
  | nil => simp [keepFirstKey]
  | cons c cs ih =>
    unfold keepFirstKey
    split_ifs with hkey
    · have hfirst : Constraint.primaryKey ∈ c.constraints := List.contains_iff_mem.1 hkey
      cases j with
      | zero => simp
      | succ j =>
        -- a later column loses its key to this one
        have hstrip : HasAt (cs.map fun c => { c with constraints := c.constraints.filter (· ≠ .primaryKey) }) k j ↔
            HasAt cs k j ∧ k ≠ .primaryKey := by
          simp only [HasAt, List.getElem?_map, Option.map_eq_some_iff]
          grind
        rw [hasAt_cons_succ, hasAt_cons_succ, hstrip]
        refine and_congr_right fun _ => ⟨fun hne heq => absurd heq hne, fun hnone heq => ?_⟩
        exact hnone heq 0 (Nat.succ_pos j) (hasAt_cons_zero.2 hfirst)
    · have hfirst : Constraint.primaryKey ∉ c.constraints := fun hmem => hkey (List.contains_iff_mem.2 hmem)
      cases j with
      | zero => simp
      | succ j =>
        have hlater : (∀ i < j + 1, ¬ HasAt (c :: cs) .primaryKey i) ↔ ∀ i < j, ¬ HasAt cs .primaryKey i := by
          rw [Nat.forall_lt_succ_left]
          simp [hfirst]
        rw [hasAt_cons_succ, hasAt_cons_succ, ih, hlater]

end HasAt

/-! ## Names that no column has -/

/-- a constraint without the names that no column has in any letter case -/
def ConstraintDef.matched (columns : List ColumnDef) (c : ConstraintDef) : ConstraintDef :=
  { c with columns := c.columns.filter fun name => columns.any fun d => Text.lower d.name = Text.lower name }

theorem flagColumn_unmatched {columns : List ColumnDef} {cs : List DraftColumn}
    (hnames : cs.map (·.name) = columns.map (·.name)) {name : String}
    (hname : ∀ d ∈ columns, Text.lower d.name ≠ Text.lower name) (flag : Constraint) : flagColumn flag cs name = cs := by
  have hnone : columnIndex? cs name = none := by
    rw [Option.eq_none_iff_forall_ne_some]
    intro j hj
    have hmeans := columnIndex?_eq_some_iff.1 hj
    rw [hnames] at hmeans
    obtain ⟨n, hn, heq⟩ : ∃ n ∈ columns.map (·.name), Text.lower n = Text.lower name := by
      rcases hmeans with h | ⟨-, h⟩
      · exact ⟨name, List.mem_of_getElem? h.1, rfl⟩
      · obtain ⟨n, hn, heq⟩ := h.1
        exact ⟨n, List.mem_of_getElem? hn, heq⟩
    obtain ⟨d, hd, rfl⟩ := List.mem_map.1 hn
    exact hname d hd heq
  rw [flagColumn, hnone]

theorem foldl_flagColumn_matched {columns : List ColumnDef} {cs : List DraftColumn}
    (hnames : cs.map (·.name) = columns.map (·.name)) (flag : Constraint) (names : List String) :
    (names.filter fun name => columns.any fun d => Text.lower d.name = Text.lower name).foldl (flagColumn flag) cs =
      names.foldl (flagColumn flag) cs := by
  induction names generalizing cs with
  | nil => rfl
  | cons name names ih =>
    by_cases hname : ∀ d ∈ columns, Text.lower d.name ≠ Text.lower name
    · rw [List.filter_cons_of_neg (by simpa using hname), ih hnames, List.foldl_cons,
        flagColumn_unmatched hnames hname]
    · rw [List.filter_cons_of_pos (by simpa using hname), List.foldl_cons, List.foldl_cons,
        ih ((map_name_flagColumn flag cs name).trans hnames)]

theorem applyConstraint_matched {columns : List ColumnDef} {cs : List DraftColumn}
    (hnames : cs.map (·.name) = columns.map (·.name)) (c : ConstraintDef) :
    applyConstraint cs (c.matched columns) = applyConstraint cs c := by
  simp only [applyConstraint, ConstraintDef.matched]
  cases c.kind.flag? with
  | none => rfl
  | some flag => exact foldl_flagColumn_matched hnames flag c.columns

theorem foldl_applyConstraint_matched {columns : List ColumnDef} {cs : List DraftColumn}
    (hnames : cs.map (·.name) = columns.map (·.name)) (constraints : List ConstraintDef) :
    (constraints.map (ConstraintDef.matched columns)).foldl applyConstraint cs =
      constraints.foldl applyConstraint cs := by
  induction constraints generalizing cs with
  | nil => rfl
  | cons c constraints ih =>
    rw [List.map_cons, List.foldl_cons, List.foldl_cons, applyConstraint_matched hnames,
      ih ((map_name_applyConstraint cs c).trans hnames)]

/-! ## Tables -/

/-- a column is marked by its own definition, or by a constraint of the table which lists a name that means it -/
inductive Marked (columns : List ColumnDef) (constraints : List ConstraintDef) (kind : ConstraintKind)
    (own : ColumnDef → Bool) (j : ℕ) : Prop where
  | inline {d : ColumnDef} (hd : columns[j]? = some d) (hown : own d = true)
  | listed {c : ConstraintDef} {name : String} (hc : c ∈ constraints) (hkind : c.kind = kind)
    (hname : name ∈ c.columns) (hmeans : Means (columns.map (·.name)) name j)

section Tables

variable (table : TableRef) (columns : List ColumnDef) (constraints : List ConstraintDef) {j : ℕ}

/-- before keys are taken away, a column has what its definition says and what names that mean it are listed under -/
theorem hasAt_merged {k : Constraint} :
    HasAt (constraints.foldl applyConstraint (columns.map DraftColumn.ofDef)) k j ↔
      (∃ d, columns[j]? = some d ∧ k ∈ (DraftColumn.ofDef d).constraints) ∨
        ∃ c ∈ constraints, c.kind.flag? = some k ∧ ∃ name ∈ c.columns, Means (columns.map (·.name)) name j := by
  rw [foldl_hasAt (Q := fun names c => c.kind.flag? = some k ∧ ∃ name ∈ c.columns, Means names name j)
    map_name_applyConstraint hasAt_applyConstraint, hasAt_ofDef, map_name_ofDef]

/-- a flag that one kind of constraint sets is on the columns that are marked with this kind -/
theorem hasAt_merged_iff_marked {k : Constraint} {kind : ConstraintKind} {own : ColumnDef → Bool}
    (hflag : ∀ kind' : ConstraintKind, kind'.flag? = some k ↔ kind' = kind)
    (hown : ∀ d, k ∈ (DraftColumn.ofDef d).constraints ↔ own d = true) :
    HasAt (constraints.foldl applyConstraint (columns.map DraftColumn.ofDef)) k j ↔
      Marked columns constraints kind own j := by
  rw [hasAt_merged]
  constructor
  · rintro (⟨d, hd, hk⟩ | ⟨c, hc, hkind, name, hname, hmeans⟩)
    · exact .inline hd ((hown d).1 hk)
    · exact .listed hc ((hflag _).1 hkind) hname hmeans
  · rintro (⟨hd, hk⟩ | ⟨hc, hkind, hname, hmeans⟩)
    · exact Or.inl ⟨_, hd, (hown _).2 hk⟩
    · exact Or.inr ⟨_, hc, (hflag _).2 hkind, _, hname, hmeans⟩

/-- all but the keys are left as they are merged -/
theorem hasAt_draftTable {k : Constraint} (hk : k ≠ .primaryKey) :
    HasAt (draftTable table columns constraints).columns k j ↔
      HasAt (constraints.foldl applyConstraint (columns.map DraftColumn.ofDef)) k j := by
  rw [draftTable, hasAt_keepFirstKey]
  simp [hk]

theorem hasAt_notNull : HasAt (draftTable table columns constraints).columns .notNull j ↔
    ∃ d, columns[j]? = some d ∧ d.notNull = true := by
  have hflag : ∀ kind : ConstraintKind, kind.flag? ≠ some .notNull := by
    intro kind
    cases kind <;> simp [ConstraintKind.flag?]
  rw [hasAt_draftTable table columns constraints (by decide), hasAt_merged]
  simp [hflag, DraftColumn.mem_ofDef]

theorem hasAt_unique : HasAt (draftTable table columns constraints).columns .unique j ↔
    Marked columns constraints .unique (·.unique) j := by
  rw [hasAt_draftTable table columns constraints (by decide)]
  refine hasAt_merged_iff_marked columns constraints (fun kind => ?_) fun d => ?_
  · cases kind <;> simp [ConstraintKind.flag?]
  · simp [DraftColumn.mem_ofDef]

/-- the key is the first of the columns that are marked as keys -/
theorem hasAt_primaryKey : HasAt (draftTable table columns constraints).columns .primaryKey j ↔
    IsLeast {i | Marked columns constraints .primaryKey (·.primaryKey) i} j := by
  have hmarked : ∀ i, HasAt (constraints.foldl applyConstraint (columns.map DraftColumn.ofDef)) .primaryKey i ↔
      Marked columns constraints .primaryKey (·.primaryKey) i := by
    intro i
    refine hasAt_merged_iff_marked columns constraints (fun kind => ?_) fun d => ?_
    · cases kind <;> simp [ConstraintKind.flag?]
    · simp [DraftColumn.mem_ofDef]
  rw [draftTable, hasAt_keepFirstKey, hmarked]
  simp only [hmarked, forall_const]
  refine and_congr_right fun _ => ⟨fun hnone i hi => ?_, fun hleast i hij hi => ?_⟩
  · by_contra hlt
    exact hnone i (not_le.1 hlt) hi
  · exact absurd (hleast hi) (not_le.2 hij)

theorem draftTable_nodup : ∀ c ∈ (draftTable table columns constraints).columns, c.constraints.Nodup := by
  refine draftTable_forall (fun c k _ hc => ?_) (fun c hc => hc.filter _) table constraints fun _ _ => List.nodup_nil
  unfold DraftColumn.add
  split_ifs with h
  · exact hc
  · rw [List.contains_iff_mem] at h
    exact hc.append (List.nodup_singleton k) (List.disjoint_singleton.2 h)

/-- **Merging constraints.** A created table has its columns in order, each with its name, type and reference. A column
is not null exactly if its definition says so; it is unique exactly if its definition says so or a unique constraint of
the table lists a name that means it. If some column is marked as primary key, by its definition or by a constraint of
the table, then exactly one column is the key, and this is the first that is marked; otherwise none is. No column is
marked as a foreign key, none has a constraint twice, and names that no column has in any letter case do nothing. -/
theorem draftTable_merges :
    (draftTable table columns constraints).table = table ∧
      ((draftTable table columns constraints).columns.map fun c => (c.name, c.type, c.reference)) =
        (columns.map fun d => (d.name, columnTypeOf d.typeName, d.reference)) ∧
      (∀ j, HasAt (draftTable table columns constraints).columns .notNull j ↔
        ∃ d, columns[j]? = some d ∧ d.notNull = true) ∧
      (∀ j, HasAt (draftTable table columns constraints).columns .unique j ↔
        Marked columns constraints .unique (·.unique) j) ∧
      (∀ j, HasAt (draftTable table columns constraints).columns .primaryKey j ↔
        IsLeast {i | Marked columns constraints .primaryKey (·.primaryKey) i} j) ∧
      ((∃ i, Marked columns constraints .primaryKey (·.primaryKey) i) →
        ∃! j, HasAt (draftTable table columns constraints).columns .primaryKey j) ∧
      ((∀ i, ¬ Marked columns constraints .primaryKey (·.primaryKey) i) →
        ∀ j, ¬ HasAt (draftTable table columns constraints).columns .primaryKey j) ∧
      (∀ c ∈ (draftTable table columns constraints).columns,
        .foreignKey ∉ c.constraints ∧ c.constraints.Nodup) ∧
      draftTable table columns (constraints.map (ConstraintDef.matched columns)) =
        draftTable table columns constraints := by
  have hkey := fun j => hasAt_primaryKey table columns constraints (j := j)
  refine ⟨rfl, map_draftTable (fun _ _ => rfl) table columns constraints,
    fun j => hasAt_notNull table columns constraints, fun j => hasAt_unique table columns constraints, hkey, ?_, ?_,
    fun c hc => ⟨(draftTable_plain table columns constraints c hc).2, draftTable_nodup table columns constraints c hc⟩,
    ?_⟩
  · intro hsome
    have hleast : IsLeast {i | Marked columns constraints .primaryKey (·.primaryKey) i} _ :=
      ⟨Nat.sInf_mem hsome, fun _ hi => Nat.sInf_le hi⟩
    exact ⟨_, (hkey _).2 hleast, fun j hj => ((hkey j).1 hj).unique hleast⟩
  · intro hnone j hj
    exact hnone j ((hkey j).1 hj).1
  · rw [draftTable, foldl_applyConstraint_matched (map_name_ofDef columns), draftTable]

end Tables

/-- two columns whose names differ in letter case only, after another one -/
def shelfColumns : List ColumnDef :=
  [⟨"room", "INTEGER", false, false, true, none⟩, ⟨"shelf", "TEXT", true, true, false, none⟩,
    ⟨"Shelf", "TEXT", false, false, false, none⟩]

/-- a key over two columns and one that is not there, and a unique constraint that lists a column twice -/
def shelfConstraints : List ConstraintDef :=
  [⟨.primaryKey, ["Shelf", "ROOM", "floor"], none, none⟩, ⟨.unique, ["shelf", "SHELF"], none, none⟩]

theorem draftTable_merges_shelves :
    (draftTable ⟨"shelves", none⟩ shelfColumns shelfConstraints).columns.map (·.constraints) =
        [[.notNull, .primaryKey], [.unique], []] ∧
      Marked shelfColumns shelfConstraints .primaryKey (·.primaryKey) 2 ∧
      IsLeast {i | Marked shelfColumns shelfConstraints .primaryKey (·.primaryKey) i} 0 ∧
      (∃! j, HasAt (draftTable ⟨"shelves", none⟩ shelfColumns shelfConstraints).columns .primaryKey j) ∧
      ¬ Marked shelfColumns shelfConstraints .unique (·.unique) 2 := by
  obtain ⟨-, -, -, hunique, hkey, hsole, -⟩ := draftTable_merges ⟨"shelves", none⟩ shelfColumns shelfConstraints
  have hmeans : Means (shelfColumns.map (·.name)) "Shelf" 2 := by
    rw [← map_name_ofDef]
    exact columnIndex?_eq_some_iff.1 (by decide)
  have hmarked : Marked shelfColumns shelfConstraints .primaryKey (·.primaryKey) 2 :=
    .listed List.mem_cons_self rfl List.mem_cons_self hmeans
  refine ⟨by decide, hmarked, (hkey 0).1 ⟨_, rfl, by decide⟩, hsole ⟨2, hmarked⟩, fun h => ?_⟩
  obtain ⟨c, hc, hmem⟩ := (hunique 2).2 h
  cases hc
  revert hmem
  decide

end Crowfoot.Ddl
