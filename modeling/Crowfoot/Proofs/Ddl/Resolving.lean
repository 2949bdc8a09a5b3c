import Crowfoot.Proofs.Items
import Crowfoot.Proofs.Outcome
import Crowfoot.Ddl.Assembly

/-
What the foreign keys of some statements mean, said of the drafts as the statements leave them: before any id is drawn
and any column is marked.

- `declaredKeys`: all foreign keys, in the order in which they are linked. `resolvedKeys`: those whose ends are there,
  as pairs of places.
- `Draft.bare`: a draft without ids and marks. Nothing that a name is looked up by is lost (`resolve?_bare`), so that a
  foreign key means the same whatever was linked before it.
- `foreignKeys_eq`, `foreignKeys_error`: reading the foreign keys fails exactly if one of them is over no columns.
-/

namespace Crowfoot.Ddl

/-! ## Places -/

/-- a column of a list of tables: the place of its table, and its own place there -/
structure Place where
  table : ℕ
  column : ℕ
  deriving DecidableEq, Repr

@[ext] theorem Place.ext {p q : Place} (htable : p.table = q.table) (hcolumn : p.column = q.column) : p = q := by
  obtain ⟨i, j⟩ := p
  obtain ⟨i', j'⟩ := q
  obtain rfl : i = i' := htable
  obtain rfl : j = j' := hcolumn
  rfl

/-- the column at a place -/
def columnAt? (drafts : List Draft) (p : Place) : Option DraftColumn := do
  let d ← drafts[p.table]?
  d.columns[p.column]?

/-- the end of a relationship that the column at a place is -/
def endAt? (drafts : List Draft) (p : Place) : Option Endpoint := do
  let d ← drafts[p.table]?
  let c ← d.columns[p.column]?
  return ⟨d.id, c.id⟩

/-! ## Declared keys -/

/-- a foreign key of the table at some place -/
structure DeclaredKey where
  table : ℕ
  column : String
  target : Reference
  deriving DecidableEq, Repr

/-- the references in the column definitions of one table -/
def Draft.inlineKeys (d : Draft) (table : ℕ) : List DeclaredKey :=
  d.columns.filterMap fun c => c.reference.map fun r => ⟨table, c.name, r⟩

/-- what a foreign key among the constraints of a table declares; only its first column counts -/
def ConstraintDef.pending? (table : TableRef) (c : ConstraintDef) : Option PendingKey :=
  match c.kind, c.reference, c.columns with
  | .foreignKey, some target, column :: _ => some ⟨table, column, target⟩
  | _, _, _ => none

/-- the constraints of a statement -/
def Statement.constraints : Statement → List ConstraintDef
  | createTable _ _ cs => cs
  | alterTable _ cs => cs

/-- the foreign keys among the constraints of created tables -/
def createdKeys (statements : List Statement) : List PendingKey :=
  statements.flatMap fun
    | .createTable table _ cs => cs.filterMap (ConstraintDef.pending? table)
    | .alterTable .. => []

/-- the foreign keys that are added to tables -/
def alteredKeys (statements : List Statement) : List PendingKey :=
  statements.flatMap fun
    | .alterTable table cs => cs.filterMap (ConstraintDef.pending? table)
    | .createTable .. => []

/-- the place of the table that a foreign key is declared on: by its qualified name, or else by its short one -/
def tablePlace? (drafts : List Draft) (t : TableRef) : Option ℕ :=
  match (keysFrom 0 drafts).lookup (nameKey t.qualified) with
  | some i => some i
  | none => if t.isQualified then (keysFrom 0 drafts).lookup (nameKey t.name) else none

/-- the drafts of the created tables -/
def draftsOf (statements : List Statement) : List Draft := statements.filterMap Statement.draft?

/-- all foreign keys of some statements: those in column definitions, table by table, then those among the constraints
of created tables, then those that are added -/
def declaredKeys (statements : List Statement) : List DeclaredKey :=
  let drafts := draftsOf statements
  drafts.zipIdx.flatMap (fun d => d.1.inlineKeys d.2) ++
    (createdKeys statements ++ alteredKeys statements).filterMap fun k =>
      (tablePlace? drafts k.table).map fun i => ⟨i, k.column, k.target⟩

/-! ## Resolved keys -/

/-- the place of the column that a reference means: the first one it names, or the table's primary key -/
def targetIndex? (columns : List DraftColumn) (r : Reference) : Option ℕ :=
  match r.columns with
  | name :: _ => columnIndex? columns name
  | [] => columns.findIdx? DraftColumn.isPrimaryKey

/-- the places of the two columns that a foreign key joins, if everything it names is there -/
def resolve? (drafts : List Draft) (k : DeclaredKey) : Option (Place × Place) := do
  let source ← drafts[k.table]?
  let j ← (keysFrom 0 drafts).lookup (nameKey k.target.table.qualified)
  let target ← drafts[j]?
  let column ← columnIndex? source.columns k.column
  let targetColumn ← targetIndex? target.columns k.target
  return (⟨k.table, column⟩, ⟨j, targetColumn⟩)

/-- the foreign keys of some statements that join columns of their tables -/
def resolvedKeys (statements : List Statement) : List (Place × Place) :=
  (declaredKeys statements).filterMap (resolve? (draftsOf statements))

/-! ## Bare drafts -/

namespace DraftColumn

/-- the column without its id and without a mark -/
def bare (c : DraftColumn) : DraftColumn :=
  { c with id := "", constraints := c.constraints.filter (· ≠ .foreignKey) }

@[simp] theorem bare_name (c : DraftColumn) : c.bare.name = c.name := rfl

@[simp] theorem bare_reference (c : DraftColumn) : c.bare.reference = c.reference := rfl

theorem bare_contains (c : DraftColumn) {k : Constraint} (hk : k ≠ .foreignKey) :
    c.bare.constraints.contains k = c.constraints.contains k := by
  rw [Bool.eq_iff_iff, List.contains_iff_mem, List.contains_iff_mem, bare, List.mem_filter]
  simp [hk]

@[simp] theorem bare_isPrimaryKey (c : DraftColumn) : c.bare.isPrimaryKey = c.isPrimaryKey :=
  c.bare_contains (by decide)

end DraftColumn

/-- the draft without ids and marks -/
def Draft.bare (d : Draft) : Draft := { d with id := "", columns := d.columns.map DraftColumn.bare }

section Finding

-- columns are found by their names, so whatever keeps those keeps their places
variable {f : DraftColumn → DraftColumn} (hname : ∀ c, (f c).name = c.name)
include hname

theorem columnIndex?_map (cs : List DraftColumn) (name : String) :
    columnIndex? (cs.map f) name = columnIndex? cs name := by
  simp only [columnIndex?, List.findIdx?_map, Function.comp_def, hname]

theorem targetIndex?_map (hkey : ∀ c, (f c).isPrimaryKey = c.isPrimaryKey) (cs : List DraftColumn) (r : Reference) :
    targetIndex? (cs.map f) r = targetIndex? cs r := by
  unfold targetIndex?
  split
  · exact columnIndex?_map hname cs _
  · simp only [List.findIdx?_map, Function.comp_def, hkey]

end Finding

theorem columnIndex?_bare (cs : List DraftColumn) (name : String) :
    columnIndex? (cs.map DraftColumn.bare) name = columnIndex? cs name :=
  columnIndex?_map DraftColumn.bare_name cs name

theorem targetIndex?_bare (cs : List DraftColumn) (r : Reference) :
    targetIndex? (cs.map DraftColumn.bare) r = targetIndex? cs r :=
  targetIndex?_map DraftColumn.bare_name DraftColumn.bare_isPrimaryKey cs r

/-- the keys of tables depend on their names only -/
theorem keysFrom_bare (i : ℕ) (ds : List Draft) : keysFrom i (ds.map Draft.bare) = keysFrom i ds := by
  induction ds generalizing i with
  | nil => rfl
  | cons d ds ih => simp only [List.map_cons, keysFrom, ih, Draft.bare]

theorem inlineKeys_bare (d : Draft) (table : ℕ) : d.bare.inlineKeys table = d.inlineKeys table := by
  simp only [Draft.inlineKeys, Draft.bare, List.filterMap_map, Function.comp_def, DraftColumn.bare_name,
    DraftColumn.bare_reference]

/-- a foreign key means the same among drafts with ids and marks -/
theorem resolve?_bare (ds : List Draft) (k : DeclaredKey) : resolve? (ds.map Draft.bare) k = resolve? ds k := by
  unfold resolve?
  rw [keysFrom_bare]
  simp only [List.getElem?_map, Option.bind_eq_bind, Option.bind_map, Function.comp_def, Draft.bare, columnIndex?_bare,
    targetIndex?_bare]

/-- the column that a reference means stands at the place that it means -/
theorem targetColumn?_eq (cs : List DraftColumn) (r : Reference) :
    Linking.targetColumn? cs r = (targetIndex? cs r).bind (cs[·]?) := by
  cases hr : r.columns with
  | nil => simp only [Linking.targetColumn?, targetIndex?, hr, List.find?_eq_bind_findIdx?_getElem?]
  | cons name rest => simp only [Linking.targetColumn?, targetIndex?, hr]

/-- there is a column where one is found -/
theorem columnIndex?_getElem? {cs : List DraftColumn} {name : String} {i : ℕ} (h : columnIndex? cs name = some i) :
    ∃ c, cs[i]? = some c := by
  unfold columnIndex? at h
  split at h
  · rename_i j hj
    cases h
    obtain ⟨c, hc, -⟩ := findIdx?_getElem? hj
    exact ⟨c, hc⟩
  · obtain ⟨c, hc, -⟩ := findIdx?_getElem? h
    exact ⟨c, hc⟩

theorem targetIndex?_getElem? {cs : List DraftColumn} {r : Reference} {i : ℕ} (h : targetIndex? cs r = some i) :
    ∃ c, cs[i]? = some c := by
  unfold targetIndex? at h
  split at h
  · exact columnIndex?_getElem? h
  · obtain ⟨c, hc, -⟩ := findIdx?_getElem? h
    exact ⟨c, hc⟩

/-! ## Drafts of statements -/

namespace DraftColumn

theorem mem_add (c : DraftColumn) {k k' : Constraint} :
    k' ∈ (c.add k).constraints ↔ k' ∈ c.constraints ∨ k' = k := by
  unfold add
  split_ifs with h
  · rw [List.contains_iff_mem] at h
    exact (or_iff_left_of_imp fun heq => heq ▸ h).symm
  · simp

theorem mem_addIf (c : DraftColumn) (b : Bool) {k k' : Constraint} :
    k' ∈ (c.addIf b k).constraints ↔ k' ∈ c.constraints ∨ b = true ∧ k' = k := by
  cases b with
  | false => simp [addIf]
  | true => simp [addIf, mem_add]

/-- a definition gives its column the constraints that it says -/
theorem mem_ofDef (d : ColumnDef) {k : Constraint} : k ∈ (ofDef d).constraints ↔
    d.primaryKey = true ∧ k = .primaryKey ∨ d.unique = true ∧ k = .unique ∨ d.notNull = true ∧ k = .notNull := by
  simp [ofDef, mem_addIf, or_assoc]

end DraftColumn

section Drafting

-- what is true of the columns as they are defined, and stays true with a constraint more or without a key
variable {P : DraftColumn → Prop} (hadd : ∀ c k, k ≠ .foreignKey → P c → P (c.add k))

include hadd in
theorem ofDef_of_add (d : ColumnDef) (h : P ⟨"", d.name, columnTypeOf d.typeName, [], d.reference⟩) :
    P (DraftColumn.ofDef d) := by
  have haddIf : ∀ c b k, k ≠ .foreignKey → P c → P (c.addIf b k) := by
    intro c b k hk hc
    unfold DraftColumn.addIf
    split_ifs
    · exact hadd c k hk hc
    · exact hc
  exact haddIf _ _ _ (by decide) (haddIf _ _ _ (by decide) (haddIf _ _ _ (by decide) h))

include hadd in
theorem flagColumn_forall {flag : Constraint} (hflag : flag ≠ .foreignKey) {cs : List DraftColumn}
    (h : ∀ c ∈ cs, P c) (name : String) : ∀ c ∈ flagColumn flag cs name, P c := by
  unfold flagColumn
  split
  · intro c hc
    obtain ⟨j, hj⟩ := List.mem_iff_getElem?.1 hc
    rw [List.getElem?_modify] at hj
    obtain ⟨c', hc', rfl⟩ := Option.map_eq_some_iff.1 hj
    have hold := h c' (List.mem_of_getElem? hc')
    split_ifs
    · exact hadd c' flag hflag hold
    · exact hold
  · exact h

include hadd in
theorem applyConstraint_forall {cs : List DraftColumn} (h : ∀ c ∈ cs, P c) (k : ConstraintDef) :
    ∀ c ∈ applyConstraint cs k, P c := by
  unfold applyConstraint
  split
  · rename_i flag hflag
    have hne : flag ≠ .foreignKey := by
      cases hk : k.kind <;> simp [hk, ConstraintKind.flag?] at hflag <;> simp [← hflag]
    exact List.foldlRecOn (motive := fun cs => ∀ c ∈ cs, P c) k.columns (flagColumn flag) h
      fun cs hcs name _ => flagColumn_forall hadd hne hcs name
  · exact h

variable (hstrip : ∀ c, P c → P { c with constraints := c.constraints.filter (· ≠ .primaryKey) })

include hstrip in
theorem keepFirstKey_forall {cs : List DraftColumn} (h : ∀ c ∈ cs, P c) : ∀ c ∈ keepFirstKey cs, P c := by
  induction cs with
  | nil => exact h
  | cons c cs ih =>
    rw [List.forall_mem_cons] at h
    unfold keepFirstKey
    split_ifs
    · rw [List.forall_mem_cons, List.forall_mem_map]
      exact ⟨h.1, fun c' hc' => hstrip c' (h.2 c' hc')⟩
    · rw [List.forall_mem_cons]
      exact ⟨h.1, ih h.2⟩

include hadd hstrip in
theorem draftTable_forall (table : TableRef) {columns : List ColumnDef} (constraints : List ConstraintDef)
    (h : ∀ d ∈ columns, P ⟨"", d.name, columnTypeOf d.typeName, [], d.reference⟩) :
    ∀ c ∈ (draftTable table columns constraints).columns, P c := by
  refine keepFirstKey_forall hstrip (List.foldlRecOn (motive := fun cs => ∀ c ∈ cs, P c) constraints applyConstraint ?_
    fun cs hcs k _ => applyConstraint_forall hadd hcs k)
  rw [List.forall_mem_map]
  exact fun d hd => ofDef_of_add hadd d (h d hd)

end Drafting

/-- a column that has no id yet and is not marked -/
def DraftColumn.Plain (c : DraftColumn) : Prop := c.id = "" ∧ Constraint.foreignKey ∉ c.constraints

theorem DraftColumn.Plain.add {c : DraftColumn} (h : c.Plain) {k : Constraint} (hk : k ≠ .foreignKey) :
    (c.add k).Plain := by
  refine ⟨?_, fun hmark => (c.mem_add.1 hmark).elim h.2 hk.symm⟩
  unfold DraftColumn.add
  split_ifs <;> exact h.1

theorem draftTable_plain (table : TableRef) (columns : List ColumnDef) (constraints : List ConstraintDef) :
    ∀ c ∈ (draftTable table columns constraints).columns, c.Plain :=
  draftTable_forall (fun _ _ hk hc => hc.add hk) (fun _ hc => ⟨hc.1, fun hmark => hc.2 (List.mem_filter.1 hmark).1⟩)
    table constraints fun _ _ => ⟨rfl, List.not_mem_nil⟩

theorem bare_of_plain {d : Draft} (hid : d.id = "") (h : ∀ c ∈ d.columns, c.Plain) : d.bare = d := by
  have hcolumns : d.columns.map DraftColumn.bare = d.columns := by
    refine (List.map_congr_left fun c hc => ?_).trans (List.map_id _)
    have hfilter : c.constraints.filter (· ≠ .foreignKey) = c.constraints :=
      List.filter_eq_self.2 fun k hk => by
        simpa using fun heq : k = .foreignKey => (h c hc).2 (heq ▸ hk)
    rw [DraftColumn.bare, hfilter, ← (h c hc).1]
    rfl
  rw [Draft.bare, hcolumns, ← hid]

theorem draftsOf_plain {statements : List Statement} {d : Draft} (hd : d ∈ draftsOf statements) :
    d.id = "" ∧ ∀ c ∈ d.columns, c.Plain := by
  obtain ⟨statement, -, hdraft⟩ := List.mem_filterMap.1 hd
  cases statement with
  | createTable table columns constraints =>
    cases hdraft
    exact ⟨rfl, draftTable_plain table columns constraints⟩
  | alterTable => cases hdraft

/-- drafts come without ids and marks from the statements -/
theorem draftsOf_bare (statements : List Statement) : (draftsOf statements).map Draft.bare = draftsOf statements :=
  (List.map_congr_left fun _ hd => bare_of_plain (draftsOf_plain hd).1 (draftsOf_plain hd).2).trans (List.map_id _)

/-! ## Failures -/

/-- a foreign key over no columns -/
def ConstraintDef.Keyless (c : ConstraintDef) : Prop := c.kind = .foreignKey ∧ c.reference ≠ none ∧ c.columns = []

/-- some statement has a foreign key over no columns -/
def Keyless (statements : List Statement) : Prop := ∃ statement ∈ statements, ∃ c ∈ statement.constraints, c.Keyless

theorem not_keyless {statements : List Statement}
    (h : ∀ statement ∈ statements, ∀ c ∈ statement.constraints, c.kind = .foreignKey → c.columns ≠ []) :
    ¬ Keyless statements := by
  rintro ⟨statement, hmem, c, hc, hkind, -, hnone⟩
  exact h statement hmem c hc hkind hnone

theorem pendingKey?_error (table : TableRef) {c : ConstraintDef} (h : c.Keyless) :
    pendingKey? table c = .error .noColumns := by
  obtain ⟨kind, columns, reference, name⟩ := c
  obtain ⟨rfl, href, rfl⟩ := h
  cases reference with
  | none => exact absurd rfl href
  | some target => rfl

theorem pendingKey?_eq (table : TableRef) {c : ConstraintDef} (h : ¬ c.Keyless) :
    pendingKey? table c = .ok (c.pending? table) := by
  obtain ⟨kind, columns, reference, name⟩ := c
  cases kind with
  | primaryKey => rfl
  | unique => rfl
  | foreignKey =>
    cases reference with
    | none => cases columns <;> rfl
    | some target =>
      cases columns with
      | nil => exact absurd ⟨rfl, Option.some_ne_none target, rfl⟩ h
      | cons column rest => rfl

theorem pendingKeys_error (table : TableRef) {cs : List ConstraintDef} (h : ∃ c ∈ cs, c.Keyless) :
    pendingKeys table cs = .error .noColumns := by
  rw [pendingKeys, except_map_eq_error]
  refine except_mapM_error (fun c _ e hc => ?_) (h.imp fun c hc => ⟨hc.1, pendingKey?_error table hc.2⟩)
  by_cases hkeyless : c.Keyless
  · rw [pendingKey?_error table hkeyless] at hc
    exact (Except.error.inj hc).symm
  · rw [pendingKey?_eq table hkeyless] at hc
    cases hc

theorem pendingKeys_eq (table : TableRef) {cs : List ConstraintDef} (h : ¬ ∃ c ∈ cs, c.Keyless) :
    pendingKeys table cs = .ok (cs.filterMap (ConstraintDef.pending? table)) := by
  have hkey : ∀ c ∈ cs, ¬ c.Keyless := fun c hc hkeyless => h ⟨c, hc, hkeyless⟩
  rw [pendingKeys, except_mapM_of_forall fun c hc => pendingKey?_eq table (hkey c hc)]
  show Except.ok ((cs.map (ConstraintDef.pending? table)).filterMap id) = _
  rw [List.filterMap_map, Function.id_comp]

/-- reading the foreign keys of a table fails in one way only -/
theorem pendingKeys_eq_error {table : TableRef} {cs : List ConstraintDef} {e : AssemblyError}
    (h : pendingKeys table cs = .error e) : e = .noColumns := by
  by_cases hkeyless : ∃ c ∈ cs, c.Keyless
  · rw [pendingKeys_error table hkeyless] at h
    exact (Except.error.inj h).symm
  · rw [pendingKeys_eq table hkeyless] at h
    cases h

theorem createdKeys_eq_error {statement : Statement} {e : AssemblyError} (h : statement.createdKeys = .error e) :
    e = .noColumns := by
  cases statement with
  | createTable table columns cs => exact pendingKeys_eq_error h
  | alterTable table cs => cases h

theorem addedKeys_eq_error {statement : Statement} {e : AssemblyError} (h : statement.addedKeys = .error e) :
    e = .noColumns := by
  cases statement with
  | createTable table columns cs => cases h
  | alterTable table cs => exact pendingKeys_eq_error h

/-- a foreign key over no columns fails, wherever it stands -/
theorem foreignKeys_error {statements : List Statement} (h : Keyless statements) :
    foreignKeys statements = .error .noColumns := by
  obtain ⟨statement, hmem, hkeyless⟩ := h
  rw [foreignKeys, except_bind_eq_error]
  cases hcreated : statements.mapM Statement.createdKeys with
  | error e =>
    obtain ⟨_, _, he⟩ := except_mapM_eq_error hcreated
    exact Or.inl (by rw [createdKeys_eq_error he])
  | ok created =>
    refine Or.inr ⟨created, rfl, except_bind_eq_error.2 (Or.inl ?_)⟩
    refine except_mapM_error (fun _ _ _ he => addedKeys_eq_error he) ⟨statement, hmem, ?_⟩
    -- the statement is not one that creates a table, as the keys of those have been read
    cases statement with
    | createTable table columns cs =>
      obtain ⟨keys, hkeys⟩ := except_mapM_ok_of_mem hcreated hmem
      cases (pendingKeys_error table hkeyless).symm.trans hkeys
    | alterTable table cs => exact pendingKeys_error table hkeyless

/-- where every foreign key has a column, none fails -/
theorem foreignKeys_eq {statements : List Statement} (h : ¬ Keyless statements) :
    foreignKeys statements = .ok (createdKeys statements ++ alteredKeys statements) := by
  have hkeys : ∀ statement ∈ statements, ¬ ∃ c ∈ statement.constraints, c.Keyless :=
    fun statement hmem hkeyless => h ⟨statement, hmem, hkeyless⟩
  have hcreated : statements.mapM Statement.createdKeys = .ok (statements.map fun
      | .createTable table _ cs => cs.filterMap (ConstraintDef.pending? table)
      | .alterTable .. => []) := by
    refine except_mapM_of_forall fun statement hmem => ?_
    cases statement with
    | createTable table columns cs => exact pendingKeys_eq table (hkeys _ hmem)
    | alterTable table cs => rfl
  have hadded : statements.mapM Statement.addedKeys = .ok (statements.map fun
      | .alterTable table cs => cs.filterMap (ConstraintDef.pending? table)
      | .createTable .. => []) := by
    refine except_mapM_of_forall fun statement hmem => ?_
    cases statement with
    | createTable table columns cs => rfl
    | alterTable table cs => exact pendingKeys_eq table (hkeys _ hmem)
  rw [foreignKeys, hcreated, hadded]
  rfl

end Crowfoot.Ddl
