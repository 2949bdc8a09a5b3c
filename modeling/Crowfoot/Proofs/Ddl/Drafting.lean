import Crowfoot.Proofs.Ddl.Resolving

/-
Drafting a table: what becomes of its column definitions and of its constraints.

- `map_draftTable`: constraints change nothing about columns but their constraints.
- `Draft.skeleton`: a draft without the references in its columns. `draftTable_skeleton` says that a table has the same
  skeleton without them, `draftTable_foreignKey` that a foreign key among its constraints adds nothing to its draft. So
  a draft does not tell in which of the two ways its foreign keys are written, but for the references.
-/

namespace Crowfoot.Ddl

/-! ## What constraints leave alone -/

section Unconstrained

variable {β : Type} {f : DraftColumn → β} (hf : ∀ c ks, f { c with constraints := ks } = f c)
include hf

theorem map_add (c : DraftColumn) (k : Constraint) : f (c.add k) = f c := by
  unfold DraftColumn.add
  split_ifs
  · rfl
  · exact hf c _

theorem map_ofDef (d : ColumnDef) :
    f (DraftColumn.ofDef d) = f ⟨"", d.name, columnTypeOf d.typeName, [], d.reference⟩ := by
  have haddIf : ∀ (c : DraftColumn) b k, f (c.addIf b k) = f c := by
    intro c b k
    unfold DraftColumn.addIf
    split_ifs
    · exact map_add hf c k
    · rfl
  rw [DraftColumn.ofDef, haddIf, haddIf, haddIf]

theorem map_flagColumn (flag : Constraint) (cs : List DraftColumn) (name : String) :
    (flagColumn flag cs name).map f = cs.map f := by
  unfold flagColumn
  split
  · rename_i i _
    refine List.ext_getElem? fun j => ?_
    rw [List.getElem?_map, List.getElem?_map, List.getElem?_modify]
    split_ifs <;> simp [Function.comp_def, map_add hf]
  · rfl

theorem map_applyConstraint (cs : List DraftColumn) (k : ConstraintDef) : (applyConstraint cs k).map f = cs.map f := by
  unfold applyConstraint
  split
  · rename_i flag _
    exact List.foldlRecOn (motive := fun cs' => cs'.map f = cs.map f) k.columns (flagColumn flag) rfl
      fun cs' ih name _ => (map_flagColumn hf flag cs' name).trans ih
  · rfl

theorem map_keepFirstKey (cs : List DraftColumn) : (keepFirstKey cs).map f = cs.map f := by
  induction cs with
  | nil => rfl
  | cons c cs ih =>
    unfold keepFirstKey
    split_ifs
    · simp [Function.comp_def, hf]
    · rw [List.map_cons, ih, List.map_cons]

/-- whatever else a draft says of a column than its constraints is said in its definition -/
theorem map_draftTable (table : TableRef) (columns : List ColumnDef) (constraints : List ConstraintDef) :
    (draftTable table columns constraints).columns.map f =
      columns.map fun d => f ⟨"", d.name, columnTypeOf d.typeName, [], d.reference⟩ := by
  have hfold : (constraints.foldl applyConstraint (columns.map DraftColumn.ofDef)).map f =
      (columns.map DraftColumn.ofDef).map f :=
    List.foldlRecOn (motive := fun cs => cs.map f = (columns.map DraftColumn.ofDef).map f) constraints applyConstraint
      rfl fun cs ih k _ => (map_applyConstraint hf cs k).trans ih
  rw [draftTable, map_keepFirstKey hf, hfold, List.map_map]
  exact List.map_congr_left fun d _ => map_ofDef hf d

end Unconstrained

/-- a draft has the references of the column definitions -/
theorem mem_references (table : TableRef) (columns : List ColumnDef) (cs : List ConstraintDef) {name : String}
    {target : Reference} :
    (∃ c ∈ (draftTable table columns cs).columns, c.name = name ∧ c.reference = some target) ↔
      ∃ c ∈ columns, c.name = name ∧ c.reference = some target := by
  have hmap := map_draftTable (f := fun c => (c.name, c.reference)) (fun _ _ => rfl) table columns cs
  have hdraft : (∃ c ∈ (draftTable table columns cs).columns, c.name = name ∧ c.reference = some target) ↔
      (name, some target) ∈ (draftTable table columns cs).columns.map fun c => (c.name, c.reference) := by
    simp [List.mem_map]
  have hdefs : (∃ c ∈ columns, c.name = name ∧ c.reference = some target) ↔
      (name, some target) ∈ columns.map fun c => (c.name, c.reference) := by
    simp [List.mem_map]
  rw [hdraft, hmap, hdefs]

/-! ## Skeletons -/

def DraftColumn.skeleton (c : DraftColumn) : DraftColumn := { c with reference := none }

/-- the draft without the references in its columns -/
def Draft.skeleton (d : Draft) : Draft := { d with columns := d.columns.map DraftColumn.skeleton }

/-- a column definition without its reference -/
def ColumnDef.skeleton (c : ColumnDef) : ColumnDef := { c with reference := none }

@[simp] theorem DraftColumn.skeleton_name (c : DraftColumn) : c.skeleton.name = c.name := rfl

@[simp] theorem DraftColumn.skeleton_isPrimaryKey (c : DraftColumn) : c.skeleton.isPrimaryKey = c.isPrimaryKey := rfl

theorem columnIndex?_skeleton (d : Draft) (name : String) :
    columnIndex? d.skeleton.columns name = columnIndex? d.columns name :=
  columnIndex?_map DraftColumn.skeleton_name d.columns name

theorem targetIndex?_skeleton (d : Draft) (r : Reference) :
    targetIndex? d.skeleton.columns r = targetIndex? d.columns r :=
  targetIndex?_map DraftColumn.skeleton_name DraftColumn.skeleton_isPrimaryKey d.columns r

theorem DraftColumn.skeleton_add (c : DraftColumn) (k : Constraint) : (c.add k).skeleton = c.skeleton.add k := by
  unfold DraftColumn.add DraftColumn.skeleton
  split_ifs <;> rfl

theorem DraftColumn.skeleton_ofDef (d : ColumnDef) : (ofDef d).skeleton = ofDef d.skeleton := by
  have haddIf : ∀ (c : DraftColumn) b k, (c.addIf b k).skeleton = c.skeleton.addIf b k := by
    intro c b k
    unfold DraftColumn.addIf
    split_ifs
    · exact c.skeleton_add k
    · rfl
  rw [ofDef, haddIf, haddIf, haddIf]
  rfl

theorem flagColumn_skeleton (flag : Constraint) (cs : List DraftColumn) (name : String) :
    (flagColumn flag cs name).map DraftColumn.skeleton = flagColumn flag (cs.map DraftColumn.skeleton) name := by
  unfold flagColumn
  rw [columnIndex?_map DraftColumn.skeleton_name]
  split
  · refine List.ext_getElem? fun j => ?_
    rw [List.getElem?_map, List.getElem?_modify, List.getElem?_modify, List.getElem?_map]
    split_ifs <;> simp [Function.comp_def, DraftColumn.skeleton_add]
  · rfl

theorem applyConstraint_skeleton (cs : List DraftColumn) (k : ConstraintDef) :
    (applyConstraint cs k).map DraftColumn.skeleton = applyConstraint (cs.map DraftColumn.skeleton) k := by
  unfold applyConstraint
  split
  · rename_i flag _
    exact (List.foldl_hom (List.map DraftColumn.skeleton) fun cs name => (flagColumn_skeleton flag cs name).symm).symm
  · rfl

theorem keepFirstKey_skeleton (cs : List DraftColumn) :
    (keepFirstKey cs).map DraftColumn.skeleton = keepFirstKey (cs.map DraftColumn.skeleton) := by
  induction cs with
  | nil => rfl
  | cons c cs ih =>
    rw [List.map_cons, keepFirstKey, keepFirstKey, DraftColumn.skeleton_isPrimaryKey]
    split_ifs
    · rw [List.map_cons, List.map_map, List.map_map]
      rfl
    · rw [List.map_cons, ih]

/-- without references in its column definitions a table has the same skeleton, and nothing else -/
theorem draftTable_skeleton (table : TableRef) (columns : List ColumnDef) (constraints : List ConstraintDef) :
    (draftTable table columns constraints).skeleton =
      draftTable table (columns.map ColumnDef.skeleton) constraints := by
  have hofDef : (columns.map DraftColumn.ofDef).map DraftColumn.skeleton =
      (columns.map ColumnDef.skeleton).map DraftColumn.ofDef := by
    rw [List.map_map, List.map_map]
    exact List.map_congr_left fun d _ => DraftColumn.skeleton_ofDef d
  have hfold : (constraints.foldl applyConstraint (columns.map DraftColumn.ofDef)).map DraftColumn.skeleton =
      constraints.foldl applyConstraint ((columns.map ColumnDef.skeleton).map DraftColumn.ofDef) := by
    rw [← hofDef]
    exact (List.foldl_hom (List.map DraftColumn.skeleton) fun cs k => (applyConstraint_skeleton cs k).symm).symm
  rw [draftTable, draftTable, Draft.skeleton, keepFirstKey_skeleton, hfold]

/-- a foreign key among its constraints adds nothing to the draft of a table -/
theorem draftTable_foreignKey (table : TableRef) (columns : List ColumnDef) {k : ConstraintDef}
    (hk : k.kind = .foreignKey) (before after : List ConstraintDef) :
    draftTable table columns (before ++ k :: after) = draftTable table columns (before ++ after) := by
  have hnothing : ∀ cs, applyConstraint cs k = cs := fun cs => by rw [applyConstraint, hk, ConstraintKind.flag?]
  rw [draftTable, draftTable, List.foldl_append, List.foldl_cons, hnothing, ← List.foldl_append]

end Crowfoot.Ddl
