import Crowfoot.Ddl.Dialect
import Crowfoot.Ddl.Statement
import Crowfoot.Layout.Drawing

/-
From statements to a schema. Tables are drafted from the statements that create them; then foreign keys are linked,
first those in column definitions, then those of whole tables, then those added later. A foreign key whose table or
target is not among the drafts is dropped. At the end the tables are laid out.
-/

namespace Crowfoot.Ddl

/-! ## Drafts -/

structure DraftColumn where
  id : String
  name : String
  type : ColumnType
  constraints : List Constraint
  reference : Option Reference
  deriving DecidableEq, Repr

structure Draft where
  id : String
  table : TableRef
  columns : List DraftColumn
  deriving DecidableEq, Repr

namespace DraftColumn

/-- the column with one constraint more, if it does not have it yet -/
def add (c : DraftColumn) (k : Constraint) : DraftColumn :=
  if c.constraints.contains k then c else { c with constraints := c.constraints ++ [k] }

def addIf (c : DraftColumn) (b : Bool) (k : Constraint) : DraftColumn := if b then c.add k else c

def isPrimaryKey (c : DraftColumn) : Bool := c.constraints.contains .primaryKey

def ofDef (d : ColumnDef) : DraftColumn :=
  ((((⟨"", d.name, columnTypeOf d.typeName, [], d.reference⟩ : DraftColumn).addIf d.primaryKey .primaryKey).addIf
    d.unique .unique).addIf d.notNull .notNull)

end DraftColumn

/-- the place of a column by its exact name, or else by its name in any letter case -/
def columnIndex? (columns : List DraftColumn) (name : String) : Option Nat :=
  match columns.findIdx? (·.name = name) with
  | some i => some i
  | none =>
    let key := Text.lower name
    columns.findIdx? fun c => Text.lower c.name = key

/-- the flag that a constraint of a table sets on its columns -/
def ConstraintKind.flag? : ConstraintKind → Option Constraint
  | primaryKey => some .primaryKey
  | unique => some .unique
  | foreignKey => none

/-- set a flag on a named column, if there is one -/
def flagColumn (flag : Constraint) (columns : List DraftColumn) (name : String) : List DraftColumn :=
  match columnIndex? columns name with
  | some i => columns.modify i (·.add flag)
  | none => columns

def applyConstraint (columns : List DraftColumn) (c : ConstraintDef) : List DraftColumn :=
  match c.kind.flag? with
  | some flag => c.columns.foldl (flagColumn flag) columns
  | none => columns

/-- only the first primary key stays one -/
def keepFirstKey : List DraftColumn → List DraftColumn
  | [] => []
  | c :: rest =>
    if c.isPrimaryKey then
      c :: rest.map fun c => { c with constraints := c.constraints.filter (· ≠ .primaryKey) }
    else c :: keepFirstKey rest

/-- the draft of a created table -/
def draftTable (table : TableRef) (columns : List ColumnDef) (constraints : List ConstraintDef) : Draft :=
  ⟨"", table, keepFirstKey (constraints.foldl applyConstraint (columns.map DraftColumn.ofDef))⟩

def Statement.draft? : Statement → Option Draft
  | createTable table columns constraints => some (draftTable table columns constraints)
  | alterTable .. => none

/-! ## Foreign keys -/

/-- a foreign key to be linked -/
structure PendingKey where
  table : TableRef
  column : String
  target : Reference
  deriving DecidableEq, Repr

/-- why statements do not make a schema -/
inductive AssemblyError where
  /-- a foreign key over no columns -/
  | noColumns
  | layout (fault : Layout.Fault String)
  deriving DecidableEq, Repr

def pendingKey? (table : TableRef) (c : ConstraintDef) : Except AssemblyError (Option PendingKey) :=
  match c.kind, c.reference, c.columns with
  | .foreignKey, some target, column :: _ => .ok (some ⟨table, column, target⟩)
  | .foreignKey, some _, [] => .error .noColumns
  | _, _, _ => .ok none

def pendingKeys (table : TableRef) (cs : List ConstraintDef) : Except AssemblyError (List PendingKey) :=
  (cs.mapM (pendingKey? table)).map List.reduceOption

def Statement.createdKeys : Statement → Except AssemblyError (List PendingKey)
  | createTable table _ cs => pendingKeys table cs
  | alterTable .. => .ok []

def Statement.addedKeys : Statement → Except AssemblyError (List PendingKey)
  | alterTable table cs => pendingKeys table cs
  | createTable .. => .ok []

/-- the foreign keys of created tables, then those added later -/
def foreignKeys (statements : List Statement) : Except AssemblyError (List PendingKey) := do
  let created ← statements.mapM Statement.createdKeys
  let added ← statements.mapM Statement.addedKeys
  return created.flatten ++ added.flatten

/-! ## Linking -/

/-- the keys under which tables are found, with their places: the qualified name, and the short name of a qualified
table; the first table with a key has it -/
def keysFrom : Nat → List Draft → List (String × Nat)
  | _, [] => []
  | i, d :: rest =>
    (nameKey d.table.qualified, i) :: (if d.table.isQualified then [(nameKey d.table.name, i)] else [])
      ++ keysFrom (i + 1) rest

/-- drafts being linked -/
structure Linking (σ : Type) where
  keys : List (String × Nat)
  drafts : List Draft
  relationships : List Relationship
  ids : σ

namespace Linking

variable {σ : Type} [IdSupply σ]

/-- the place of the table that a foreign key is declared on -/
def source? (l : Linking σ) (t : TableRef) : Option Nat :=
  match l.keys.lookup (nameKey t.qualified) with
  | some i => some i
  | none => if t.isQualified then l.keys.lookup (nameKey t.name) else none

/-- whether a relationship joins these columns already -/
def joins (l : Linking σ) (source target : Endpoint) : Bool :=
  l.relationships.any fun r => r.source == source && r.target == target

/-- mark a column as a foreign key and join it to its target, once -/
def connect (l : Linking σ) (sourceTable sourceColumn : Nat) (source : Draft) (column : DraftColumn)
    (target : Endpoint) : Linking σ :=
  let marked := { source with columns := source.columns.set sourceColumn (column.add .foreignKey) }
  let l := { l with drafts := l.drafts.set sourceTable marked }
  let from' : Endpoint := ⟨source.id, column.id⟩
  if l.joins from' target then l
  else
    let (id, ids) := IdSupply.newId relationshipLetter l.ids
    let type := if column.constraints.contains .unique then .oneToOne else .oneToMany
    { l with relationships := l.relationships ++ [⟨id, from', target, type⟩], ids := ids }

/-- the column that a reference means: the first one it names, or the table's primary key -/
def targetColumn? (columns : List DraftColumn) (r : Reference) : Option DraftColumn :=
  match r.columns with
  | name :: _ => (columnIndex? columns name).bind (columns[·]?)
  | [] => columns.find? DraftColumn.isPrimaryKey

/-- link one foreign key of the table at a place, if everything it names is there -/
def link (l : Linking σ) (sourceTable : Nat) (columnName : String) (r : Reference) : Linking σ :=
  match l.drafts[sourceTable]?, (l.keys.lookup (nameKey r.table.qualified)).bind (l.drafts[·]?) with
  | some source, some target =>
    match columnIndex? source.columns columnName, targetColumn? target.columns r with
    | some i, some column =>
      match source.columns[i]? with
      | some sourceColumn => l.connect sourceTable i source sourceColumn ⟨target.id, column.id⟩
      | none => l
    | _, _ => l
  | _, _ => l

/-- link the references in the column definitions of the table at a place -/
def linkInline (l : Linking σ) (table : Nat) : Linking σ :=
  match l.drafts[table]? with
  | some d => d.columns.foldl (fun l c =>
      match c.reference with
      | some r => l.link table c.name r
      | none => l) l
  | none => l

def linkPending (l : Linking σ) (k : PendingKey) : Linking σ :=
  match l.source? k.table with
  | some i => l.link i k.column k.target
  | none => l

end Linking

/-! ## Schemas -/

variable {κ σ : Type}

def drawColumnIds [IdSupply σ] : List DraftColumn → σ → List DraftColumn × σ
  | [], ids => ([], ids)
  | c :: rest, ids =>
    let (id, ids) := IdSupply.newId columnLetter ids
    let (rest, ids) := drawColumnIds rest ids
    ({ c with id := id } :: rest, ids)

/-- ids for all tables and columns, table by table -/
def drawIds [IdSupply σ] : List Draft → σ → List Draft × σ
  | [], ids => ([], ids)
  | d :: rest, ids =>
    let (id, ids) := IdSupply.newId tableLetter ids
    let (columns, ids) := drawColumnIds d.columns ids
    let (rest, ids) := drawIds rest ids
    ({ d with id := id, columns := columns } :: rest, ids)

def DraftColumn.column (c : DraftColumn) : Column := ⟨c.id, c.name, c.type, c.constraints⟩

def Draft.tableAt [Coordinate κ] (d : Draft) : Table κ :=
  ⟨d.id, d.table.name, Position.origin, d.columns.map DraftColumn.column⟩

/-- the linked drafts of some statements -/
def linked [IdSupply σ] (statements : List Statement) (ids : σ) : Except AssemblyError (Linking σ) := do
  let drafts := statements.filterMap Statement.draft?
  let pending ← foreignKeys statements
  let (drafts, ids) := drawIds drafts ids
  let l : Linking σ := ⟨keysFrom 0 drafts, drafts, [], ids⟩
  let l := (List.range drafts.length).foldl Linking.linkInline l
  return pending.foldl Linking.linkPending l

/-- put the tables of a schema where its drawing puts them -/
def placed [Coordinate κ] (s : Schema κ) : Except (Layout.Fault String) (Schema κ) := do
  let places ← s.drawing
  return { s with
    tables := s.tables.map fun t =>
      match places.lookup t.id with
      | some (x, y) => { t with position := ⟨Coordinate.ofInt x, Coordinate.ofInt y⟩ }
      | none => t }

/-- the schema that some statements make, laid out -/
def assemble [Coordinate κ] [IdSupply σ] (statements : List Statement) (ids : σ) :
    Except AssemblyError (Schema κ × σ) := do
  let l ← linked statements ids
  let s : Schema κ := ⟨1, l.drafts.map Draft.tableAt, l.relationships⟩
  let s ← (placed s).mapError AssemblyError.layout
  return (s, l.ids)

/-- the schema or what is wrong, with the source of ids in either case; by the time that the tables are laid out, ids
have been handed out for all of them -/
def assembling [Coordinate κ] [IdSupply σ] (statements : List Statement) (ids : σ) :
    Except AssemblyError (Schema κ) × σ :=
  match linked statements ids with
  | .error e => (.error e, ids)
  | .ok l =>
    let s : Schema κ := ⟨1, l.drafts.map Draft.tableAt, l.relationships⟩
    ((placed s).mapError AssemblyError.layout, l.ids)

end Crowfoot.Ddl
