import Crowfoot.Ddl.Grammar.Query
import Crowfoot.Ddl.Statement

/-
Definitions of tables: columns with their constraints, constraints of the whole table, and the properties around
them.
-/

namespace Crowfoot.Ddl

/-- one constraint of a column -/
inductive ColumnClause where
  | primaryKey
  | unique
  | notNull
  | reference (target : Option Reference)
  /-- a foreign key of the whole table where a column constraint is expected -/
  | foreignKey (c : Option ConstraintDef)
  | other
  deriving DecidableEq, Repr

/-- one entry of the list that defines a table -/
inductive Entry where
  | column (d : ColumnDef)
  | constraint (c : ConstraintDef)
  /-- a bare name, by which a listed column is meant -/
  | listed (name : String)
  | nothing
  deriving DecidableEq, Repr

namespace Entry

/-- the name that a column has in a list of columns -/
def name : Entry → String
  | column d => d.name
  | listed n => n
  | _ => ""

end Entry

/-- the columns that a list names -/
def columnNames (es : List Entry) : List String := (es.map Entry.name).filter (· ≠ "")

/-- a table by the parts of its name; one without a name is none -/
def tableRef? (parts : List String) : Option TableRef :=
  let plain := parts.take 3
  let last := parts.getLast?.getD ""
  let schema := match plain with
    | [_, _] => plain.head?
    | [_, s, _] => some s
    | _ => none
  if last = "" then none
  else some ⟨bareName last, (schema.map bareName).bind fun s => if s = "" then none else some s⟩

namespace Grammar

open Ddl.Parser

/-! ## Options of constraints -/

/-- what happens to rows that refer to a changed one -/
def keyAction : Parser Unit := do
  let _ ← anyName? .postgres
  if ← phrase ["NO", "ACTION"] then return ()
  if ← phrase ["CASCADE"] then return ()
  if ← phrase ["RESTRICT"] then return ()
  if ← phrase ["SET", "NULL"] then return ()
  if ← phrase ["SET", "DEFAULT"] then return ()
  fail

/-- options after a key, as many as there are -/
def keyOptions : Parser Unit := loop do
  if ← word "ON" then
    keyAction
    return true
  for option in [["NOT", "ENFORCED"], ["MATCH", "FULL"], ["MATCH", "PARTIAL"], ["MATCH", "SIMPLE"],
      ["INITIALLY", "DEFERRED"], ["INITIALLY", "IMMEDIATE"], ["USING", "BTREE"], ["USING", "HASH"], ["DEFERRABLE"],
      ["NORELY"], ["RELY"]] do
    if ← phrase option then return true
  return false

/-- what may follow the columns of an index -/
def indexParameters (g : Grammar) (d : Dialect) : Parser Unit := do
  if ← word "USING" then let _ ← anyName? d
  let _ ← group
  if ← phrase ["INCLUDE"] then
    if !(← group) then fail
  if ← word "PARTITION BY" then let _ ← commaList g.condition
  if ← word "WITH" then
    if !(← group) then fail
  if ← phrase ["USING", "INDEX", "TABLESPACE"] then let _ ← anyName? d
  if ← word "WHERE" then let _ ← demand g.condition
  if ← word "ON" then let _ ← field? g d false

/-- what is done about a row that breaks a constraint -/
def onConflict : Parser Unit := do
  if ← phrase ["ON", "CONFLICT"] then
    let _ ← group
    let _ ← phrase ["DO"]
    if (← saying? ["ABORT", "FAIL", "IGNORE", "REPLACE", "ROLLBACK", "UPDATE", "NOTHING"]).isNone then fail

/-! ## Entries -/

/-- the table that a key refers to, and the columns between brackets after it -/
def referenceTarget (entries : Parser (Option (List Entry))) (d : Dialect) : Parser (Option Reference) := do
  let _ ← word "ONLY"
  let parts ← demand (tableName? d)
  let _ ← symbol "*"
  let columns ← entries
  return (tableRef? parts).map fun t => ⟨t, columnNames (columns.getD [])⟩

/-- the rest of a reference after its first word -/
def references (entries : Parser (Option (List Entry))) (d : Dialect) : Parser (Option Reference) := do
  let target ← referenceTarget entries d
  keyOptions
  return target

/-- names between brackets -/
def nameGroup (d : Dialect) : Parser (List String) := do
  return (← bracketList (anyName? d)).map bareName

/-- a part of a primary key -/
def keyPart (g : Grammar) (d : Dialect) : Parser (Option String) := do
  if d = .mysql then
    match ← anyName? d with
    | none => return none
    | some n =>
      if ← symbol "(" then
        let _ ← take? (·.kind = .number)
        close
      return some (bareName n)
  else return (← field? g d false).map Operand.listed

/-- the rest of a primary key: over columns, or of the column it stands at -/
def primaryKey (g : Grammar) (d : Dialect) (named : Bool) : Parser (Option (List String)) := do
  if named then
    match ← second? with
    | some t => if t.isSymbol "(" && !(← seesSymbol "(") then let _ ← name? d
    | none => pure ()
  else let _ ← takeIf (fun t => t.word == "ASC" || t.word == "DESC")
  if ← seesSymbol "(" then
    let columns ← bracketList (keyPart g d)
    if columns.isEmpty then fail
    indexParameters g d
    keyOptions
    return some (columns.filter (· ≠ ""))
  else
    keyOptions
    return none

/-- the words that start a constraint of a column -/
def clauseStarts : Dialect → List String
  | d =>
    ["AUTOINCREMENT", "AUTO_INCREMENT", "CHARACTER SET", "CHECK", "COLLATE", "COMMENT", "DEFAULT", "ENCODE", "EXCLUDE",
      "FOREIGN KEY", "FORMAT", "GENERATED", "IDENTITY", "LIKE", "NOT", "NULL", "ON", "PERIOD", "PRIMARY KEY",
      "REFERENCES", "TITLE", "UNIQUE", "UPPERCASE", "WITH"]
    ++ if d = .mysql then ["FULLTEXT", "INDEX", "KEY", "SPATIAL", "ZEROFILL"] else []

/-- the rest of a uniqueness constraint -/
def uniqueness (entries : Parser (Option (List Entry))) (d : Dialect) : Parser (Option (List Entry)) := do
  let _ ← saying? ["KEY", "INDEX"]
  if d = .postgres then
    let _ ← phrase ["NULLS", "NOT", "DISTINCT"]
  else if !(← sees fun t => (clauseStarts d).contains t.word) then let _ ← name? d
  let columns ← entries
  if ← word "USING" then let _ ← anyName? d
  onConflict
  keyOptions
  return columns

/-- the rest of a foreign key of a table -/
def foreignKey (entries : Parser (Option (List Entry))) (d : Dialect) : Parser (Option ConstraintDef) := do
  let columns ←
    if ← seesWord "REFERENCES" then pure []
    else do
      if !(← seesSymbol "(") then let _ ← name? d
      nameGroup d
  let target ← (do
    if ← word "REFERENCES" then references entries d else return none)
  loop do
    if ← word "ON" then
      if (← saying? ["DELETE", "UPDATE"]).isNone then fail
      if ← phrase ["NO", "ACTION"] then return true
      if ← word "SET" then
        let _ ← takeIf (fun t => t.word == "NULL" || t.word == "DEFAULT")
        return true
      advance
      return true
    else return false
  keyOptions
  let columns := columns.filter (· ≠ "")
  return if target.isSome && !columns.isEmpty then some ⟨.foreignKey, columns, target, none⟩ else none

/-- the rest of a check -/
def check (g : Grammar) : Parser Unit := do
  expectOpen
  let _ ← demand g.condition
  close
  let _ ← phrase ["ENFORCED"]

/-- how a generated column comes by its values -/
def generated (g : Grammar) (d : Dialect) : Parser Unit := do
  if ← phrase ["BY", "DEFAULT"] then let _ ← phrase ["ON", "NULL"]
  else let _ ← phrase ["ALWAYS"]
  let _ ← word "AS"
  if ← phrase ["ROW"] then
    if !(← phrase ["START"]) then let _ ← phrase ["END"]
    let _ ← phrase ["HIDDEN"]
    return ()
  let identity ← phrase ["IDENTITY"]
  if ← seesSymbol "(" then
    if identity then let _ ← group
    else
      expectOpen
      let _ ← demand g.condition
      close
  if d = .sqlite || d = .mysql || d = .postgres then let _ ← saying? ["STORED", "VIRTUAL"]

/-- the start and the step of counted values -/
def counted (g : Grammar) : Parser Unit := do
  if ← group then return ()
  if ← phrase ["START"] then
    let _ ← demand g.value
    let _ ← phrase ["INCREMENT"]
    let _ ← demand g.value

/-- an index declared inside a table -/
def indexEntry (g : Grammar) (d : Dialect) : Parser Unit := do
  let _ ← name? d
  if ← word "USING" then let _ ← anyName? d
  let _ ← bracketList (ordered g)
  loop do
    if ← phrase ["KEY_BLOCK_SIZE"] then
      let _ ← symbol "="
      let _ ← take? (·.kind = .number)
      return true
    if ← word "USING" then
      let _ ← anyName? d
      return true
    if ← phrase ["WITH", "PARSER"] then
      let _ ← anyName? d
      return true
    if ← word "COMMENT" then
      let _ ← take? (·.kind = .string)
      return true
    return (← saying? ["VISIBLE", "INVISIBLE"]).isSome

/-- columns taken over from another table -/
def likeTable (d : Dialect) : Parser Unit := do
  let _ ← demand (tableName? d)
  loop do
    if (← saying? ["INCLUDING", "EXCLUDING"]).isSome then return (← anyName? d).isSome else return false

/-- a constraint of a column after its first word; nothing when the word means something else here -/
def clauseBody? (g : Grammar) (entries : Parser (Option (List Entry))) (d : Dialect) :
    String → Parser (Option ColumnClause)
  | "PRIMARY KEY" => do
    match ← primaryKey g d false with
    | none => return some .primaryKey
    | _ => return some .other
  | "KEY" => do return some .primaryKey
  | "UNIQUE" => do
    let _ ← uniqueness entries d
    return some .unique
  | "NOT" => do
    if ← phrase ["NULL"] then return some .notNull
    return none
  | "NULL" => do return some .other
  | "REFERENCES" => do return some (.reference (← references entries d))
  | "FOREIGN KEY" => do return some (.foreignKey (← foreignKey entries d))
  | "CHECK" => do
    check g
    return some .other
  | "DEFAULT" => do
    let _ ← demand g.value
    return some .other
  | "COLLATE" => do
    let _ ← demand (field? g d false)
    let _ ← dotted ""
    return some .other
  | "GENERATED" => do
    generated g d
    return some .other
  | "AUTOINCREMENT" | "AUTO_INCREMENT" | "IDENTITY" => do
    counted g
    return some .other
  | "ON" => do
    if ← word "UPDATE" then
      let _ ← demand (call? d false)
      return some .other
    let _ ← anyName? d
    return some .other
  | "COMMENT" => do
    let _ ← take? (·.kind = .string)
    return some .other
  | "CHARACTER SET" | "FORMAT" | "TITLE" | "ENCODE" => do
    let _ ← anyName? d
    return some .other
  | "LIKE" => do
    likeTable d
    return some .other
  | "EXCLUDE" => do
    indexParameters g d
    return some .other
  | "WITH" => do
    if ← group then return some .other else fail
  | "FULLTEXT" | "SPATIAL" | "INDEX" => do
    indexEntry g d
    return some .other
  | _ => do return some .other

/-- one constraint of a column; nothing when none starts here -/
def columnClause? (g : Grammar) (entries : Parser (Option (List Entry))) (d : Dialect) : Parser (Option ColumnClause) := do
  let named ← (do
    if ← word "CONSTRAINT" then return some (← anyName? d) else return none)
  match ← restoring (saying? (clauseStarts d)) with
  | none =>
    return match named with
      | some (some _) => some .other
      | _ => none
  | some w => return some (← demand (clauseBody? g entries d w))

/-- the definition of a column, or what a bare name in its place is -/
def columnEntry (g : Grammar) (entries : Parser (Option (List Entry))) (d : Dialect) : Parser (Option Entry) := do
  match ← field? g d true with
  | none => return none
  | some o =>
    let type ← g.type
    if type.isNone then
      if ← word "AS" then
        let _ ← demand g.condition
        let _ ← saying? ["PERSISTED", "STORED", "VIRTUAL"]
        return some (.column ⟨o.defined, "", false, false, false, none⟩)
    else if ← word "AS" then
      let _ ← demand g.condition
      let _ ← saying? ["STORED", "VIRTUAL"]
    let clauses ← many (columnClause? g entries d)
    if type.isNone && clauses.isEmpty then return some (.listed o.listed)
    let reference := clauses.foldl (fun r c => match c with
      | .reference target => target
      | _ => r) none
    return some (.column ⟨o.defined, type.getD "", clauses.contains .primaryKey, clauses.contains .unique,
      clauses.contains .notNull, reference⟩)

/-- the words that start a constraint of a table -/
def constraintStarts : Dialect → List String
  | d =>
    ["CHECK", "EXCLUDE", "FOREIGN KEY", "LIKE", "PRIMARY KEY", "UNIQUE"]
    ++ if d = .mysql then ["FULLTEXT", "INDEX", "KEY", "SPATIAL"] else []

/-- a constraint after its first word, with a name if it has one -/
def constraintBody (g : Grammar) (entries : Parser (Option (List Entry))) (d : Dialect) (name : Option String) :
    String → Parser Entry
  | "PRIMARY KEY" => do
    match ← primaryKey g d (d = .mysql) with
    | some columns => return .constraint ⟨.primaryKey, columns, none, name⟩
    | none => return .nothing
  | "UNIQUE" => do
    let columns := columnNames ((← uniqueness entries d).getD [])
    return if columns.isEmpty then .nothing else .constraint ⟨.unique, columns, none, name⟩
  | "FOREIGN KEY" => do
    match ← foreignKey entries d with
    | some c => return .constraint { c with name := name }
    | none => return .nothing
  | "CHECK" => do
    check g
    return .nothing
  | "EXCLUDE" => do
    indexParameters g d
    return .nothing
  | "LIKE" => do
    likeTable d
    return .nothing
  | "FULLTEXT" | "SPATIAL" => do
    let _ ← saying? ["INDEX", "KEY"]
    indexEntry g d
    return .nothing
  | _ => do
    indexEntry g d
    return .nothing

/-- constraints that one dialect accepts after `CONSTRAINT` without a name between -/
def nameableConstraints : List String := ["CHECK", "FOREIGN KEY", "PRIMARY KEY", "UNIQUE"]

/-- a constraint of a table, if one starts here -/
def tableConstraint? (g : Grammar) (entries : Parser (Option (List Entry))) (d : Dialect) : Parser (Option (List Entry)) := do
  if ← word "CONSTRAINT" then
    let nameless ← (do if d = .mysql then sees (fun t => nameableConstraints.contains t.word) else return false)
    let name ← (do if nameless then return none else anyName? d)
    let found ← many do
      if ← sees (·.kind = .quoted) then return none
      match ← saying? (constraintStarts d) with
      | some w => return some (← constraintBody g entries d (name.bind fun n => if n = "" then none else some n) w)
      | none => restoring do
        match ← saying? (clauseStarts d) with
        | none => return none
        | some w => return (← clauseBody? g entries d w).map fun _ => .nothing
    if found.isEmpty then fail
    return some found
  if ← sees (·.kind = .quoted) then return none
  match ← saying? (constraintStarts d) with
  | none => return none
  | some w => return some [← constraintBody g entries d none w]

/-- the list that defines a table, if there is one; a query between brackets is none -/
def entriesWith (g : Grammar) (d : Dialect) : Nat → Parser (Option (List Entry))
  | 0 => fail
  | n + 1 => do
    if !(← seesSymbol "(") then return none
    match ← second? with
    | some t => if t.isSymbol "(" || t.word == "WITH" || t.word == "SELECT" then return none
    | none => pure ()
    expectOpen
    let inner := entriesWith g d n
    let found ← commaList do
      match ← tableConstraint? g inner d with
      | some es => return some es
      | none => return (← columnEntry g inner d).map ([·])
    close
    return some found.flatten

/-! ## Properties -/

/-- properties that are a word alone -/
def bareProperties : List String :=
  ["TEMP", "TEMPORARY", "UNLOGGED", "TRANSIENT", "EXTERNAL", "GLOBAL", "MATERIALIZED", "STRICT", "IMMUTABLE", "STABLE",
    "VOLATILE", "HEAP", "ICEBERG", "DYNAMIC", "SECURE", "MULTISET", "STREAMING"]

/-- properties that are given a value -/
def valueProperties : List String :=
  ["ALGORITHM", "AUTO_INCREMENT", "CHARSET", "CHARACTER SET", "COLLATE", "COMMENT", "DEFINER", "ENGINE", "FORMAT",
    "LOCATION", "LOCK", "ROW_FORMAT", "USING", "CHECKSUM", "DISTSTYLE", "CONTAINS", "LANGUAGE", "EXECUTE"]

/-- a property that is given a value, after its name -/
def propertyValue (g : Grammar) (d : Dialect) : Parser Unit := do
  let _ ← symbol "="
  let _ ← word "AS"
  let _ ← field? g d false

/-- how a table is divided -/
def partitioning (g : Grammar) (d : Dialect) : Parser Unit := do
  let _ ← symbol "="
  if ← group then return ()
  match ← call? d true with
  | some _ =>
    if d = .mysql then
      if ← phrase ["PARTITIONS"] then let _ ← g.value
      let _ ← group
  | none =>
    let _ ← field? g d false
    if ← group then return ()

/-- the bounds of a part of a table -/
def partitionOf (d : Dialect) : Parser Unit := do
  let _ ← demand (tableName? d)
  let _ ← group
  if ← word "DEFAULT" then return ()
  if ← phrase ["FOR", "VALUES"] then
    if ← phrase ["IN"] then
      if !(← group) then fail
    else if ← phrase ["FROM"] then
      if !(← group) then fail
      if !(← phrase ["TO"]) then fail
      if !(← group) then fail
    else if ← phrase ["WITH"] then
      if !(← group) then fail
    else fail
    return ()
  fail

/-- options of a sequence -/
def sequenceOption : Parser Bool := do
  if ← takeIf (fun t => t.word == "START WITH") then
    let _ ← symbol "="
    let _ ← take? fun _ => true
    return true
  for option in [["INCREMENT", "BY"], ["INCREMENT"], ["MINVALUE"], ["MAXVALUE"], ["CACHE"]] do
    if ← phrase option then
      let _ ← symbol "="
      let _ ← take? fun t => t.kind = .number || t.isSymbol "-"
      return true
  for option in [["NO", "MINVALUE"], ["NO", "MAXVALUE"], ["NO", "CACHE"], ["NO", "CYCLE"], ["CYCLE"],
      ["OWNED", "BY", "NONE"]] do
    if ← phrase option then return true
  return false

/-- a property with a name of its own, an equals sign and a value -/
def freeProperty (g : Grammar) (d : Dialect) : Parser (Option Unit) := restoring do
  match ← field? g d false with
  | none => return none
  | some o =>
    let _ ← postfixed g d o
    if ← symbol "=" then
      match ← g.value with
      | some _ => return some ()
      | none =>
        let _ ← anyName? d
        return some ()
    else return none

/-- one property; whether there was one -/
def property (g : Grammar) (d : Dialect) : Parser Bool := do
  if (← saying? bareProperties).isSome then return true
  match ← saying? valueProperties with
  | some _ =>
    propertyValue g d
    return true
  | none => pure ()
  match ← second? with
  | some t =>
    if (← seesWord "DEFAULT") && valueProperties.contains t.spelled then
      advance
      advance
      propertyValue g d
      return true
  | none => pure ()
  if d = .sqlite then
    if ← phrase ["VIRTUAL"] then return true
  if ← phrase ["INHERITS"] then
    if ← group then return true else fail
  if (← saying? ["PARTITION BY", "PARTITIONED BY", "PARTITIONED_BY"]).isSome then
    partitioning g d
    return true
  if ← phrase ["PARTITION", "OF"] then
    partitionOf d
    return true
  if ← word "LIKE" then
    likeTable d
    return true
  if (← seesWord "WITH") && ((← second?).any (·.isSymbol "(")) then
    advance
    return ← group
  if ← phrase ["ON", "COMMIT"] then
    let _ ← takeIf (fun t => ["PRESERVE", "DELETE"].contains t.spelled)
    let _ ← phrase ["ROWS"]
    return true
  if ← word "PRIMARY KEY" then
    if ← group then return true else fail
  if ← sequenceOption then return true
  return (← freeProperty g d).isSome

/-- all properties that stand here, in one dialect with commas between if wanted; whether there was one -/
def properties (g : Grammar) (d : Dialect) : Parser Bool := do
  let one : Parser (Option Unit) := do
    if ← property g d then return some () else return none
  match ← one with
  | none => return false
  | some _ =>
    let _ ← many (orElse one (restoring do
      if d = .mysql && (← symbol ",") then one else return none))
    return true

end Grammar

end Crowfoot.Ddl
