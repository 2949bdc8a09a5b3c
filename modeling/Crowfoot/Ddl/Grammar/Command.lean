import Crowfoot.Ddl.Grammar.Definition

/-
Whole statements. One that creates or alters a table is read as far as it is understood; what remains of it turns it
into a raw command, whose text is all that is known of it. Other statements must be well formed, and say nothing.
-/

namespace Crowfoot.Ddl

/-- what one statement of a script is -/
inductive Clause where
  | statement (s : Statement)
  /-- a statement that a schema does not depend on -/
  | irrelevant
  /-- a statement that was recognised by its first word only -/
  | raw
  deriving DecidableEq, Repr

namespace Grammar

open Ddl.Parser

/-! ## Creating -/

/-- what can be created, in words that the reader knows -/
def creatableWords : List String :=
  ["COLUMN", "CONSTRAINT", "DATABASE", "FOREIGN KEY", "FUNCTION", "INDEX", "PROCEDURE", "SCHEMA", "SEQUENCE", "TABLE",
    "TRIGGER", "VIEW"]

/-- the query that a table is filled from -/
def filling (g : Grammar) (d : Dialect) : Parser Unit := do
  let named ← word "AS"
  if !(← sees (fun t => t.isSymbol "(" || t.word == "SELECT" || t.word == "WITH")) then
    let _ ← properties g d
  if !(← g.query) && named then let _ ← attempt (tableName? d)

/-- a table after its first words; raw when something is left that is not understood -/
def createTable (g : Grammar) (d : Dialect) : Parser Clause := do
  let _ ← phrase ["IF", "NOT", "EXISTS"]
  let parts ← demand (tableName? d)
  let _ ← symbol ","
  let entries ← entriesWith g d ((← remaining) + 1)
  let _ ← properties g d
  filling g d
  let _ ← properties g d
  if !(← atEnd) && !(← sees (fun t => t.isSymbol ")" || t.isSymbol ",")) then return .raw
  match tableRef? parts with
  | none => return .irrelevant
  | some table =>
    let es := entries.getD []
    let columns := es.filterMap fun e => match e with
      | .column c => if c.name = "" then none else some c
      | _ => none
    let constraints := es.filterMap fun e => match e with
      | .constraint c => some c
      | _ => none
    return .statement (.createTable table columns constraints)

/-- a view: a name, columns, properties and a query -/
def createView (g : Grammar) (d : Dialect) : Parser Clause := do
  let _ ← phrase ["IF", "NOT", "EXISTS"]
  let _ ← demand (tableName? d)
  let _ ← group
  let _ ← properties g d
  filling g d
  let _ ← properties g d
  if !(← atEnd) && !(← sees (fun t => t.isSymbol ")" || t.isSymbol ",")) then return .raw
  return .irrelevant

/-- what follows `CREATE` -/
def create (g : Grammar) (d : Dialect) : Parser Clause := do
  if !(← phrase ["OR", "REPLACE"]) then let _ ← phrase ["OR", "ALTER"]
  let _ ← word "UNIQUE"
  let kind ← take? fun t => creatableWords.contains t.word
  let kind ← match kind with
    | some k => pure (some k)
    | none => do
      let some' ← properties g d
      let k ← take? fun t => creatableWords.contains t.word
      pure (if some' then k else none)
  match kind.map Token.word with
  | some "TABLE" => createTable g d
  | some "VIEW" => createView g d
  | some _ =>
    skipRest
    return .irrelevant
  | none => return .raw

/-! ## Altering -/

/-- words with which an added constraint starts -/
def addedStarts : Dialect → List String
  | .mysql => ["CONSTRAINT", "FOREIGN KEY", "INDEX", "KEY", "PRIMARY KEY", "UNIQUE"]
  | _ => ["CONSTRAINT", "FOREIGN KEY", "INDEX", "PRIMARY KEY", "UNIQUE"]

def seesAdded (d : Dialect) (t : Token) : Bool := (addedStarts d).contains t.word

/-- the foreign keys among the constraints of a column -/
def clauseKeys (cs : List ColumnClause) : List ConstraintDef :=
  cs.filterMap fun c => match c with
    | .foreignKey k => k
    | _ => none

/-- a column that is added, with the foreign keys in its definition; none if it is no definition -/
def addedColumn (g : Grammar) (d : Dialect) : Parser (Option (List ConstraintDef)) := do
  let _ ← word "COLUMN"
  let _ ← phrase ["IF", "NOT", "EXISTS"]
  let inner ← (do return entriesWith g d ((← remaining) + 1))
  match ← field? g d true with
  | none => return none
  | some _ =>
    let type ← g.type
    let clauses ← many (columnClause? g inner d)
    if type.isNone && clauses.isEmpty then return none
    if ← phrase ["FIRST"] then pure ()
    else if ← phrase ["AFTER"] then let _ ← field? g d false
    return some (clauseKeys clauses)

/-- the foreign keys among some entries -/
def entryKeys (es : List Entry) : List ConstraintDef :=
  es.filterMap fun e => match e with
    | .constraint c => if c.kind = .foreignKey then some c else none
    | _ => none

/-- constraints that are added together -/
def addedConstraints (g : Grammar) (d : Dialect) : Parser (List ConstraintDef) := do
  let inner := entriesWith g d ((← remaining) + 1)
  let first ← demand (tableConstraint? g inner d)
  let more ← many do
    match ← peek?, ← second? with
    | some t, some u =>
      if t.isSymbol "," && seesAdded d u then
        advance
        return some (← demand (tableConstraint? g inner d))
      else return none
    | _, _ => return none
  return entryKeys (first :: more).flatten

/-- one thing that is added, as foreign keys and whether it was a constraint; none if it is not understood -/
def addition (g : Grammar) (d : Dialect) : Parser (Option (List ConstraintDef × Bool)) := do
  let added ← word "ADD"
  if ← sees (seesAdded d) then return some (← addedConstraints g d, true)
  else if added then return (← restoring (addedColumn g d)).map (·, false)
  else return none

/-- things that are added one after another; in one dialect a constraint is the last -/
def additions (g : Grammar) (d : Dialect) : Parser (Option (List ConstraintDef)) := do
  let rec more : Nat → Parser (List ConstraintDef)
    | 0 => return []
    | n + 1 => do
      if !(← symbol ",") then return []
      match ← addition g d with
      | none => return []
      | some (keys, last) => return keys ++ (← if last && d = .sqlite then pure [] else more n)
  match ← addition g d with
  | none => return none
  | some (keys, last) =>
    if last && d = .sqlite then return some keys
    return some (keys ++ (← more ((← remaining) + 1)))

/-- things that are dropped; whether they were understood -/
def drops (d : Dialect) : Parser Bool := do
  let items ← many do
    let _ ← symbol ","
    let _ ← word "DROP"
    let _ ← (do if (← saying? ["PARTITION"]).isSome then fail else return ())
    let _ ← saying? ["COLUMN", "CONSTRAINT", "FOREIGN KEY", "INDEX"]
    let _ ← phrase ["IF", "EXISTS"]
    match ← tableName? d with
    | none => return none
    | some _ =>
      let _ ← saying? ["CASCADE", "RESTRICT"]
      return some ()
  return !items.isEmpty

/-- what follows `ALTER TABLE` -/
def alterTable (g : Grammar) (d : Dialect) : Parser Clause := do
  let _ ← phrase ["IF", "EXISTS"]
  let _ ← phrase ["ONLY"]
  let parts ← demand (tableName? d)
  let _ ← symbol "*"
  let _ ← entriesWith g d ((← remaining) + 1)
  let _ ← phrase ["WITH", "CHECK"]
  if (← remaining) < 2 then return .raw
  if ← seesWord "ADD" then
    match ← additions g d with
    | none => return .raw
    | some keys =>
      let _ ← phrase ["NOT", "VALID"]
      let _ ← commaList do
        if ← property g d then return some () else return none
      if !(← atEnd) then return .raw
      match tableRef? parts with
      | none => return .irrelevant
      | some table => return if keys.isEmpty then .irrelevant else .statement (.alterTable table keys)
  else if ← word "DROP" then
    let understood ← attempt do
      if ← drops d then
        if ← atEnd then return some () else return none
      else return none
    return if understood.isSome then .irrelevant else .raw
  else return .raw

/-! ## Statements -/

/-- the first words of statements that are taken over as they are -/
def verbatimStarts : Dialect → List String
  | d =>
    ["CALL", "OPTIMIZE", "PREPARE", "VACUUM", "EXECUTE", "FETCH", "RENAME", "GRANT", "REVOKE", "SET", "ANALYZE", "COPY",
      "TRUNCATE", "USE", "KILL", "LOAD", "MERGE", "CACHE", "UNCACHE", "DESCRIBE", "DESC", "EXPLAIN", "SHOW", "COMMENT",
      "PRAGMA"]
    ++ match d with
      | .postgres => ["DECLARE", "DO", "EXEC", "REFRESH", "REINDEX", "RESET"]
      | .mysql => ["LOCK TABLES", "UNLOCK TABLES", "REPLACE"]
      | .sqlite => ["REPLACE", "ATTACH", "DETACH"]

/-- the first words of statements about transactions -/
def transactionStarts : Dialect → List String
  | .mysql => ["BEGIN", "COMMIT", "ROLLBACK", "START"]
  | _ => ["BEGIN", "COMMIT", "ROLLBACK"]

/-- one statement up to where it is understood -/
def clause (g : Grammar) (d : Dialect) : Parser Clause := do
  match ← peek? with
  | none => return .irrelevant
  | some t =>
    if t.word = "CREATE" then
      advance
      create g d
    else if t.word = "ALTER" then
      advance
      if ← word "TABLE" then alterTable g d else return .raw
    else if t.word = "INSERT" then
      advance
      insertion g d
      return .irrelevant
    else if t.word = "UPDATE" then
      advance
      modification g d
      return .irrelevant
    else if t.word = "DELETE" then
      advance
      deletion g d
      return .irrelevant
    else if t.word = "DROP" then
      advance
      removal d
      return .irrelevant
    else if (verbatimStarts d).contains t.word then
      loop (return (← take? fun _ => true).isSome)
      return .irrelevant
    else if (transactionStarts d).contains t.word then
      loop (takeIf fun t => t.kind = .word || t.isSymbol ",")
      return .irrelevant
    else if ← g.query then return .irrelevant
    else
      let _ ← projection g d
      queryTail g d
      return .irrelevant

/-- a whole statement; a raw one ends wherever it ends -/
def statement (d : Dialect) (ts : List Token) : Except SyntaxFault Clause :=
  match (clause (ofDepth d (ts.length + 2)) d) ts with
  | .error e => .error e
  | .ok (.raw, _) => .ok .raw
  | .ok (c, []) => .ok c
  | .ok (_, _ :: _) => .error .unexpected

end Grammar

end Crowfoot.Ddl
