import Crowfoot.Ddl.Grammar.Expression

/-
Queries and changes of data. Nothing of them ends up in a schema, but a script is refused when one of them is not
well formed.
-/

namespace Crowfoot.Ddl.Grammar

open Ddl.Parser

/-- a table by its name, with what may qualify it -/
def tableName? (d : Dialect) : Parser (Option (List String)) := do
  match ← nameOrText? d with
  | none => return none
  | some first =>
    let more ← many do
      if ← symbol "." then return some (← demand (nameOrText? d)) else return none
    return some (first :: more)

/-- an expression and another name for it -/
def projection (g : Grammar) (d : Dialect) : Parser (Option Operand) := do
  match ← g.condition with
  | none => return none
  | some o =>
    let _ ← alias? d
    return some o

/-- one source of rows -/
def rowSource (g : Grammar) (d : Dialect) : Parser (Option Unit) := do
  let _ ← word "LATERAL"
  if ← symbol "(" then
    skipGroup
    let _ ← alias? d
    let _ ← group
    return some ()
  let _ ← word "ONLY"
  match ← call? d false with
  | some _ =>
    let _ ← alias? d
    let _ ← group
    return some ()
  | none =>
    match ← tableName? d with
    | none => fail
    | some _ =>
      let _ ← symbol "*"
      let _ ← alias? d
      let _ ← group
      let _ ← phrase ["INDEXED", "BY"]
      let _ := g
      return some ()

/-- words that may stand before `JOIN` -/
def joinWords : List String :=
  ["NATURAL", "LEFT", "RIGHT", "FULL", "INNER", "OUTER", "CROSS", "SEMI", "ANTI", "ASOF", "STRAIGHT_JOIN"]

/-- the sources that are joined to one -/
def joins (g : Grammar) (d : Dialect) : Parser Unit := loop do
  if ← symbol "," then
    let _ ← rowSource g d
    return true
  let before ← many (take? fun t => joinWords.contains t.word)
  if ← word "JOIN" then
    let _ ← rowSource g d
    if ← word "ON" then let _ ← demand g.condition
    else if ← word "USING" then
      if !(← group) then fail
    return true
  if before.isEmpty then return false else fail

/-- an expression to sort by -/
def ordered (g : Grammar) : Parser (Option Operand) := do
  match ← g.condition with
  | none => return none
  | some o =>
    let _ ← takeIf (fun t => t.word == "ASC" || t.word == "DESC")
    let _ ← phrase ["NULLS", "FIRST"]
    let _ ← phrase ["NULLS", "LAST"]
    return some o

def fromClause (g : Grammar) (d : Dialect) : Parser Unit := do
  if ← word "FROM" then
    let _ ← rowSource g d
    joins g d

def whereClause (g : Grammar) : Parser Unit := do
  if ← word "WHERE" then let _ ← demand g.condition

/-- the clauses after the sources of a query -/
def queryTail (g : Grammar) (d : Dialect) : Parser Unit := loop do
  if ← word "WHERE" then
    let _ ← demand g.condition
    return true
  if ← word "GROUP BY" then
    let _ ← commaList g.condition
    return true
  if ← word "HAVING" then
    let _ ← demand g.condition
    return true
  if ← word "WINDOW" then
    let _ ← demand (anyName? d)
    if !(← word "AS") then fail
    if !(← group) then fail
    return true
  if ← word "ORDER BY" then
    let _ ← commaList (ordered g)
    return true
  if ← word "LIMIT" then
    let _ ← commaList g.value
    return true
  if ← word "OFFSET" then
    let _ ← demand g.value
    let _ ← takeIf (fun t => t.spelled == "ROW" || t.spelled == "ROWS")
    return true
  if ← word "FETCH" then
    let _ ← takeIf (fun t => t.spelled == "FIRST" || t.spelled == "NEXT")
    let _ ← take? (·.kind = .number)
    let _ ← takeIf (fun t => t.spelled == "ROW" || t.spelled == "ROWS")
    let _ ← phrase ["ONLY"]
    return true
  if ← phrase ["FOR", "UPDATE"] then return true
  if ← phrase ["FOR", "SHARE"] then return true
  if ← takeIf (fun t => ["UNION", "EXCEPT", "INTERSECT"].contains t.word) then
    let _ ← takeIf (fun t => t.word == "ALL" || t.word == "DISTINCT")
    if ← g.query then return true else fail
  return false

/-- rows written out -/
def valueRows : Parser Bool := do
  if !(← word "VALUES") then return false
  let _ ← commaList do
    if ← group then return some ()
    else return none
  return true

/-- a query; whether there was one -/
def queryWith (g : Grammar) (d : Dialect) : Parser Bool := do
  if ← word "WITH" then
    let _ ← word "RECURSIVE"
    let _ ← commaList do
      match ← tableName? d with
      | none => fail
      | some _ =>
        let _ ← group
        if !(← word "AS") then fail
        let _ ← word "NOT"
        let _ ← phrase ["MATERIALIZED"]
        if ← group then return some () else fail
    if ← sees (fun t => ["INSERT", "UPDATE", "DELETE", "MERGE"].contains t.word) then
      skipRest
      return true
    if ← g.query then return true else fail
  if ← word "SELECT" then
    let _ ← takeIf (fun t => t.word == "DISTINCT" || t.word == "ALL" || t.word == "DISTINCTROW")
    if ← word "ON" then
      if !(← group) then fail
    let _ ← commaList (projection g d)
    if ← word "INTO" then
      let _ ← takeIf (fun t => t.word == "TEMP" || t.word == "TEMPORARY" || t.spelled == "UNLOGGED")
      let _ ← word "TABLE"
      let _ ← demand (tableName? d)
    fromClause g d
    queryTail g d
    return true
  if ← valueRows then
    let _ ← alias? d
    queryTail g d
    return true
  match ← peek?, ← second? with
  | some t, some u =>
    if t.isSymbol "(" && (u.isSymbol "(" || ["SELECT", "WITH", "VALUES"].contains u.word) then
      let _ ← group
      queryTail g d
      return true
    else return false
  | _, _ => return false

/-! ## Changes of data -/

/-- rows added to a table -/
def insertion (g : Grammar) (d : Dialect) : Parser Unit := do
  let _ ← takeIf (fun t => ["OVERWRITE", "IGNORE", "LOW_PRIORITY", "DELAYED", "HIGH_PRIORITY"].contains t.word)
  if ← word "OR" then let _ ← saying? ["ROLLBACK", "REPLACE", "ABORT", "FAIL", "IGNORE"]
  let _ ← word "INTO"
  let _ ← word "TABLE"
  let _ ← demand (tableName? d)
  let _ ← alias? d
  if !(← sees (fun t => t.isSymbol "(")) then pure ()
  else
    match ← second? with
    | some t => if t.word ≠ "SELECT" && t.word ≠ "WITH" then let _ ← group
    | none => fail
  if ← phrase ["DEFAULT", "VALUES"] then pure ()
  else if ← valueRows then pure ()
  else let _ ← g.query
  if ← sees (fun t => ["ON", "RETURNING", "AS"].contains t.word) then skipRest

/-- rows of a table changed -/
def modification (g : Grammar) (d : Dialect) : Parser Unit := do
  let _ ← rowSource g d
  joins g d
  if ← word "SET" then
    let _ ← commaList g.condition
  fromClause g d
  whereClause g
  if ← word "RETURNING" then
    let _ ← commaList (projection g d)
  queryTail g d

/-- rows taken from a table -/
def deletion (g : Grammar) (d : Dialect) : Parser Unit := do
  let _ ← word "FROM"
  let _ ← rowSource g d
  if ← word "USING" then
    let _ ← rowSource g d
    joins g d
  whereClause g
  if ← word "RETURNING" then
    let _ ← commaList (projection g d)
  queryTail g d

/-- things dropped -/
def removal (d : Dialect) : Parser Unit := do
  let _ ← takeIf (fun t => t.word == "TEMPORARY" || t.word == "TEMP")
  let _ ← phrase ["MATERIALIZED"]
  let kinds := ["COLUMN", "CONSTRAINT", "DATABASE", "FUNCTION", "INDEX", "PROCEDURE", "SCHEMA", "SEQUENCE", "TABLE",
    "TRIGGER", "VIEW"]
  match ← saying? kinds with
  | none => loop (return (← take? fun _ => true).isSome)
  | some _ =>
    let _ ← phrase ["CONCURRENTLY"]
    let _ ← phrase ["IF", "EXISTS"]
    let _ ← demand (tableName? d)
    if ← word "ON" then let _ ← tableName? d
    let _ ← group
    let _ ← phrase ["CASCADE"]
    let _ ← phrase ["CONSTRAINTS"]
    let _ ← phrase ["PURGE"]

/-! ## All depths -/

/-- the parsers for up to so many levels of nesting -/
def ofDepth (d : Dialect) : Nat → Grammar
  | 0 => bottom
  | n + 1 =>
    let g := ofDepth d n
    ⟨conditionWith g d, valueWith g d, queryWith g d, typeWith g d⟩

end Crowfoot.Ddl.Grammar
