import Crowfoot.Ddl.Lexer
import Crowfoot.Ddl.Grammar.Command
import Crowfoot.Ddl.Assembly
import Crowfoot.Text.Basic

/-
Reading scripts. A script is split at its semicolons, each statement is read, and the statements about tables make a
schema. A statement about a table of which only the text is known fails the script, so that nothing is lost silently.
Without a named dialect each is tried in turn.
-/

namespace Crowfoot.Ddl

/-- why a script cannot be read in a dialect -/
inductive ScriptFault where
  /-- a token that does not end -/
  | token
  /-- a statement that is not well formed -/
  | statement
  /-- a statement about a table that is known by its text only -/
  | unsupported (text : String)
  deriving DecidableEq, Repr

/-- the fault in words, for a script in a dialect -/
def ScriptFault.message (d : Dialect) : ScriptFault → String
  | token => "Unfinished text in the script"
  | statement => "Malformed statement in the script"
  | unsupported text => "Unsupported syntax for " ++ d.shortName ++ ": " ++ text

/-! ## Raw commands -/

/-- what `CREATE` may be followed by when no table is meant -/
def otherKinds : List String :=
  ["AGGREGATE", "CAST", "COLLATION", "DATABASE", "DOMAIN", "EVENT", "EXTENSION", "FUNCTION", "INDEX", "LANGUAGE",
    "MATERIALIZED", "OPERATOR", "POLICY", "PROCEDURE", "PUBLICATION", "ROLE", "RULE", "SCHEMA", "SEQUENCE", "SERVER",
    "STATISTICS", "SUBSCRIPTION", "TABLESPACE", "TRIGGER", "TYPE", "USER", "VIEW"]

/-- the words in front of the first bracket, in upper case -/
def leadingWords (text : String) : List String :=
  let head := Text.upper (String.ofList (text.toList.takeWhile (· ≠ '(')))
  (Text.fields (fun c => !Text.isWordChar c) head.toList).map String.ofList

/-- whether the words after `CREATE` may be about a table -/
def mayCreateTable : List String → Bool
  | [] => true
  | w :: rest => if w = "TABLE" then true else if otherKinds.contains w then false else mayCreateTable rest

/-- whether a raw command, given by its first word and what follows it, is a definition that would be lost -/
def isUnparsedDdl (keyword rest : String) : Bool :=
  let k := Text.upper keyword
  if k = "CREATE" then mayCreateTable (leadingWords rest)
  else if k = "ALTER" then (leadingWords rest).contains "FOREIGN"
  else false

/-- a statement inside a message: on one line, and shortened -/
def commandText (text : String) : String :=
  let cs := (Text.collapseBlanks text).toList
  if cs.length ≤ 80 then String.ofList cs else String.ofList (cs.take 77 ++ ['.', '.', '.'])

/-! ## Statements -/

/-- the part of a script from the first of some tokens to the last -/
def sourceOf (text : List Char) (ts : List Token) : String :=
  match ts, ts.getLast? with
  | first :: _, some last => String.ofList ((text.drop first.start).take (last.stop - first.start))
  | _, _ => ""

/-- the statement that a clause is; a raw one that matters is refused -/
def accept (text : List Char) (ts : List Token) : Clause → Except ScriptFault (Option Statement)
  | .statement s => .ok (some s)
  | .irrelevant => .ok none
  | .raw =>
    let source := sourceOf text ts
    let keyword := (ts.head?.map (·.text)).getD ""
    if isUnparsedDdl keyword (String.ofList (source.toList.drop keyword.length)) then
      .error (.unsupported (commandText source))
    else .ok none

/-- the statements of a script about tables, in order -/
def readStatements (d : Dialect) (text : String) : Except ScriptFault (List Statement) := do
  let ts ← (tokens d text).mapError fun _ => ScriptFault.token
  let pieces := (ts.splitOnP (·.isSymbol ";")).filter (!·.isEmpty)
  let clauses ← pieces.mapM fun piece => (Grammar.statement d piece).mapError fun _ => ScriptFault.statement
  let statements ← (pieces.zip clauses).mapM fun (piece, c) => accept text.toList piece c
  return statements.reduceOption

/-! ## Schemas -/

/-- why a script makes no schema -/
inductive ImportError where
  | unknownDialect (e : UnknownDialect)
  /-- no dialect reads the script; the fault is that of the last one tried -/
  | unreadable (dialect : Dialect) (fault : ScriptFault)
  | assembly (e : AssemblyError)
  deriving DecidableEq, Repr

def ImportError.message : ImportError → String
  | unknownDialect e => e.message
  | unreadable d fault => fault.message d ++ " (dialect: " ++ d.name ++ ")"
  | assembly .noColumns => "A foreign key has no columns"
  | assembly (.layout fault) => fault.message

/-- how the statements of a script are read in a dialect -/
abbrev Reader := Dialect → String → Except ScriptFault (List Statement)

/-- the statements as the first dialect that reads the script gives them -/
def firstReading (read : Reader) (text : String) : List Dialect → Except ImportError (List Statement)
  | [] => .ok []
  | d :: rest =>
    match read d text, rest with
    | .ok statements, _ => .ok statements
    | .error e, [] => .error (.unreadable d e)
    | .error _, rest => firstReading read text rest

variable {κ σ : Type} [Coordinate κ] [IdSupply σ]

/-- the schema that a script makes, with fresh ids, given what reads it -/
def importTextWith (read : Reader) (sql : String) (dialect : Option String) (ids : σ) :
    Except ImportError (Schema κ × σ) := do
  let text := Text.trim sql
  if text = "" then return (Schema.empty, ids)
  let chosen ← (Dialect.resolve? dialect).mapError ImportError.unknownDialect
  let dialects := match chosen with
    | some d => [d]
    | none => Dialect.all
  let statements ← firstReading read text dialects
  (assemble statements ids).mapError ImportError.assembly

/-- the schema that a script makes, with fresh ids -/
def importText (sql : String) (dialect : Option String) (ids : σ) : Except ImportError (Schema κ × σ) :=
  importTextWith readStatements sql dialect ids

/-- the schema that a script makes or why it makes none, with the source of ids in either case -/
def importing (read : Reader) (sql : String) (dialect : Option String) (ids : σ) : Except ImportError (Schema κ) × σ :=
  let text := Text.trim sql
  if text = "" then (.ok Schema.empty, ids)
  else
    match Dialect.resolve? dialect with
    | .error e => (.error (.unknownDialect e), ids)
    | .ok chosen =>
      match firstReading read text ((chosen.map fun d => [d]).getD Dialect.all) with
      | .error e => (.error e, ids)
      | .ok statements =>
        let (made, ids) := assembling statements ids
        (made.mapError ImportError.assembly, ids)

end Crowfoot.Ddl
