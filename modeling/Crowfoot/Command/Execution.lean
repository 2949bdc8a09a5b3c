import Crowfoot.Command.Invocation
import Crowfoot.Ddl.Script
import Crowfoot.Ddl.Source
import Crowfoot.Document.Interchange
import Crowfoot.Files.Tree
import Crowfoot.Layout.Drawing
import Crowfoot.Schema.Junction

/-
What commands do, step by step: a text is read, a file may be written, a report is printed. The report of a command ends
the program then and there, and so does a failure, which is told in a report unless it is an unexpected one. What was
done until then stays done.
-/

namespace Crowfoot.Command

open Document

/-- why a command does not come to its end -/
inductive Failure where
  | settings (error : NotAnInteger)
  | script (error : Ddl.ImportError)
  | document (error : Document.FormatError)
  | layout (fault : Layout.Fault String)
  | noJunction
  | unreadable (fault : ReadFault)
  | unwritable (fault : FileFault)
  /-- a schema has no text -/
  | overlong (cause : Decimal.Overlong)
  deriving DecidableEq, Repr

namespace Failure

/-- whether a failure is told in the report of the program; any other one breaks it off -/
def isReported : Failure → Bool
  | document e => e.ofFormat
  | script (.assembly _) | settings _ | layout _ | unreadable .notText | overlong _ => false
  | _ => true

def message : Failure → String
  | settings e => e.message
  | script e => e.message
  | document e => e.message
  | layout f => f.message
  | noJunction => "Both tables must exist and have exactly one primary key column"
  | unreadable f => f.message
  | unwritable f => f.message
  | overlong c => c.message

end Failure

/-- how the program ends -/
inductive Ending where
  /-- the arguments ask for help, or make no sense -/
  | stopped (cause : Stop)
  /-- a command has given its report -/
  | finished (code : Nat) (report : Json)
  | failed (failure : Failure)
  /-- a command came back without a report -/
  | returned

/-! ## Reports -/

def statusReport (status : String) (more : List (String × Json)) : Json :=
  .object (("status", .text status) :: more)

def failureReport (f : Failure) : Json := statusReport "error" [("error", .text f.message)]

namespace Ending

/-- the number that the program ends with; a failure that is not reported breaks it off without one -/
def code? : Ending → Option Nat
  | stopped .help => some 0
  | stopped .usage => some 2
  | finished code _ => some code
  | failed f => if f.isReported then some 1 else none
  | returned => some 0

/-- the report that belongs to an ending -/
def report? : Ending → Option Json
  | stopped _ => none
  | finished _ report => some report
  | failed f => if f.isReported then some (failureReport f) else none
  | returned => none

end Ending

/-! ## Steps -/

/-- where the program runs: texts are read there, files written and reports printed, and an ending breaks off all that
would follow -/
class Host (m : Type → Type) extends Monad m, MonadExceptOf Ending m where
  readText : Source → m String
  writeText (path content : String) : m Unit
  print : Json → m Unit

section Steps

variable {m : Type → Type} [Host m] {α : Type}

/-- print a report and end -/
def finish (code : Nat) (report : Json) : m α := do
  Host.print report
  throw (Ending.finished code report)

def fail (f : Failure) : m α := throw (Ending.failed f)

/-- what was computed, or its failure -/
def obtained : Except Failure α → m α
  | .ok a => pure a
  | .error f => fail f

def load (source : Source) : m (Schema Float) := do
  let text ← Host.readText source
  obtained ((decode text).mapError Failure.document)

/-- a schema into a file, if one is named; what to report of it. A report tells the schema itself where none is, and can
be written if the schema can -/
def deliver (s : Schema Float) (output : Option String) : m Json := do
  let text ← obtained ((encode s).mapError Failure.overlong)
  match output with
  | some path =>
    Host.writeText path text
    return statusReport "ok" [("file_path", .text path), ("tables", .int s.tables.length),
      ("relationships", .int s.relationships.length)]
  | none => return statusReport "ok" [("schema", schemaJson s)]

/-- what is found in a schema -/
def validationReport (s : Schema Float) : Json :=
  let summary := IssueSummary.ofIssues s.issues
  statusReport (if summary.valid then "ok" else "invalid") [("issues", issuesJson s.issues),
    ("summary", summaryJson summary)]

/-! ## Commands -/

/-- the file that a command changes unless another one is named: its own input -/
def destination (source : Source) (output : Option String) : Option String :=
  match output, source with
  | some path, _ => some path
  | none, .file path => some path
  | none, .standardInput => none

variable {σ : Type} [IdSupply σ]

/-- carry out an invocation, given what reads scripts; a server is left to others -/
def Invocation.carryOut (readScript : Ddl.Reader) (ids : σ) : Invocation → m Unit
  | importSql source dialect output => do
    let text ← Host.readText source
    let (s, _) ← obtained
      ((Ddl.importTextWith readScript text (dialect.map Ddl.Dialect.name) ids).mapError Failure.script)
    finish 0 (← deliver s output)
  | exportSql source dialect output => do
    let s ← load source
    let sql := Ddl.render (dialect.getD .postgres) (Ddl.script s)
    if let some path := output then
      Host.writeText path (sql ++ "\n")
      finish 0 (statusReport "ok" [("file_path", .text path)])
    finish 0 (statusReport "ok" [("sql", .text sql)])
  | validate source => do
    let s ← load source
    finish (if (IssueSummary.ofIssues s.issues).valid then 0 else 2) (validationReport s)
  | layout source output => do
    let s ← load source
    let s ← obtained (s.relayout.mapError Failure.layout)
    finish 0 (← deliver s (destination source output))
  | junction source tableIdA tableIdB output => do
    let s ← load source
    match s.junction? tableIdA tableIdB ids with
    | none => finish 1 (failureReport .noJunction)
    | some (s, _) => finish 0 (← deliver s (destination source output))
  | serve _ _ => return ()

/-- a failure that is expected is told in a report -/
def telling (act : m Unit) : m Unit :=
  tryCatch act fun e => do
    if let .failed f := e then
      if f.isReported then Host.print (failureReport f)
    throw e

/-- the whole program; only a command's own failures are told -/
def program (readScript : Ddl.Reader) (env : List (String × String)) (args : List String) (ids : σ) : m Unit := do
  match Settings.load env with
  | .error e => fail (.settings e)
  | .ok settings =>
    match parse settings args with
    | .error cause => throw (Ending.stopped cause)
    | .ok i => telling (i.carryOut readScript ids)

end Steps

/-! ## On a tree of files -/

/-- a tree of files with what stands on the standard input and what has been printed, oldest first -/
structure Desk where
  input : Content
  files : Files
  printed : List Json

/-- the text of a source; only files have their line ends unified -/
def Desk.textOf (desk : Desk) : Source → Except Failure String
  | .standardInput => desk.input.read.mapError Failure.unreadable
  | .file path => ((desk.files.read (Path.ofText path)).map unifiedLines).mapError Failure.unreadable

abbrev DeskM := EStateM Ending Desk

instance : Host DeskM where
  readText source desk :=
    match desk.textOf source with
    | .ok text => .ok text desk
    | .error f => .error (.failed f) desk
  writeText path content desk :=
    match desk.files.write (Path.ofText path) content with
    | .ok fs => .ok () { desk with files := fs }
    | .error e => .error (.failed (.unwritable e)) desk
  print report desk := .ok () { desk with printed := desk.printed ++ [report] }

variable {σ : Type} [IdSupply σ]

/-- how the program ends on a desk, and what it leaves there -/
def runOn (readScript : Ddl.Reader) (env : List (String × String)) (args : List String) (ids : σ) (desk : Desk) :
    Ending × Desk :=
  match (program readScript env args ids : DeskM Unit) desk with
  | .ok _ desk => (.returned, desk)
  | .error e desk => (e, desk)

/-- how the program ends on a tree of files with a text on the standard input, and the files afterwards -/
def run (env : List (String × String)) (args : List String) (fs : Files) (input : String) (ids : σ) : Ending × Files :=
  let (ending, desk) := runOn Ddl.readStatements env args ids ⟨.text input, fs, []⟩
  (ending, desk.files)

end Crowfoot.Command
