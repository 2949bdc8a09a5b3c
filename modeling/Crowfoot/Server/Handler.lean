import Crowfoot.Ddl.Script
import Crowfoot.Document.Action
import Crowfoot.Layout.Slot
import Crowfoot.Server.Exchange
import Crowfoot.Server.Route
import Crowfoot.Store.Batch

/-
The server as a function: one store and a request give a reply, warnings and the store afterwards. A request that is
refused leaves the store as it was.
-/

namespace Crowfoot.Server

open Document

variable {σ : Type} [IdSupply σ]

/-- what comes of a request -/
structure Outcome (σ : Type) where
  reply : Reply
  warnings : List Warning
  store : Store Float σ

namespace Outcome

/-- a reply without a change -/
def still (st : Store Float σ) (r : Reply) : Outcome σ := ⟨r, [], st⟩

end Outcome

/-! ## State -/

/-- what clients are told of the store -/
def stateMembers (st : Store Float σ) : List (String × Json) :=
  [("schema", schemaJson st.schema), ("filePath", Json.ofText? (st.filePath.map Path.text)),
    ("isDirty", .bool st.dirty), ("canUndo", .bool st.canUndo), ("canRedo", .bool st.canRedo)]

/-- a result of a task that changes the store: whether it did something, and the state after it -/
def stateReply (success : Bool) (more : List (String × Json)) (st : Store Float σ) : Reply :=
  .ofResult (.object (("success", .bool success) :: more ++ stateMembers st))

/-- a change of the store that is always a success -/
def committed (r : Bool × Store Float σ) : Outcome σ := .still r.2 (stateReply true [] r.2)

/-! ## Reading -/

/-- go on with what was read, or refuse -/
def reading {α : Type} (st : Store Float σ) (r : Reading α) (next : α → Outcome σ) : Outcome σ :=
  match r with
  | .ok x => next x
  | .error (.flawed fs) => .still st (.flawed fs)
  | .error (.notIterable u) => .still st (.crashed (.notIterable u))

/-- go on with what was read from the body of a request, or refuse -/
def readingBody {α : Type} (st : Store Float σ) (r : Request) (read : Json → Reading α) (next : α → Outcome σ) :
    Outcome σ :=
  match readBody? read r.body with
  | some x => reading st x next
  | none => .still st (.refused .overlong)

/-- an object of any kind -/
def readObject : Json → Reading Json
  | .object ms => .ok (.object ms)
  | _ => Reading.flaw .dictType

def readScriptRequest (v : Json) : Reading (String × Option String) := do
  let ms ← members .request v
  Reading.both (required ms "sql" readText) (optional ms "dialect" none (nullable readText))

def readTablePair (v : Json) : Reading (String × String) := do
  let ms ← members .request v
  Reading.both (required ms "tableIdA" readText) (required ms "tableIdB" readText)

def readBatch (v : Json) : Reading (List ActionRequest × Position Float) := do
  let ms ← members .request v
  Reading.both (required ms "actions" (readRequests .request))
    (optional ms "viewportCenter" ⟨0, 0⟩ (readPosition .request))

/-- the number of steps among the parameters -/
def querySteps (query : List (String × String)) : Reading Int :=
  match parameter? query "steps" with
  | none => .ok 1
  | some s => Reading.within (.key "query") (Reading.within (.key "steps") (readBounded 1 stepLimit (.text s)))

/-! ## Tasks -/

/-- a move along the history -/
def movedBy (r : Nat × Store Float σ) : Outcome σ :=
  .still r.2 (stateReply (decide (0 < r.1)) [("steps", .int r.1)] r.2)

def replaceSchema (st : Store Float σ) (v : Json) : Outcome σ :=
  match decodeJson v with
  | .ok s => committed (st.commit s)
  | .error (.notIterable u) => .still st (.crashed (.notIterable u))
  | .error e => .still st (.refused (.document e))

/-- what reads a script is given -/
def importSql (readScript : Ddl.Reader) (st : Store Float σ) (sql : String) (dialect : Option String) : Outcome σ :=
  let (result, ids) := Ddl.importing readScript sql dialect st.ids
  let st := { st with ids := ids }
  match result with
  | .ok s => committed (st.commit s)
  | .error (.assembly e) => .still st (.crashed (.assembly e))
  | .error e => .still st (.refused (.script e))

def exportSql (st : Store Float σ) (dialect : Option String) : Outcome σ :=
  match Ddl.exportText st.schema dialect with
  | .ok sql => .still st (.ofResult (.object [("success", .bool true), ("sql", .text sql)]))
  | .error e => .still st (.refused (.dialect e))

def layout (st : Store Float σ) : Outcome σ :=
  if st.schema.tables.isEmpty then .still st (.refused .noTables)
  else
    match st.schema.relayout with
    | .ok s => committed (st.commit s)
    | .error f => .still st (.crashed (.layout f))

def openPosition (st : Store Float σ) (centre : Position Float) : Outcome σ :=
  match st.schema.openPosition centre with
  | .ok p => .still st (.ofResult (.object [("success", .bool true), ("position", positionJson p)]))
  | .error c => .still st (.crashed (.placing c))

def junction (st : Store Float σ) (tableIdA tableIdB : String) : Outcome σ :=
  let (changed, st) := st.commitDrawn (st.schema.junction tableIdA tableIdB st.ids)
  .still st (stateReply changed [] st)

def batchReply (b : Store.BatchState Float σ) : Option BatchFault → Reply
  | none => stateReply true [("messages", Json.texts b.messages)] b.store
  | some (.placing c) => .crashed (.placing c)
  | some (.layout f) => .crashed (.layout f)

def runActions (st : Store Float σ) (requests : List ActionRequest) (centre : Position Float) : Outcome σ :=
  let (b, fault) := st.runBatch centre requests
  ⟨batchReply b fault, b.warnings, b.store⟩

/-- the document of the store -/
def exportJson (st : Store Float σ) : Outcome σ :=
  match encode st.schema with
  | .ok text => .still st (.ofResult (.object [("success", .bool true), ("json", .text text)]))
  | .error c => .still st (.crashed (.overlong c))

/-- carry out a task with what a request gives for it, and with what reads the scripts of requests -/
def perform (readScript : Ddl.Reader) (st : Store Float σ) (r : Request) : Task → Outcome σ
  | .health =>
    .still st (.ofResult (.object [("status", .text "ok"), ("tables", .int st.schema.tables.length)]))
  | .showSchema => .still st (.ofResult (.object (stateMembers st)))
  | .replaceSchema => readingBody st r readObject (replaceSchema st)
  | .resetSchema => committed st.reset
  | .validate =>
    let issues := st.schema.issues
    .still st (.ofResult (.object [("success", .bool true), ("issues", issuesJson issues),
      ("summary", summaryJson (.ofIssues issues))]))
  | .undo => reading st (querySteps r.query) fun n => movedBy (st.undo n)
  | .redo => reading st (querySteps r.query) fun n => movedBy (st.redo n)
  | .importSql => readingBody st r readScriptRequest fun (sql, dialect) => importSql readScript st sql dialect
  | .exportSql => exportSql st (parameter? r.query "dialect")
  | .exportJson => exportJson st
  | .layout => layout st
  | .openPosition => readingBody st r (readPosition .request) (openPosition st)
  | .junction => readingBody st r readTablePair fun (a, b) => junction st a b
  | .actions => readingBody st r readBatch fun (requests, centre) => runActions st requests centre

/-- the answer to a request -/
def handle (readScript : Ddl.Reader) (st : Store Float σ) (r : Request) : Outcome σ :=
  match destination r.method r.path with
  | .task t => perform readScript st r t
  | .wrongMethod => .still st .wrongMethod
  | .elsewhere path => .still st (.moved path)
  | .nowhere => .still st .notFound

end Crowfoot.Server
