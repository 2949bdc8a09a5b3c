/-
The paths that the server answers under, each with the one method that goes with a task.
-/

namespace Crowfoot.Server

/-- what the server can be asked to do -/
inductive Task where
  | health
  | showSchema
  | replaceSchema
  | resetSchema
  | validate
  | undo
  | redo
  | importSql
  | exportSql
  | exportJson
  | layout
  | openPosition
  | junction
  | actions
  deriving DecidableEq, Repr

structure Route where
  method : String
  path : String
  task : Task
  deriving DecidableEq, Repr

def routes : List Route :=
  [⟨"GET", "/api/health", .health⟩, ⟨"GET", "/api/schema", .showSchema⟩, ⟨"PUT", "/api/schema", .replaceSchema⟩,
    ⟨"POST", "/api/schema/reset", .resetSchema⟩, ⟨"GET", "/api/schema/validate", .validate⟩,
    ⟨"POST", "/api/undo", .undo⟩, ⟨"POST", "/api/redo", .redo⟩, ⟨"POST", "/api/import/sql", .importSql⟩,
    ⟨"GET", "/api/export/sql", .exportSql⟩, ⟨"GET", "/api/export/json", .exportJson⟩,
    ⟨"POST", "/api/layout", .layout⟩, ⟨"POST", "/api/layout/open-position", .openPosition⟩,
    ⟨"POST", "/api/junction", .junction⟩, ⟨"POST", "/api/actions", .actions⟩]

/-- where a method and a path lead -/
inductive Destination where
  | task (t : Task)
  | wrongMethod
  /-- the path is known but for slashes at its end -/
  | elsewhere (path : String)
  | nowhere
  deriving DecidableEq, Repr

/-- whether some route has a path -/
def isKnown (path : String) : Bool := routes.any (·.path = path)

/-- the path without slashes at its end, or with one if it had none -/
def otherEnding (path : String) : String :=
  let cs := path.toList
  if cs.getLast? = some '/' then String.ofList (cs.reverse.dropWhile (· = '/')).reverse
  else String.ofList (cs ++ ['/'])

/-- the methods of a path are told apart by letter case, and no method stands for another -/
def destination (method path : String) : Destination :=
  match routes.find? fun r => r.path = path && r.method = method with
  | some r => .task r.task
  | none =>
    if isKnown path then .wrongMethod
    else if path ≠ "/" && isKnown (otherEnding path) then .elsewhere (otherEnding path)
    else .nowhere

end Crowfoot.Server
