import Crowfoot.Command.Execution

/-
The program on the files of the system, with the environment and the arguments that it finds there.
-/

namespace Crowfoot.Program

open Command

/-- the environment variables that settings are taken from -/
def variableNames : List String := ["ERMATE_HOST", "ERMATE_PORT", "ERMATE_MAX_HISTORY", "ERMATE_CORS_ORIGINS"]

def environment : IO (List (String × String)) := do
  let values ← variableNames.mapM fun n => return (← IO.getEnv n).map (n, ·)
  return values.reduceOption

/-- the problem that an error of the system stands for -/
def problemOf : IO.Error → FileProblem
  | .alreadyExists .. => .alreadyThere
  | .inappropriateType .. => .isDirectory
  | .noSuchThing .. | .noFileOrDirectory .. => .notFound
  | _ => .notDirectory

/-- the program on the files of the system -/
abbrev SystemM := ExceptT Ending IO

/-- why a file could not be read; bytes that are no text are told of by an error without a number -/
def readFaultOf (path : Path) : IO.Error → ReadFault
  | .userError _ => .notText
  | e => .file ⟨problemOf e, path⟩

/-- an action of the system, with its errors as failures of the command -/
def trying {α : Type} (failure : IO.Error → Failure) (action : IO α) : SystemM α := ExceptT.mk do
  try return .ok (← action)
  catch e => return .error (.failed (failure e))

instance : Host SystemM where
  readText
    | .standardInput => trying (fun e => .unreadable (readFaultOf (Path.ofText "-") e)) do (← IO.getStdin).readToEnd
    | .file path =>
      let path := Path.ofText path
      unifiedLines <$> trying (fun e => .unreadable (readFaultOf path e)) (IO.FS.readFile path.text)
  writeText path content :=
    let path := Path.ofText path
    trying (fun e => .unwritable ⟨problemOf e, path⟩) (IO.FS.writeFile path.text content)
  print report :=
    match report.compact with
    | .ok text => IO.println text
    | .error c => throw (Ending.failed (.overlong c))

/-- say what was not said in a report -/
def comment : Ending → IO Unit
  | .stopped _ => IO.eprintln "usage: ermate [-h] [-v] COMMAND ..."
  | .finished _ _ => return ()
  | .failed f => if f.isReported then return () else IO.eprintln f.message
  | .returned => IO.eprintln "Serving is left to a host that carries requests to the server's handler."

def run (args : List String) : IO UInt32 := do
  let start ← IO.rand 0 0xffffff
  let act : SystemM Unit := program Ddl.readStatements (← environment) args (IdSource.stamping ⟨start⟩)
  let ending := match ← act.run with
    | .ok () => Ending.returned
    | .error e => e
  comment ending
  return match ending with
    | .returned => 1
    | e => (e.code?.getD 1).toUInt32

end Crowfoot.Program

def main (args : List String) : IO UInt32 := Crowfoot.Program.run args
