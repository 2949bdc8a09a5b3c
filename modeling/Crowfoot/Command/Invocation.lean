import Crowfoot.Command.Option
import Crowfoot.Ddl.Dialect
import Crowfoot.Settings

/-
The commands of the program and how they are called.
-/

namespace Crowfoot.Command

/-- where a text comes from -/
inductive Source where
  | standardInput
  | file (path : String)
  deriving DecidableEq, Repr

inductive Invocation where
  | importSql (source : Source) (dialect : Option Ddl.Dialect) (output : Option String)
  | exportSql (source : Source) (dialect : Option Ddl.Dialect) (output : Option String)
  | validate (source : Source)
  | layout (source : Source) (output : Option String)
  | junction (source : Source) (tableIdA tableIdB : String) (output : Option String)
  | serve (host : String) (port : Int)
  deriving DecidableEq, Repr

/-- a dash stands for the standard input -/
def Source.ofText (s : String) : Source := if s = "-" then standardInput else file s

/-! ## Commands and their options -/

/-- the options of the program itself, all of them flags -/
def programOptions : List String := ["-h", "--help", "-v", "--verbose"]

def isHelp (name : String) : Bool := name = "-h" || name = "--help"

/-- the options of a command that take a value, and which values they take -/
def commandOptions : String → Option (List (String × (String → Bool)))
  | "import-sql" | "export-sql" =>
    some [("--file", fun _ => true), ("--dialect", fun s => Ddl.Dialect.all.any (·.name = s)), ("--output", fun _ => true)]
  | "validate" => some [("--file", fun _ => true)]
  | "layout" => some [("--file", fun _ => true), ("--output", fun _ => true)]
  | "junction" =>
    some [("--file", fun _ => true), ("--table-a", fun _ => true), ("--table-b", fun _ => true),
      ("--output", fun _ => true)]
  | "serve" => some [("--host", fun _ => true), ("--port", fun s => (Decimal.readInteger? s).isSome)]
  | _ => none

/-- the values of the options in some arguments; the last of several values counts. What is no option is refused, but
not before help was asked for after it -/
def readOptions (options : List (String × (String → Bool))) (names : List String) :
    List Argument → List (String × String) → Bool → Except Stop (List (String × String))
  | [], values, stray => if stray then .error .usage else .ok values
  | .plain _ :: rest, values, _ => readOptions options names rest values true
  | .separator :: rest, values, _ => readOptions options names rest values true
  | .unknown :: rest, values, _ => readOptions options names rest values true
  | .letters name more :: _, _, _ => do
    let _ ← (Argument.letters name more).flags names
    .error .help
  | .option name value :: rest, values, stray => do
    match options.lookup name with
    | none =>
      let _ ← (Argument.option name value).flags names
      .error .help
    | some accepts =>
      match value, rest with
      | some v, rest => if accepts v then readOptions options names rest ((name, v) :: values) stray else .error .usage
      | none, .plain v :: rest =>
        if accepts v then readOptions options names rest ((name, v) :: values) stray else .error .usage
      | none, _ => .error .usage

/-- an invocation from a command and the values of its options -/
def invocationOf (settings : Settings) (command : String) (values : List (String × String)) : Option Invocation := do
  let output := (values.lookup "--output").filter (· ≠ "")
  let dialect := (values.lookup "--dialect").bind fun s => Ddl.Dialect.all.find? (·.name = s)
  if command = "serve" then
    let port := (values.lookup "--port").bind Decimal.readInteger?
    return .serve ((values.lookup "--host").getD settings.host) (port.getD settings.port)
  let source := Source.ofText (← values.lookup "--file")
  match command with
  | "import-sql" => return .importSql source dialect output
  | "export-sql" => return .exportSql source dialect output
  | "validate" => return .validate source
  | "layout" => return .layout source output
  | _ => return .junction source (← values.lookup "--table-a") (← values.lookup "--table-b") output

/-- the arguments after the name of a command -/
def parseCommand (settings : Settings) (command : String) (args : List String) : Except Stop Invocation := do
  match commandOptions command with
  | none => throw .usage
  | some options =>
    let names := "-h" :: "--help" :: options.map (·.1)
    let values ← readOptions options names (← classifyAll names args) [] false
    match invocationOf settings command values with
    | some i => return i
    | none => throw .usage

/-- the arguments of the program from the first one on; options in front of the command are the program's own -/
def parseFrom (settings : Settings) : List Argument → List String → Bool → Except Stop Invocation
  | .plain command :: _, _ :: rest, stray => do
    let i ← parseCommand settings command rest
    if stray then throw .usage else return i
  | .unknown :: more, _ :: rest, _ => parseFrom settings more rest true
  | a :: more, _ :: rest, stray => do
    let (flags, left) ← a.flags programOptions
    if flags.any isHelp then throw .help
    parseFrom settings more rest (stray || left)
  | _, _, _ => .error .usage

def parse (settings : Settings) (args : List String) : Except Stop Invocation := do
  parseFrom settings (← classifyAll programOptions args) args false

end Crowfoot.Command
