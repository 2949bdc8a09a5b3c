import Crowfoot.Decimal.Reading
import Crowfoot.Text.Basic

/-
Settings of the program, taken from environment variables. A number that is blank counts as not given; one that is no
integer is refused.
-/

namespace Crowfoot

structure Settings where
  host : String
  port : Int
  maxHistory : Int
  /-- where pages that may use the server come from -/
  origins : List String
  deriving DecidableEq, Repr

/-- a variable that must hold an integer and holds something else -/
structure NotAnInteger where
  setting : String
  value : String
  deriving DecidableEq, Repr

def NotAnInteger.message (e : NotAnInteger) : String :=
  e.setting ++ " must be an integer, got " ++ Text.quoted e.value

namespace Settings

def default : Settings :=
  ⟨"127.0.0.1", 8765, 100, ["http://localhost:5173", "http://localhost:3000", "http://127.0.0.1:5173"]⟩

/-- the items of a list written with commas, trimmed; blank ones are left out -/
def listItems (s : String) : List String :=
  ((s.toList.splitOnP (· == ',')).map fun cs => Text.trim (String.ofList cs)).filter (· ≠ "")

/-- an integer from a variable, or the default when the variable is absent or blank -/
def integer (env : List (String × String)) (name : String) (default : Int) : Except NotAnInteger Int :=
  match env.lookup name with
  | none => .ok default
  | some s =>
    if Text.isAllBlank s then .ok default
    else
      match Decimal.readInteger? s with
      | some n => .ok n
      | none => .error ⟨name, s⟩

/-- a text from a variable; an empty one counts as not given -/
def text? (env : List (String × String)) (name : String) : Option String :=
  (env.lookup name).filter (· ≠ "")

def load (env : List (String × String)) : Except NotAnInteger Settings := do
  let port ← integer env "ERMATE_PORT" default.port
  let maxHistory ← integer env "ERMATE_MAX_HISTORY" default.maxHistory
  return ⟨(text? env "ERMATE_HOST").getD default.host, port, maxHistory,
    ((text? env "ERMATE_CORS_ORIGINS").map listItems).getD default.origins⟩

end Settings

end Crowfoot
