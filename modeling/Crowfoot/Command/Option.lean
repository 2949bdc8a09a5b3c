import Crowfoot.Text.Basic

/-
Options on a command line. Long ones may be cut short as long as one option is meant, and a value may follow after an
equals sign. What an argument is depends on its spelling alone; everything after two dashes is plain.
-/

namespace Crowfoot.Command

/-- why there is nothing to carry out -/
inductive Stop where
  /-- the arguments make no sense -/
  | usage
  /-- help is asked for -/
  | help
  deriving DecidableEq, Repr

/-- what an argument is -/
inductive Argument where
  | plain (text : String)
  /-- a known option by its full name, and the value after an equals sign -/
  | option (name : String) (value : Option String)
  /-- a known option of one letter, and what follows the letter at once -/
  | letters (name : String) (more : List Char)
  | unknown
  | separator
  deriving DecidableEq, Repr

/-- the part in front of the first equals sign, and the part after it -/
def splitEquals (s : String) : String × Option String :=
  let cs := s.toList
  let before := cs.takeWhile (· ≠ '=')
  match cs.dropWhile (· ≠ '=') with
  | [] => (s, none)
  | _ :: after => (String.ofList before, some (String.ofList after))

/-- the options that a spelling may mean -/
def candidates (names : List String) (s : String) : List Argument :=
  if "--".isPrefixOf s then
    let (start, value) := splitEquals s
    (names.filter start.isPrefixOf).map fun n => .option n value
  else
    let cs := s.toList
    names.filterMap fun n =>
      if n = String.ofList (cs.take 2) then some (.letters n (cs.drop 2))
      else if s.isPrefixOf n then some (.option n none)
      else none

/-- a decimal digit of any script -/
def isDecimal (c : Char) : Bool := (Text.digitValue? c).isSome

/-- the text without one line break at its end -/
def withoutLineBreak (cs : List Char) : List Char := if cs.getLast? = some '\n' then cs.dropLast else cs

/-- a minus sign and digits, with a decimal point if wanted -/
def isNegativeNumber (cs : List Char) : Bool :=
  match withoutLineBreak cs with
  | '-' :: rest =>
    match rest.dropWhile isDecimal with
    | [] => !rest.isEmpty
    | '.' :: places => !places.isEmpty && places.all isDecimal
    | _ => false
  | _ => false

/-- what an argument is, or a refusal when it may mean several options -/
def classify (names : List String) (s : String) : Except Stop Argument :=
  let (start, value) := splitEquals s
  if s = "--" then .ok .separator
  else if !"-".isPrefixOf s || s = "-" then .ok (.plain s)
  else if names.contains s then .ok (.option s none)
  else if value.isSome && names.contains start then .ok (.option start value)
  else
    match candidates names s with
    | [a] => .ok a
    | _ :: _ :: _ => .error .usage
    | [] => .ok (if isNegativeNumber s.toList || s.toList.contains ' ' then .plain s else .unknown)

/-- all arguments; those after two dashes are plain -/
def classifyAll (names : List String) : List String → Except Stop (List Argument)
  | [] => .ok []
  | s :: rest => do
    match ← classify names s with
    | .separator => return .separator :: rest.map .plain
    | a => return a :: (← classifyAll names rest)

/-- the flags that letters stand for up to the first one that is no option, and whether there is such a one; neither a
dash nor an equals sign may follow a flag -/
def spelledFlags (names : List String) : List Char → Except Stop (List String × Bool)
  | [] => .ok ([], false)
  | c :: rest => do
    let name := String.ofList ['-', c]
    if c = '-' || c = '=' then throw .usage
    else if names.contains name then
      let (flags, stray) ← spelledFlags names rest
      return (name :: flags, stray)
    else return ([], true)

/-- the flags that an argument turns on, and whether letters are left over; a flag has no value -/
def Argument.flags (names : List String) : Argument → Except Stop (List String × Bool)
  | option name none => .ok ([name], false)
  | letters name more => do
    let (flags, stray) ← spelledFlags names more
    return (name :: flags, stray)
  | _ => .error .usage

end Crowfoot.Command
