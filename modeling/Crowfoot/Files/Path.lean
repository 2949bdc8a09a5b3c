import Crowfoot.Text.Basic

/-
Paths of files: a root, which is empty for a relative path, and names below it. Empty names and single dots are
dropped when a path is read; two dots stay, since what they mean depends on the files.
-/

namespace Crowfoot

structure Path where
  root : String
  names : List String
  deriving DecidableEq, Repr

namespace Path

def ofText (s : String) : Path :=
  let cs := s.toList
  let slashes := (cs.takeWhile (· = '/')).length
  let root := if slashes = 0 then "" else if slashes = 2 then "//" else "/"
  ⟨root, ((cs.splitOnP (· == '/')).map String.ofList).filter fun n => n ≠ "" ∧ n ≠ "."⟩

/-- the path as text; a dot stands for no names at all -/
def text (p : Path) : String :=
  let s := p.root ++ "/".intercalate p.names
  if s = "" then "." else s

/-- the directory that a path lies in -/
def parent (p : Path) : Path := { p with names := p.names.dropLast }

end Path

/-! ## Failures -/

/-- why a file cannot be read or written -/
inductive FileProblem where
  | notFound
  | alreadyThere
  | notDirectory
  | isDirectory
  deriving DecidableEq, Repr

namespace FileProblem

/-- the number of a problem and what it is called -/
def code : FileProblem → Nat
  | notFound => 2
  | alreadyThere => 17
  | notDirectory => 20
  | isDirectory => 21

def description : FileProblem → String
  | notFound => "No such file or directory"
  | alreadyThere => "File exists"
  | notDirectory => "Not a directory"
  | isDirectory => "Is a directory"

end FileProblem

structure FileFault where
  problem : FileProblem
  path : Path
  deriving DecidableEq, Repr

def FileFault.message (f : FileFault) : String :=
  "[Errno " ++ toString f.problem.code ++ "] " ++ f.problem.description ++ ": " ++ Text.quoted f.path.text

/-- why there is no text to be read -/
inductive ReadFault where
  | file (fault : FileFault)
  /-- the bytes that are there do not spell a text -/
  | notText
  deriving DecidableEq, Repr

def ReadFault.message : ReadFault → String
  | file f => f.message
  | notText => "Not a text"

end Crowfoot
