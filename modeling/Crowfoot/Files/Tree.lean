import Crowfoot.Files.Path

/-
A tree of files as a value: what stands at each place, and the directory that relative paths start from.
-/

namespace Crowfoot

/-- what a file holds -/
inductive Content where
  | text (text : String)
  /-- bytes that do not spell a text -/
  | bytes
  deriving DecidableEq, Repr

def Content.read : Content → Except ReadFault String
  | text s => .ok s
  | bytes => .error .notText

inductive FileNode where
  | directory
  | file (content : Content)
  deriving DecidableEq, Repr

/-- the names from the root of the tree down to a file -/
abbrev Location := List String

structure Files where
  working : Location
  nodes : List (Location × FileNode)
  deriving DecidableEq, Repr

namespace Files

/-- a tree with nothing but an empty working directory -/
def empty : Files := ⟨["work"], [(["work"], .directory)]⟩

def node? (fs : Files) (l : Location) : Option FileNode := if l = [] then some .directory else fs.nodes.lookup l

/-- the tree with another node at a place -/
def setNode (fs : Files) (l : Location) (n : FileNode) : Files :=
  { fs with nodes := (l, n) :: fs.nodes.filter (·.1 ≠ l) }

/-- where names lead from a directory; every place on the way must be a directory -/
def walk (fs : Files) : Location → List String → Except FileProblem Location
  | l, [] => .ok l
  | l, n :: rest =>
    match fs.node? l with
    | none => .error .notFound
    | some (.file _) => .error .notDirectory
    | some .directory => walk fs (if n = ".." then l.dropLast else l ++ [n]) rest

def locate (fs : Files) (p : Path) : Except FileFault Location :=
  (walk fs (if p.root = "" then fs.working else []) p.names).mapError fun e => ⟨e, p⟩

/-- whether there is a file or a directory at a path -/
def contains (fs : Files) (p : Path) : Bool :=
  match fs.locate p with
  | .ok l => (fs.node? l).isSome
  | .error _ => false

/-- the text of a file as it is stored -/
def read (fs : Files) (p : Path) : Except ReadFault String := do
  match fs.node? (← (fs.locate p).mapError ReadFault.file) with
  | none => .error (.file ⟨.notFound, p⟩)
  | some .directory => .error (.file ⟨.isDirectory, p⟩)
  | some (.file content) => content.read

/-- write a file; its directory must be there -/
def write (fs : Files) (p : Path) (text : String) : Except FileFault Files := do
  let l ← fs.locate p
  match fs.node? l with
  | some .directory => .error ⟨.isDirectory, p⟩
  | some (.file _) => return fs.setNode l (.file (.text text))
  | none =>
    if fs.node? l.dropLast = some .directory then return fs.setNode l (.file (.text text)) else .error ⟨.notFound, p⟩

/-- make one directory; one that is there already is left alone -/
def makeDirectory (fs : Files) (p : Path) : Except FileFault Files := do
  let l ← fs.locate p
  match fs.node? l with
  | some .directory => return fs
  | some (.file _) => .error ⟨.alreadyThere, p⟩
  | none =>
    if fs.node? l.dropLast = some .directory then return fs.setNode l .directory else .error ⟨.notFound, p⟩

/-- make a directory and those above it that are missing; `depth` is the number of its names -/
def makeDirectoriesTo (fs : Files) (p : Path) : Nat → Except FileFault Files
  | 0 => makeDirectory fs p
  | depth + 1 =>
    match makeDirectory fs p with
    | .ok fs => .ok fs
    | .error ⟨.notFound, _⟩ => do
      let fs ← makeDirectoriesTo fs p.parent depth
      makeDirectory fs p
    | .error e => .error e

def makeDirectories (fs : Files) (p : Path) : Except FileFault Files := fs.makeDirectoriesTo p p.names.length

/-- write a file after its directories have been made -/
def writeDeep (fs : Files) (p : Path) (text : String) : Except FileFault Files := do
  let fs ← fs.makeDirectories p.parent
  fs.write p text

/-- the texts in files below the working directory, by their paths from there -/
def texts (fs : Files) : List (String × String) :=
  fs.nodes.filterMap fun (l, n) => match n with
    | .file (.text text) =>
      if fs.working.isPrefixOf l then some ("/".intercalate (l.drop fs.working.length), text) else none
    | _ => none

end Files

/-- a text as it is read from a file: every line ends with a line feed -/
def unifiedLines (s : String) : String :=
  let rec go : List Char → List Char
    | [] => []
    | '\r' :: '\n' :: rest => '\n' :: go rest
    | '\r' :: rest => '\n' :: go rest
    | c :: rest => c :: go rest
  String.ofList (go s.toList)

end Crowfoot
