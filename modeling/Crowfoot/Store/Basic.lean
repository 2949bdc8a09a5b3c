import Crowfoot.Document.Interchange
import Crowfoot.Files.Tree
import Crowfoot.Schema.Ids

/-
The one place that holds the current schema. Every change goes through `commit`, which keeps the history, tells the
listeners, and makes sure that no id of a schema ever held is handed out again. The history is a timeline: the values
before the present one, latest first, and those that were taken back, next first; together they are a line of values with
one of them marked.
-/

namespace Crowfoot

/-! ## Timelines -/

structure Timeline (α : Type) where
  past : List α
  present : α
  future : List α
  deriving DecidableEq, Repr

namespace Timeline

variable {α : Type}

/-- a line of one value -/
def start (x : α) : Timeline α := ⟨[], x, []⟩

/-- the values in order -/
def toList (t : Timeline α) : List α := t.past.reverse ++ t.present :: t.future

/-- a new value after the present one, in place of the future; no more than `limit` values are kept before it -/
def push (limit : Nat) (x : α) (t : Timeline α) : Timeline α := ⟨(t.present :: t.past).take limit, x, []⟩

/-- one value back; at the first one nothing moves -/
def back (t : Timeline α) : Timeline α :=
  match t.past with
  | [] => t
  | x :: rest => ⟨rest, x, t.present :: t.future⟩

/-- one value forward; at the last one nothing moves -/
def forward (t : Timeline α) : Timeline α :=
  match t.future with
  | [] => t
  | x :: rest => ⟨t.present :: t.past, x, rest⟩

def backBy : Nat → Timeline α → Timeline α
  | 0, t => t
  | n + 1, t => backBy n t.back

def forwardBy : Nat → Timeline α → Timeline α
  | 0, t => t
  | n + 1, t => forwardBy n t.forward

end Timeline

/-! ## Stores -/

structure Store (κ σ : Type) where
  timeline : Timeline (Schema κ)
  /-- how many steps can be taken back -/
  maxHistory : Nat
  ids : σ
  /-- whether there are changes that are in no file -/
  dirty : Bool
  filePath : Option Path
  /-- the schemas that listeners were told of, latest first -/
  announced : List (Schema κ)
  deriving DecidableEq, Repr

namespace Store

variable {κ σ : Type} [Coordinate κ] [IdSupply σ]

/-- a store that starts with a schema, whose ids are known from then on -/
def ofSchema (s : Schema κ) (maxHistory : Nat) (ids : σ) : Store κ σ :=
  ⟨.start s, maxHistory, IdSupply.reserve s.allIds ids, false, none, []⟩

def schema (st : Store κ σ) : Schema κ := st.timeline.present

def canUndo (st : Store κ σ) : Bool := !st.timeline.past.isEmpty

def canRedo (st : Store κ σ) : Bool := !st.timeline.future.isEmpty

/-- tell the listeners of the current schema -/
def announce (st : Store κ σ) : Store κ σ := { st with announced := st.schema :: st.announced }

/-- make a schema the current one; one that is the same changes nothing -/
def commit (st : Store κ σ) (s : Schema κ) : Bool × Store κ σ :=
  if s.same st.schema then (false, st)
  else
    (true, { st with
      timeline := st.timeline.push st.maxHistory s
      ids := IdSupply.reserve s.allIds st.ids
      dirty := true }.announce)

/-- commit a schema that was made with ids from the store -/
def commitDrawn (st : Store κ σ) (r : Schema κ × σ) : Bool × Store κ σ := { st with ids := r.2 }.commit r.1

def reset (st : Store κ σ) : Bool × Store κ σ := st.commit Schema.empty

/-- a move along the history of so many steps -/
def moved (st : Store κ σ) (steps : Nat) (t : Timeline (Schema κ)) : Nat × Store κ σ :=
  if steps = 0 then (0, st) else (steps, { st with timeline := t, dirty := true }.announce)

/-- take back as many steps as wanted, or as there are -/
def undo (st : Store κ σ) (steps : Int) : Nat × Store κ σ :=
  let n := min steps.toNat st.timeline.past.length
  st.moved n (st.timeline.backBy n)

/-- repeat steps that were taken back -/
def redo (st : Store κ σ) (steps : Int) : Nat × Store κ σ :=
  let n := min steps.toNat st.timeline.future.length
  st.moved n (st.timeline.forwardBy n)

/-- take over a schema from a file; the history ends here -/
def opened (st : Store κ σ) (path : Path) (s : Schema κ) : Store κ σ :=
  { st with
    timeline := .start s
    ids := IdSupply.reserve s.allIds st.ids
    dirty := false
    filePath := some path }.announce

/-- the schema is in a file now -/
def saved (st : Store κ σ) (path : Path) : Store κ σ := { st with dirty := false, filePath := some path }

/-! ## Files -/

/-- why a file is not taken over -/
inductive OpenError where
  | missing (path : Path)
  | unreadable (fault : ReadFault)
  | malformed (error : Document.FormatError)
  deriving DecidableEq, Repr

/-- why a schema is not saved -/
inductive SaveError where
  /-- neither a path is given nor has the store one -/
  | noPath
  | unwritable (fault : FileFault)
  /-- the schema has no text -/
  | overlong (cause : Decimal.Overlong)
  deriving DecidableEq, Repr

def OpenError.message : OpenError → String
  | missing p => "Schema file not found: " ++ p.text
  | unreadable f => f.message
  | malformed e => e.message

def SaveError.message : SaveError → String
  | noPath => "No file path specified and no current file path"
  | unwritable f => f.message
  | overlong c => c.message

/-- take over the schema of a file -/
def openFile (st : Store Float σ) (fs : Files) (path : Path) : Except OpenError (Store Float σ) := do
  if !fs.contains path then throw (.missing path)
  let text ← (fs.read path).mapError OpenError.unreadable
  let s ← (Document.decode (unifiedLines text)).mapError OpenError.malformed
  return st.opened path s

/-- write the schema to a path, or to the file it came from; directories are made as needed. The files are given back in
either case, since a schema without a text leaves the beginning of one -/
def saveFile (st : Store Float σ) (fs : Files) (path : Option Path) : Except SaveError (Store Float σ × Path) × Files :=
  match path.or st.filePath with
  | none => (.error .noPath, fs)
  | some p =>
    let (content, outcome) := match Document.encode st.schema with
      | .ok text => (text, .ok (st.saved p, p))
      | .error c => (Document.unfinished, .error (.overlong c))
    match fs.writeDeep p content with
    | .ok fs => (outcome, fs)
    | .error f => (.error (.unwritable f), fs)

end Store

end Crowfoot
