import Crowfoot.Decimal.Reading
import Crowfoot.Schema.Basic

/-
Sources of fresh ids. An id is a letter for the kind of entity, an underscore and something that makes it new. A
counting source numbers its ids and steps over every id it knows; a stamping source spreads one number over twelve
hexadecimal digits and knows nothing.

A number is written into an id only if it has few enough digits. Edits draw from `newId`, which has an id for every
number; `newId?` is the same up to the first number that cannot be written, and fails there.
-/

namespace Crowfoot

/-- anything that hands out ids one after another -/
class IdSupply (σ : Type) where
  newId : String → σ → String × σ
  /-- never hand out any of these -/
  reserve : List String → σ → σ

/-- the letters in front of ids -/
def tableLetter : String := "t"

def columnLetter : String := "c"

def relationshipLetter : String := "r"

/-! ## Counting -/

/-- a counter shared by all letters, with the ids it must not hand out -/
structure Counting where
  session : String
  counter : Int
  taken : List String
  deriving DecidableEq, Repr

namespace Counting

/-- the id with number `n` -/
def idOf (session letter : String) (n : Int) : String :=
  if session = "" then letter ++ "_" ++ toString n else letter ++ "_" ++ session ++ "_" ++ toString n

/-- the first number after `n` whose id is not taken; `tries` bounds how many are looked at -/
def search (session letter : String) (taken : List String) : Nat → Int → Int
  | 0, n => n + 1
  | tries + 1, n =>
    if taken.contains (idOf session letter (n + 1)) then search session letter taken tries (n + 1) else n + 1

/-- one try more than there are taken ids always suffices -/
def newId (letter : String) (s : Counting) : String × Counting :=
  let n := search s.session letter s.taken s.taken.length s.counter
  let id := idOf s.session letter n
  (id, { s with counter := n, taken := id :: s.taken })

/-- the id with number `n`, if the number can be written -/
def candidate (session letter : String) (n : Int) : Except Decimal.Overlong String :=
  if Decimal.isWritable n then .ok (idOf session letter n) else .error .written

/-- whether the next number is passed over -/
def passesOver (letter : String) (s : Counting) : Bool :=
  match candidate s.session letter (s.counter + 1) with
  | .ok id => s.taken.contains id
  | .error _ => false

/-- go on to the next number and hand out its id -/
def handOut (letter : String) (s : Counting) : Except Decimal.Overlong String × Counting :=
  let n := s.counter + 1
  match candidate s.session letter n with
  | .ok id => (.ok id, { s with counter := n, taken := id :: s.taken })
  | .error e => (.error e, { s with counter := n })

/-- hand out the first id that is not taken; `tries` bounds how many are passed over -/
def handOutFree (letter : String) : Nat → Counting → Except Decimal.Overlong String × Counting
  | 0, s => handOut letter s
  | tries + 1, s =>
    if passesOver letter s then handOutFree letter tries { s with counter := s.counter + 1 } else handOut letter s

/-- the next id, unless a number on the way to it has too many digits -/
def newId? (letter : String) (s : Counting) : Except Decimal.Overlong String × Counting :=
  handOutFree letter s.taken.length s

def reserve (ids : List String) (s : Counting) : Counting :=
  { s with taken := ids.filter (fun id => !s.taken.contains id) ++ s.taken }

instance : IdSupply Counting := ⟨newId, reserve⟩

end Counting

/-! ## Stamping -/

/-- a source that has used up so many numbers -/
structure Stamping where
  drawn : Nat
  deriving DecidableEq, Repr

namespace Stamping

/-- six hexadecimal digits, or more for a number that needs them -/
def digits (n : Nat) : String := String.ofList (Text.hex 6 n)

def newId (letter : String) (s : Stamping) : String × Stamping :=
  let n := s.drawn + 1
  (letter ++ "_" ++ String.ofList ((digits n ++ digits n).toList.take 12), ⟨n⟩)

instance : IdSupply Stamping := ⟨newId, fun _ s => s⟩

end Stamping

/-! ## Either -/

/-- a source of one of the two kinds -/
inductive IdSource where
  | counting (source : Counting)
  | stamping (source : Stamping)
  deriving DecidableEq, Repr

namespace IdSource

def newId (letter : String) : IdSource → String × IdSource
  | counting s => let (id, s) := s.newId letter; (id, counting s)
  | stamping s => let (id, s) := s.newId letter; (id, stamping s)

def newId? (letter : String) : IdSource → Except Decimal.Overlong String × IdSource
  | counting s => let (r, s) := s.newId? letter; (r, counting s)
  | stamping s => let (id, s) := s.newId letter; (.ok id, stamping s)

def reserve (ids : List String) : IdSource → IdSource
  | counting s => counting (s.reserve ids)
  | stamping s => stamping s

instance : IdSupply IdSource := ⟨newId, reserve⟩

end IdSource

end Crowfoot
