import Crowfoot.Document.Reading
import Crowfoot.Decimal.Reading
import Crowfoot.Decimal.Shortest
import Crowfoot.Schema.Edit
import Crowfoot.Text.Basic

/-
Plain values of documents. Numbers may also be written as text or as truth values; names of kinds must be exact.
-/

namespace Crowfoot.Document

def readText : Json → Reading String
  | .text s => .ok s
  | _ => Reading.flaw .stringType

/-- a text without its underscores, which stand neither at an end nor beside each other -/
def withoutUnderscores? (cs : List Char) : Option (List Char) :=
  let parts := cs.splitOnP (· == '_')
  if parts.any List.isEmpty then none else some parts.flatten

/-- an integer as a floating point number, when it is not too large for one -/
def floatOfInt? (n : Int) : Option Float :=
  let x := Decimal.nearest (n < 0) n.natAbs 0
  if x.isInf then none else some x

def floatOfText? (s : String) : Option Float :=
  let cs := Text.stripBoth Text.isSpacing s.toList
  match Decimal.readFloat? cs with
  | some x => some x
  | none => (withoutUnderscores? cs).bind Decimal.readFloat?

def readFloat : Json → Reading Float
  | .float x => .ok x
  | .int n =>
    match floatOfInt? n with
    | some x => .ok x
    | none => Reading.flaw .floatType
  | .bool b => .ok (if b then 1 else 0)
  | .text s =>
    match floatOfText? s with
    | some x => .ok x
    | none => Reading.flaw .floatParsing
  | _ => Reading.flaw .floatType

/-- zeros after a decimal point say nothing -/
def dropZeroPlaces (cs : List Char) : List Char :=
  let places := cs.dropWhile (· ≠ '.')
  if (places.drop 1).all (· = '0') then cs.takeWhile (· ≠ '.') else cs

def intOfText? (s : String) : Option Int := do
  let cs ← withoutUnderscores? (dropZeroPlaces (Text.stripBoth Text.isSpacing s.toList))
  let (negative, ds) := Decimal.takeSign cs
  if ds.isEmpty || !ds.all Char.isDigit then none
  else
    let n : Int := Decimal.natOfDigits ds
    return if negative then -n else n

/-- an integral floating point number must fit into 64 bits -/
def intOfFloat (x : Float) : Reading Int :=
  match Decimal.Double.ofFloat x with
  | .finite negative m e =>
    let (p, q) := Decimal.Double.fraction m e
    if p % q ≠ 0 then Reading.flaw .intFromFloat
    else
      let n : Int := p / q
      if n < (Nat.pow 2 63 : Nat) then .ok (if negative then -n else n) else Reading.flaw .intParsingSize
  | _ => Reading.flaw .finiteNumber

def readInt : Json → Reading Int
  | .int n => .ok n
  | .bool b => .ok (if b then 1 else 0)
  | .float x => intOfFloat x
  | .text s =>
    if Decimal.digitLimit < s.length then Reading.flaw .intParsingSize
    else
      match intOfText? s with
      | some n => .ok n
      | none => Reading.flaw .intParsing
  | _ => Reading.flaw .intType

/-- an integer within bounds -/
def readBounded (low high : Int) (v : Json) : Reading Int := do
  let n ← readInt v
  if n < low then Reading.flaw .greaterThanEqual
  else if high < n then Reading.flaw .lessThanEqual
  else return n

/-- a value of a kind by its exact name -/
def readNamed {α : Type} (ofName? : String → Option α) : Json → Reading α
  | .text s =>
    match ofName? s with
    | some x => .ok x
    | none => Reading.flaw .enum
  | _ => Reading.flaw .enum

def readColumnType : Json → Reading ColumnType := readNamed ColumnType.ofName?

def readConstraint : Json → Reading Constraint := readNamed Constraint.ofName?

def readCardinality : Json → Reading Cardinality := readNamed Cardinality.ofName?

/-- a cardinality by its name, or by its short form in any letter case -/
def cardinalityOfText? (s : String) : Option Cardinality :=
  match Cardinality.ofShortForm? (Text.upper s) with
  | some c => some c
  | none => Cardinality.ofName? s

def readCardinalityOrShort : Json → Reading Cardinality := readNamed cardinalityOfText?

/-! ## Constraints -/

/-- the values that a list of constraints is made of: a text stands for itself alone, an object for its names -/
def constraintItems : Json → Except Uniterable (List Json)
  | .null => .ok []
  | .text s => .ok [.text s]
  | .array vs => .ok vs
  | .object ms => .ok (ms.map fun m => .text m.1)
  | .bool _ => .error .bool
  | .int _ => .error .int
  | .float _ => .error .float

/-- a constraint by its name, or the value that is none -/
def constraintOf (v : Json) : Except Json Constraint :=
  match v with
  | .text s =>
    match Constraint.ofName? s with
    | some c => .ok c
    | none => .error v
  | _ => .error v

/-- the constraints of a list, each once, or the first value that is none -/
def constraintsOf (vs : List Json) : Except Json (List Constraint) := (vs.mapM constraintOf).map distinctConstraints

def readConstraints (v : Json) : Reading (List Constraint) :=
  match constraintItems v with
  | .error u => .error (.notIterable u)
  | .ok vs =>
    match constraintsOf vs with
    | .ok cs => .ok cs
    | .error _ => Reading.flaw .valueError

end Crowfoot.Document
