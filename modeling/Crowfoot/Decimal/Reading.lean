import Crowfoot.Decimal.Shortest
import Crowfoot.Text.Basic

/-
Reading numbers: a decimal numeral becomes the nearest floating point number, and an integer keeps all its digits, of
which there may be so many and no more.
-/

namespace Crowfoot.Decimal

/-! ## The digits of an integer -/

/-- the digits that an integer may have where it is read or written; with more of them that fails -/
def digitLimit : Nat := 4300

/-- whether an integer has few enough digits -/
def isWritable (n : Int) : Bool := (Nat.toDigits 10 n.natAbs).length ≤ digitLimit

/-- an integer with too many digits, in a text or on its way there -/
inductive Overlong where
  /-- a text has so many digits -/
  | read (digits : Nat)
  | written
  deriving DecidableEq, Repr

def Overlong.message : Overlong → String
  | read digits =>
    "An integer has " ++ toString digits ++ " digits, and may have " ++ toString digitLimit
  | written => "An integer that is to be written has more than " ++ toString digitLimit ++ " digits"

/-! ## Numerals -/

/-- the number that a string of decimal digits stands for -/
def natOfDigits (ds : List Char) : Nat := ds.foldl (fun n c => 10 * n + (c.toNat - 48)) 0

/-- the nearest floating point number; what is too large is infinite, what is too small is zero -/
def nearest (negative : Bool) (digits : Nat) (exponent : Int) : Float :=
  let size := digitCount digits + exponent
  let x : Float :=
    if digits = 0 ∨ size < -400 then 0
    else if 400 < size then 1 / 0
    else Float.ofScientific digits (exponent < 0) exponent.natAbs
  if negative then -x else x

/-- an optional sign in front of the rest -/
def takeSign : List Char → Bool × List Char
  | '-' :: rest => (true, rest)
  | '+' :: rest => (false, rest)
  | rest => (false, rest)

/-- a mantissa with an optional point and an optional exponent, nothing else -/
def readUnsigned? (negative : Bool) (cs : List Char) : Option Float :=
  let whole := cs.takeWhile Char.isDigit
  let afterWhole := cs.dropWhile Char.isDigit
  let (places, afterPoint) := match afterWhole with
    | '.' :: rest => (rest.takeWhile Char.isDigit, rest.dropWhile Char.isDigit)
    | rest => ([], rest)
  if whole.isEmpty && places.isEmpty then none
  else
    let digits := natOfDigits (whole ++ places)
    match afterPoint with
    | [] => some (nearest negative digits (-(places.length : Int)))
    | c :: rest =>
      if c = 'e' || c = 'E' then
        let (down, ds) := takeSign rest
        if ds.isEmpty || !ds.all Char.isDigit then none
        else
          let e : Int := natOfDigits ds
          some (nearest negative digits ((if down then -e else e) - places.length))
      else none

/-- a signed numeral, or one of the names of the values that are not finite in any letter case -/
def readFloat? (cs : List Char) : Option Float :=
  let (negative, body) := takeSign cs
  let word := String.ofList (body.map Char.toLower)
  if word = "inf" ∨ word = "infinity" then some (if negative then -(1 / 0) else 1 / 0)
  else if word = "nan" then some (0 / 0)
  else readUnsigned? negative body

/-- the text without the underscores between digits; none if one stands anywhere else -/
def dropUnderscores? (cs : List Char) : Option (List Char) :=
  let rec go : Bool → List Char → Option (List Char)
    | _, [] => some []
    | afterDigit, '_' :: rest =>
      match rest with
      | c :: _ => if afterDigit && c.isDigit then go false rest else none
      | [] => none
    | _, c :: rest => (go c.isDigit rest).map (c :: ·)
  go false cs

/-- decimal digits, with single underscores between them allowed -/
def readDigits? (cs : List Char) : Option Nat :=
  match dropUnderscores? cs with
  | some ds => if ds.isEmpty || !ds.all Char.isDigit then none else some (natOfDigits ds)
  | none => none

/-- a signed integer -/
def readSigned? (cs : List Char) : Option Int :=
  let (negative, body) := takeSign cs
  (readDigits? body).map fun n => if negative then -n else n

/-- a character of an integer numeral in its plain form: white space and digits of any script become ASCII -/
def plainChar (c : Char) : Char :=
  if c.toNat < 127 then c
  else if Text.isBlank c then ' '
  else match Text.digitValue? c with
    | some d => Char.ofNat (48 + d)
    | none => c

/-- an integer numeral in the digits of any script, with spaces around it, unless it has too many -/
def readInteger? (s : String) : Option Int :=
  let body := Text.stripBoth Text.isSpacing (s.toList.map plainChar)
  if digitLimit < body.countP Char.isDigit then none else readSigned? body

end Crowfoot.Decimal
