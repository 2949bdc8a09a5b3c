/-
Floating point numbers as decimals. A number is taken apart into sign, mantissa and binary exponent, so that it can be
compared and printed in exact integer arithmetic. Its text is the shortest decimal that reads back: among the decimals
that round to it one with the fewest digits, and of those the nearest, always with a decimal point or an exponent.
-/

namespace Crowfoot.Decimal

/-- what a floating point number stands for; a finite one is `± mantissa · 2 ^ exponent` -/
inductive Double where
  | nan
  | infinite (negative : Bool)
  | finite (negative : Bool) (mantissa : Nat) (exponent : Int)
  deriving DecidableEq, Repr

namespace Double

def ofFloat (x : Float) : Double :=
  let bits := x.toBits.toNat
  let negative := decide (Nat.pow 2 63 ≤ bits)
  let biased : Nat := bits / Nat.pow 2 52 % 2048
  let fraction := bits % Nat.pow 2 52
  if biased = 2047 then (if fraction = 0 then infinite negative else nan)
  else if biased = 0 then finite negative fraction (-1074)
  else finite negative (fraction + Nat.pow 2 52) ((biased : Int) - 1075)

/-- the numerator and the denominator of `mantissa · 2 ^ exponent` -/
def fraction (mantissa : Nat) (exponent : Int) : Nat × Nat :=
  (mantissa * Nat.pow 2 exponent.toNat, Nat.pow 2 (-exponent).toNat)

/-- the largest integer that is not above a finite number -/
def floor? : Double → Option Int
  | finite negative m e =>
    let (p, q) := fraction m e
    some (Int.fdiv (if negative then -(p : Int) else p) q)
  | _ => none

/-- how an integer compares with a number; nothing compares with `nan` -/
def compareInt (n : Int) : Double → Option Ordering
  | nan => none
  | infinite negative => some (if negative then .gt else .lt)
  | finite negative m e =>
    let (p, q) := fraction m e
    some (compare (n * q) (if negative then -(p : Int) else p))

end Double

/-! ## The shortest decimal -/

/-- a decimal number `digits · 10 ^ exponent` -/
structure Scientific where
  digits : Nat
  exponent : Int
  deriving DecidableEq, Repr

/-- how many decimal digits a number has, none for zero -/
def digitCount (n : Nat) : Nat := if n = 0 then 0 else (Nat.toDigits 10 n).length

/-- the power of ten of the leading digit of `p / q` -/
def leadingPower (p q : Nat) : Int :=
  if q ≤ p then digitCount (p / q) - 1 else -(digitCount ((q + p - 1) / p - 1) : Int)

/-- the interval of numbers that round to `mantissa · 2 ^ exponent`, in quarters of the last binary place -/
structure Rounding where
  low : Nat
  value : Nat
  high : Nat
  closed : Bool

/-- just above a power of two the interval is shorter on the lower side -/
def rounding (mantissa : Nat) (exponent : Int) : Rounding where
  low := if mantissa = Nat.pow 2 52 ∧ -1074 < exponent then 4 * mantissa - 1 else 4 * mantissa - 2
  value := 4 * mantissa
  high := 4 * mantissa + 2
  closed := mantissa % 2 == 0

/-- the shortest decimal of a positive number on the grid of one digit count, if that grid has one -/
def onGrid? (mantissa : Nat) (exponent : Int) (count : Nat) : Option Scientific :=
  let r := rounding mantissa exponent
  let quarters := Double.fraction 1 (exponent - 2)
  let value := Double.fraction mantissa exponent
  let step := leadingPower value.1 value.2 - count + 1
  -- both sides are multiplied out: `d` steps are `d * stepUnit`, `k` quarters are `k * quarterUnit`
  let stepUnit := Nat.pow 10 step.toNat * quarters.2
  let quarterUnit := quarters.1 * Nat.pow 10 (-step).toNat
  let inside (d : Nat) : Bool :=
    if r.closed then r.low * quarterUnit ≤ d * stepUnit && d * stepUnit ≤ r.high * quarterUnit
    else r.low * quarterUnit < d * stepUnit && d * stepUnit < r.high * quarterUnit
  let below := r.value * quarterUnit / stepUnit
  let gapBelow := r.value * quarterUnit - below * stepUnit
  let gapAbove := (below + 1) * stepUnit - r.value * quarterUnit
  let belowFirst := gapBelow < gapAbove || (gapBelow == gapAbove && below % 2 == 0)
  let candidates := if belowFirst then [below, below + 1] else [below + 1, below]
  (candidates.find? inside).map fun d => ⟨d, step⟩

/-- seventeen digits are enough for every number -/
def shortest (mantissa : Nat) (exponent : Int) : Scientific :=
  match (List.range 17).findSome? fun i => onGrid? mantissa exponent (i + 1) with
  | some s => s
  | none => ⟨mantissa * Nat.pow 2 exponent.toNat, 0⟩

/-! ## Its text -/

/-- drop the zeros at the end of a digit string -/
def dropTrailingZeros (ds : List Char) : List Char := (ds.reverse.dropWhile (· == '0')).reverse

/-- an exponent has a sign and at least two digits -/
def exponentText (e : Int) : List Char :=
  let ds := Nat.toDigits 10 e.natAbs
  'e' :: (if e < 0 then '-' else '+') :: (if ds.length < 2 then '0' :: ds else ds)

/-- digits `ds` with the decimal point after place `point` (which may lie outside the digits) -/
def placed (ds : List Char) (point : Int) : List Char :=
  if point ≤ -4 ∨ 16 < point then
    match ds with
    | [] => []
    | [d] => d :: exponentText (point - 1)
    | d :: rest => d :: '.' :: rest ++ exponentText (point - 1)
  else if point ≤ 0 then '0' :: '.' :: (List.replicate (-point).toNat '0' ++ ds)
  else
    let n := point.toNat
    if ds.length ≤ n then ds ++ List.replicate (n - ds.length) '0' ++ ['.', '0']
    else ds.take n ++ '.' :: ds.drop n

/-- the digits of a positive number, positional from 0.0001 up to sixteen digits before the point -/
def magnitude (mantissa : Nat) (exponent : Int) : List Char :=
  let s := shortest mantissa exponent
  let ds := Nat.toDigits 10 s.digits
  placed (dropTrailingZeros ds) (ds.length + s.exponent)

/-- the text of a number; the names of the three values that are not finite are given -/
def render (nan infinity negativeInfinity : String) (x : Float) : String :=
  match Double.ofFloat x with
  | .nan => nan
  | .infinite negative => if negative then negativeInfinity else infinity
  | .finite negative m e =>
    let body := if m = 0 then ['0', '.', '0'] else magnitude m e
    String.ofList (if negative then '-' :: body else body)

end Crowfoot.Decimal
