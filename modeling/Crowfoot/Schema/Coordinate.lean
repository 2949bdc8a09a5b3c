import Crowfoot.Decimal.Shortest

/-
The numbers that canvas positions are made of. Everything that computes with positions is written for any type of
coordinates: floating point numbers when a program runs, rational numbers when the geometry is reasoned about.
-/

namespace Crowfoot

/-- a coordinate that has no integer part -/
inductive NotFinite where
  | nan
  | infinite
  deriving DecidableEq, Repr

def NotFinite.message : NotFinite → String
  | nan => "A coordinate is not a number"
  | infinite => "A coordinate is infinite"

/-- the arithmetic that placing tables needs -/
class Coordinate (κ : Type) where
  ofInt : Int → κ
  add : κ → κ → κ
  sub : κ → κ → κ
  div : κ → κ → κ
  lt : κ → κ → Bool
  /-- whether two coordinates count as the same place -/
  same : κ → κ → Bool
  floor : κ → Except NotFinite Int
  /-- how an integer compares with a coordinate, exactly -/
  compareInt : Int → κ → Option Ordering

namespace Coordinate

variable {κ : Type} [Coordinate κ]

def half (a : κ) : κ := div a (ofInt 2)

def mean (a b : κ) : κ := half (add a b)

/-- the first of two coordinates unless the second is larger -/
def larger (a b : κ) : κ := if lt a b then b else a

/-- the first of two coordinates unless the second is smaller -/
def smaller (a b : κ) : κ := if lt b a then b else a

/-- whether an integer is strictly below a coordinate -/
def intBelow (n : Int) (a : κ) : Bool := compareInt n a == some .lt

/-- whether an integer is strictly above a coordinate -/
def intAbove (n : Int) (a : κ) : Bool := compareInt n a == some .gt

end Coordinate

instance : Coordinate Float where
  ofInt := Float.ofInt
  add a b := a + b
  sub a b := a - b
  div a b := a / b
  lt a b := a < b
  same a b := a == b || a.toBits == b.toBits
  floor a :=
    match Decimal.Double.ofFloat a with
    | .nan => .error .nan
    | .infinite _ => .error .infinite
    | d => .ok (d.floor?.getD 0)
  compareInt n a := Decimal.Double.compareInt n (Decimal.Double.ofFloat a)

instance : Coordinate Rat where
  ofInt n := (n : Rat)
  add a b := a + b
  sub a b := a - b
  div a b := a / b
  lt a b := decide (a < b)
  same a b := decide (a = b)
  floor a := .ok a.floor
  compareInt n a := some (if (n : Rat) < a then .lt else if (n : Rat) = a then .eq else .gt)

end Crowfoot
