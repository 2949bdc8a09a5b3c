import Crowfoot.Decimal.Reading

/-
JSON values. Integers and floating point numbers are told apart by how they are written, and an object is the list of
its members in the order in which their names first appeared.
-/

namespace Crowfoot

inductive Json where
  | null
  | bool (value : Bool)
  | int (value : Int)
  | float (value : Float)
  | text (value : String)
  | array (items : List Json)
  | object (members : List (String × Json))
  deriving Inhabited

namespace Json

/-- the members with one name set to a value: in place when the name is there, else at the end -/
def setMember (name : String) (value : Json) : List (String × Json) → List (String × Json)
  | [] => [(name, value)]
  | (k, v) :: rest => if k = name then (k, value) :: rest else (k, v) :: setMember name value rest

/-- a member of an object; none for an absent name and for a value that is no object -/
def member? (name : String) : Json → Option Json
  | object members => members.lookup name
  | _ => none

def isNull : Json → Bool
  | null => true
  | _ => false

mutual

/-- whether all values in a value are of some kind, not counting arrays and objects themselves -/
def every (kind : Json → Bool) : Json → Bool
  | array items => everyItem kind items
  | object members => everyMember kind members
  | v => kind v

def everyItem (kind : Json → Bool) : List Json → Bool
  | [] => true
  | v :: rest => every kind v && everyItem kind rest

def everyMember (kind : Json → Bool) : List (String × Json) → Bool
  | [] => true
  | (_, v) :: rest => every kind v && everyMember kind rest

end

/-- whether every floating point number in a value is finite -/
def isFinite : Json → Bool := every fun
  | float x => x.isFinite
  | _ => true

/-- whether every integer in a value has few enough digits -/
def isWritable : Json → Bool := every fun
  | int n => Decimal.isWritable n
  | _ => true

/-- the text, or null when there is none -/
def ofText? : Option String → Json
  | some s => text s
  | none => null

def texts (ss : List String) : Json := array (ss.map text)

end Json

end Crowfoot
