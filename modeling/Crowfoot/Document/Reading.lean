import Crowfoot.Json.Value

/-
Reading domain values out of JSON. A reading gives the value, or all flaws of the document with their places in the
order of the fields, or stops at once: a plain number where constraints are listed cannot be looked through.
-/

namespace Crowfoot.Document

/-- one step from a document to a part of it -/
inductive Step where
  | key (name : String)
  | index (i : Nat)
  deriving DecidableEq, Repr

inductive FlawKind where
  | missing
  | stringType
  | floatType
  | floatParsing
  | intType
  | intParsing
  | intParsingSize
  | intFromFloat
  | finiteNumber
  | greaterThanEqual
  | lessThanEqual
  | enum
  | valueError
  | listType
  | tupleType
  | dictType
  | modelType
  | modelAttributesType
  | unionTagInvalid
  | unionTagNotFound
  | jsonInvalid
  deriving DecidableEq, Repr

/-- the word that names a kind of flaw in answers -/
def FlawKind.code : FlawKind → String
  | missing => "missing"
  | stringType => "string_type"
  | floatType => "float_type"
  | floatParsing => "float_parsing"
  | intType => "int_type"
  | intParsing => "int_parsing"
  | intParsingSize => "int_parsing_size"
  | intFromFloat => "int_from_float"
  | finiteNumber => "finite_number"
  | greaterThanEqual => "greater_than_equal"
  | lessThanEqual => "less_than_equal"
  | enum => "enum"
  | valueError => "value_error"
  | listType => "list_type"
  | tupleType => "tuple_type"
  | dictType => "dict_type"
  | modelType => "model_type"
  | modelAttributesType => "model_attributes_type"
  | unionTagInvalid => "union_tag_invalid"
  | unionTagNotFound => "union_tag_not_found"
  | jsonInvalid => "json_invalid"

/-- a flaw and its place in the document -/
structure Flaw where
  place : List Step
  kind : FlawKind
  deriving DecidableEq, Repr

/-- a plain value where a collection was needed -/
inductive Uniterable where
  | bool
  | int
  | float
  | null
  deriving DecidableEq, Repr

/-- the name of the type of such a value -/
def Uniterable.name : Uniterable → String
  | bool => "bool"
  | int => "int"
  | float => "float"
  | null => "NoneType"

def Uniterable.message (u : Uniterable) : String := "'" ++ u.name ++ "' object is not iterable"

/-- why a document is refused -/
inductive Refusal where
  | flawed (flaws : List Flaw)
  | notIterable (cause : Uniterable)
  deriving DecidableEq, Repr

abbrev Reading := Except Refusal

namespace Reading

def flaw {α : Type} (k : FlawKind) : Reading α := .error (.flawed [⟨[], k⟩])

/-- a reading of a part, with its flaws placed in the whole -/
def within {α : Type} (s : Step) : Reading α → Reading α
  | .error (.flawed fs) => .error (.flawed (fs.map fun f => { f with place := s :: f.place }))
  | r => r

/-- both parts of a document: flaws are collected, and the first part that stops the reading stops it -/
def both {α β : Type} (a : Reading α) (b : Reading β) : Reading (α × β) :=
  match a, b with
  | .ok x, .ok y => .ok (x, y)
  | .error (.notIterable c), _ => .error (.notIterable c)
  | _, .error (.notIterable c) => .error (.notIterable c)
  | .error (.flawed fs), .error (.flawed gs) => .error (.flawed (fs ++ gs))
  | .error (.flawed fs), _ => .error (.flawed fs)
  | _, .error (.flawed gs) => .error (.flawed gs)

/-- every item of a list, from a place on -/
def itemsFrom {α : Type} (read : Json → Reading α) : Nat → List Json → Reading (List α)
  | _, [] => .ok []
  | i, v :: rest => (both (within (.index i) (read v)) (itemsFrom read (i + 1) rest)).map fun (x, xs) => x :: xs

def items {α : Type} (read : Json → Reading α) (vs : List Json) : Reading (List α) := itemsFrom read 0 vs

end Reading

/-! ## Fields -/

/-- `tableId` as `table_id` -/
def snakeCase (name : String) : String :=
  String.ofList (name.toList.flatMap fun c => if c.isUpper then ['_', c.toLower] else [c])

/-- a field by either spelling of its name, with the spelling that was found -/
def field? (members : List (String × Json)) (name : String) : Option (String × Json) :=
  match members.lookup name with
  | some v => some (name, v)
  | none => (members.lookup (snakeCase name)).map (snakeCase name, ·)

def required {α : Type} (members : List (String × Json)) (name : String) (read : Json → Reading α) : Reading α :=
  match field? members name with
  | some (found, v) => Reading.within (.key found) (read v)
  | none => Reading.within (.key name) (Reading.flaw .missing)

def optional {α : Type} (members : List (String × Json)) (name : String) (default : α) (read : Json → Reading α) :
    Reading α :=
  match field? members name with
  | some (found, v) => Reading.within (.key found) (read v)
  | none => .ok default

/-- null means no value -/
def nullable {α : Type} (read : Json → Reading α) : Json → Reading (Option α)
  | .null => .ok none
  | v => (read v).map some

/-- where a document comes from, which decides what is said of a value that is no object -/
inductive Origin where
  | value
  | request
  deriving DecidableEq, Repr

def Origin.objectFlaw : Origin → FlawKind
  | value => .modelType
  | request => .modelAttributesType

/-- the members of an object -/
def members (o : Origin) : Json → Reading (List (String × Json))
  | .object ms => .ok ms
  | _ => Reading.flaw o.objectFlaw

end Crowfoot.Document
