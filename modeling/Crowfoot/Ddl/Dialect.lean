import Crowfoot.Text.Basic

/-
The dialects of SQL that scripts are read and written in, and names in their text. A name is written between quotes with
every quote inside it doubled, so that whatever follows cannot be taken for part of it; two spellings of a table name
are the same name when their keys agree.
-/

namespace Crowfoot.Ddl

inductive Dialect where
  | postgres
  | mysql
  | sqlite
  deriving DecidableEq, Repr

namespace Dialect

/-- the name that users see -/
def name : Dialect → String
  | postgres => "PostgreSQL"
  | mysql => "MySQL"
  | sqlite => "SQLite"

/-- the name inside messages about statements -/
def shortName : Dialect → String
  | postgres => "postgres"
  | mysql => "mysql"
  | sqlite => "sqlite"

/-- the order in which dialects are tried when none is named -/
def all : List Dialect := [postgres, mysql, sqlite]

/-- the names that are understood, in lower case -/
def aliases : List (String × Dialect) :=
  [("postgresql", postgres), ("postgres", postgres), ("pg", postgres), ("mysql", mysql), ("sqlite", sqlite),
    ("sqlite3", sqlite)]

end Dialect

/-- a name that no dialect has -/
structure UnknownDialect where
  name : String
  deriving DecidableEq, Repr

def UnknownDialect.message (e : UnknownDialect) : String := "Unknown SQL dialect: " ++ Text.quoted e.name

/-- the dialect that a user names, in any letter case; a blank name means none -/
def Dialect.resolve (name : String) : Except UnknownDialect (Option Dialect) :=
  let key := Text.lower (Text.trim name)
  if key = "" then .ok none
  else
    match aliases.lookup key with
    | some d => .ok (some d)
    | none => .error ⟨name⟩

/-- the same where the name may be missing -/
def Dialect.resolve? : Option String → Except UnknownDialect (Option Dialect)
  | none => .ok none
  | some name => Dialect.resolve name

/-! ## Names -/

/-- the quote that a dialect puts around names -/
def Dialect.nameQuote : Dialect → Char
  | .mysql => '\x60'
  | _ => '"'

/-- every quote twice -/
def doubled (quote : Char) (cs : List Char) : List Char := cs.flatMap fun c => if c = quote then [c, c] else [c]

/-- the characters of a quoted name -/
def quotedChars (quote : Char) (cs : List Char) : List Char := quote :: doubled quote cs ++ [quote]

/-- a name as a script writes it -/
def quotedName (d : Dialect) (name : String) : String := String.ofList (quotedChars d.nameQuote name.toList)

/-- the rest of a quoted text after its opening quote: a doubled quote stands for one, a lone one ends the text -/
def readQuoted? (quote : Char) : List Char → Option (List Char × List Char)
  | [] => none
  | c :: rest =>
    if c = quote then
      match rest with
      | [] => some ([], [])
      | c' :: rest' =>
        if c' = quote then (readQuoted? quote rest').map fun r => (quote :: r.1, r.2)
        else some ([], rest)
    else (readQuoted? quote rest).map fun r => (c :: r.1, r.2)

/-- the key of a table name: without quotes around it, in lower case -/
def nameKey (name : String) : String :=
  let cs := (Text.trim name).toList
  let bare := match cs, cs.getLast? with
    | c :: c' :: rest, some last =>
      if c = last ∧ (c = '"' ∨ c = '\x60' ∨ c = '\'') then (c' :: rest).dropLast else cs
    | _, _ => cs
  Text.lower (String.ofList bare)

end Crowfoot.Ddl
