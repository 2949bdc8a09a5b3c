import Crowfoot.Ddl.Grammar.Cursor

/-
Expressions and types in SQL text. What an expression computes does not matter; what matters is where it ends, and
the name it stands for when it is used in the place of one.
-/

namespace Crowfoot.Ddl

/-- what an expression looks like from outside -/
inductive Operand where
  | name (s : String)
  | literal (s : String)
  | null
  | star
  | call (function : String)
  | other
  deriving DecidableEq, Repr

namespace Operand

/-- functions whose calls have no name of their own -/
def knownFunctions : List String :=
  ["LOWER", "UPPER", "COALESCE", "TRIM", "LENGTH", "ABS", "CAST", "SUBSTRING", "LEFT", "RIGHT", "CONCAT", "DATE",
    "YEAR", "MONTH", "DAY", "NOW", "ROUND", "IF", "IFNULL", "NULLIF", "MD5", "REPLACE", "ROW", "ARRAY"]

/-- the name of a listed column -/
def listed : Operand → String
  | name s | literal s => bareName s
  | null => "NULL"
  | star => "*"
  | call f => if knownFunctions.contains (Text.upper f) then "" else bareName f
  | other => ""

/-- the name of a defined column -/
def defined : Operand → String
  | call _ => ""
  | o => o.listed

end Operand

/-- the parsers for what may be nested to any depth -/
structure Grammar where
  /-- a condition or any other expression -/
  condition : Parser (Option Operand)
  /-- an expression without comparisons -/
  value : Parser (Option Operand)
  /-- a query; whether there was one -/
  query : Parser Bool
  /-- a type -/
  type : Parser (Option String)

namespace Grammar

open Ddl.Parser

/-- the deepest level, which is never reached -/
def bottom : Grammar := ⟨fail, fail, fail, fail⟩

/-! ## Types -/

/-- the types that an unsigned variant exists of -/
def unsignedType? (t : String) : Option String :=
  [("TINYINT", "UTINYINT"), ("SMALLINT", "USMALLINT"), ("MEDIUMINT", "UMEDIUMINT"), ("INT", "UINT"),
    ("BIGINT", "UBIGINT"), ("DECIMAL", "UDECIMAL"), ("DOUBLE", "UDOUBLE")].lookup t

/-- a size or another parameter of a type -/
def typeParameter (g : Grammar) (d : Dialect) : Parser (Option Operand) := do
  match ← g.value with
  | none => return none
  | some o =>
    let _ ← anyName? d
    return some o

/-- parameters of a type between brackets; nothing when they cannot be parameters -/
def typeParameters? (g : Grammar) (d : Dialect) (t : String) : Parser (Option Unit) := restoring do
  if !(← symbol "(") then return none
  let items ←
    if t = "ENUM" || t = "SET" then commaList g.condition
    else if ["ARRAY", "LIST", "MAP", "NULLABLE", "RANGE", "STRUCT"].contains t then do
      skipGroup
      return some ()
    else commaList (typeParameter g d)
  if items.isEmpty then return none
  if ← symbol ")" then return some () else return none

/-- what may follow the name of a type of times -/
def zoned (t : String) : Parser String := do
  let clocked := ["TIME", "TIMETZ", "TIMESTAMP", "TIMESTAMPTZ", "TIMESTAMPLTZ", "TIMESTAMPNTZ", "TIME_NS"]
  unless clocked.contains t do return t
  let time := t = "TIME" || t = "TIMETZ" || t = "TIME_NS"
  if ← phrase ["WITH", "TIME", "ZONE"] then return (if time then "TIMETZ" else "TIMESTAMPTZ")
  if ← phrase ["WITH", "LOCAL", "TIME", "ZONE"] then return "TIMESTAMPLTZ"
  let _ ← phrase ["WITHOUT", "TIME", "ZONE"]
  return t

/-- brackets that make a type one of arrays -/
def arrayOf (g : Grammar) (t : String) : Parser String := do
  if !(← (do if ← seesSymbol "[" then return true else seesWord "ARRAY")) then return t
  let _ ← word "ARRAY"
  loop do
    if ← symbol "[" then
      let _ ← commaList g.condition
      let _ ← symbol "]"
      return true
    else return false
  return "ARRAY"

/-- a type by its own word -/
def namedType (g : Grammar) (d : Dialect) (t : String) : Parser (Option String) := do
  let ok ← (do
    if ← seesSymbol "(" then return (← typeParameters? g d t).isSome else return true)
  if !ok then return none
  if t = "INTERVAL" then
    match ← plainWord? d with
    | none => return some (← arrayOf g "INTERVAL")
    | some _ =>
      if ← phrase ["TO"] then let _ ← plainWord? d
      return some (← arrayOf g "")
  let zonedType ← zoned t
  if zonedType ≠ t then return some (← arrayOf g zonedType)
  if ← phrase ["UNSIGNED"] then
    match unsignedType? t with
    | some u => return some (← arrayOf g u)
    | none => fail
  return some (← arrayOf g t)

/-- the rest of a qualified name -/
def dotted (name : String) : Parser String := do
  let parts ← many do
    if ← symbol "." then
      match ← take? fun t => !isBarred t with
      | some t => return some t.text
      | none => fail
    else return none
  return ".".intercalate (name :: parts)

/-- a type that a user has defined, which not every dialect allows -/
def definedType (g : Grammar) (d : Dialect) (name : String) : Parser (Option String) := do
  let full ← dotted name
  let _ ← typeParameters? g d ""
  return some (← arrayOf g (Text.upper full))

/-- a type: a word that names one, or any other plain name -/
def typeWith (g : Grammar) (d : Dialect) : Parser (Option String) := restoring do
  match ← peek? with
  | none => return none
  | some t =>
    match d.typeNamed? (if t.kind = .word then Text.upper t.text else "") with
    | some type =>
      advance
      namedType g d type
    | none =>
      if t.kind = .quoted then
        advance
        match d.typeNamed? (Text.upper t.text) with
        | some type => namedType g d type
        | none => if d = .mysql then return none else definedType g d t.text
      else
        match ← plainWord? d with
        | some name => if d = .mysql then return none else definedType g d name
        | none => return none

/-! ## Operands -/

/-- functions that are called without brackets -/
def bareFunctions : List String :=
  ["CURRENT_DATE", "CURRENT_TIME", "CURRENT_TIMESTAMP", "CURRENT_USER", "CURRENT_DATETIME", "LOCALTIME",
    "LOCALTIMESTAMP", "SESSION_USER", "CURRENT_CATALOG", "CURRENT_SCHEMA"]

/-- reserved words that may nevertheless be called -/
def callableWords : List String := ["GLOB", "ILIKE", "INSERT", "LIKE", "RLIKE", "REGEXP", "XOR", "MOD", "VALUES"]

/-- what may follow the call of a function -/
def afterCall : Parser Unit := loop do
  if ← phrase ["FILTER", "("] then
    skipGroup
    return true
  if ← phrase ["WITHIN", "GROUP", "("] then
    skipGroup
    return true
  if ← phrase ["OVER", "("] then
    skipGroup
    return true
  return false

/-- a call of a function, with or without brackets -/
def call? (d : Dialect) (any : Bool) : Parser (Option Operand) := do
  match ← peek?, ← second? with
  | some t, next =>
    if next.any (·.isSymbol "(") then
      let callable := t.kind = .quoted || (t.kind = .word && (any || !d.isReserved t.word || callableWords.contains t.word))
      if callable && t.word ≠ "SELECT" && t.text ≠ "\x60" then
        advance
        let _ ← group
        afterCall
        return some (.call t.text)
      else return none
    else if bareFunctions.contains t.word then
      advance
      return some .other
    else return none
  | none, _ => return none

/-- texts that stand side by side are one text -/
def textRun : Parser (Option Operand) := do
  match ← take? (·.kind = .string) with
  | none => return none
  | some t =>
    let more ← many (take? (·.kind = .string))
    return some (if more.isEmpty then .literal t.text else .other)

/-- a choice between cases -/
def caseOf (g : Grammar) : Parser (Option Operand) := do
  if !(← word "CASE") then return none
  let _ ← (do if ← seesWord "WHEN" then return none else g.condition)
  loop do
    if ← word "WHEN" then
      let _ ← demand g.condition
      if !(← word "THEN") then fail
      let _ ← demand g.condition
      return true
    else return false
  if ← word "ELSE" then let _ ← demand g.condition
  if !(← word "END") then fail
  return some .other

/-- words that follow a table or an expression and are not another name for it -/
def clauseWords : List String :=
  ["LIMIT", "OFFSET", "FETCH", "WINDOW", "SET", "LEFT", "RIGHT", "FULL", "NATURAL", "SEMI", "ANTI", "ASOF", "LOCK",
    "TABLESAMPLE", "DEFAULT"]

/-- another name, with or without the word in front of it -/
def alias? (d : Dialect) : Parser Bool := do
  if ← word "AS" then
    if ← group then return true
    let _ ← demand (anyName? d)
    let _ ← group
    return true
  match ← take? fun t => (isName d t || t.kind = .string) && !clauseWords.contains t.word with
  | some _ => return true
  | none => return false

/-- a query, an expression or several between brackets -/
def inBrackets (g : Grammar) (d : Dialect) : Parser (Option Operand) := do
  if !(← symbol "(") then return none
  if ← sees (fun t => ["SELECT", "WITH", "VALUES"].contains t.word) then
    skipGroup
    return some .other
  let items ← commaList do
    match ← g.condition with
    | none => return none
    | some o =>
      let _ ← alias? d
      return some o
  if items.isEmpty && !(← seesSymbol ")") then fail
  close
  return some .other

/-- a literal or a group -/
def primary? (g : Grammar) (d : Dialect) : Parser (Option Operand) := do
  match ← textRun with
  | some o => return some o
  | none =>
    match ← take? fun t => t.kind = .number || t.kind = .literal with
    | some t => return some (if t.kind = .number then .literal t.text else .other)
    | none =>
      if ← symbol "*" then return some .star
      if ← word "NULL" then return some .null
      if ← takeIf (fun t => t.word == "TRUE" || t.word == "FALSE") then return some .other
      if ← phrase ["."] then
        match ← take? (·.kind = .number) with
        | some _ => return some .other
        | none => fail
      inBrackets g d

/-- a place that a value is put into later -/
def placeholder? (d : Dialect) : Parser (Option Operand) := do
  if ← symbol "?" then return some .other
  if ← takeIf (fun t => t.isSymbol "@" || t.isSymbol "@@" || t.isSymbol ":" || t.isSymbol "$") then
    let _ ← anyName? d
    return some .other
  return none

/-- a literal, a call or a name -/
def field? (g : Grammar) (d : Dialect) (any : Bool) : Parser (Option Operand) := do
  match ← primary? g d with
  | some o => return some o
  | none =>
    match ← call? d any with
    | some o => return some o
    | none => return (← if any then anyName? d else name? d).map Operand.name

/-- parts and casts after an operand -/
def postfixed (g : Grammar) (d : Dialect) (o : Operand) : Parser Operand := do
  let steps ← many do
    if ← symbol "." then
      if ← symbol "*" then return some ()
      match ← call? d true with
      | some _ => return some ()
      | none =>
        let _ ← demand (anyName? d)
        return some ()
    if ← symbol "::" then
      let _ ← demand g.type
      return some ()
    if ← symbol "[" then
      let _ ← commaList g.condition
      let _ ← (do if ← symbol ":" then g.condition else return none)
      if !(← symbol "]") then fail
      return some ()
    if ← takeIf (fun t => ["->", "->>", "#>", "#>>"].any t.isSymbol) then
      let _ ← demand (field? g d true)
      return some ()
    return none
  return if steps.isEmpty then o else .other

/-- a type in front of a literal -/
def typedLiteral? (g : Grammar) (d : Dialect) : Parser (Option Operand) := restoring do
  match ← peek?, ← second? with
  | some t, some u =>
    if t.kind = .word && t.word ≠ "NULL" && (d.typeNamed? t.word).isSome && (u.kind = .string || u.kind = .number) then
      advance
      advance
      if t.word = "INTERVAL" then let _ ← plainWord? d
      return some (← postfixed g d .other)
    else return none
  | _, _ => return none

/-- an operand with what stands before and after it -/
def unary (g : Grammar) (d : Dialect) : Parser (Option Operand) := do
  if ← takeIf (fun t => ["+", "-", "~", "!", "|/", "||/"].any t.isSymbol) then
    let _ ← demand g.value
    return some .other
  if ← word "NOT" then
    let _ ← demand g.condition
    return some .other
  match ← typedLiteral? g d with
  | some o => return some o
  | none =>
    match ← caseOf g with
    | some o => return some o
    | none =>
      match ← field? g d false with
      | some o =>
        let o ← postfixed g d o
        if ← phrase ["AT", "TIME", "ZONE"] then
          let _ ← demand g.value
          return some .other
        return some o
      | none => placeholder? d

/-- operators between values -/
def isValueOperator (t : Token) : Bool :=
  ["+", "-", "*", "/", "%", "&", "^", "|", "||", "??", "<->", "@>", "<@"].any t.isSymbol
    || t.word == "COLLATE" || t.word == "DIV" || t.word == "MOD"

def shift? : Parser Bool := fun ts =>
  match ts with
  | a :: b :: rest =>
    if (a.isSymbol "<" && b.isSymbol "<") || (a.isSymbol ">" && b.isSymbol ">") then .ok (true, rest) else .ok (false, ts)
  | _ => .ok (false, ts)

/-- operands with operators of values between them -/
def valueWith (g : Grammar) (d : Dialect) : Parser (Option Operand) := do
  match ← unary g d with
  | none => return none
  | some o =>
    let more ← many do
      if ← (do if ← takeIf isValueOperator then return true else shift?) then
        let _ ← demand (unary g d)
        return some ()
      else return none
    return some (if more.isEmpty then o else .other)

/-- operators that compare -/
def isComparison (t : Token) : Bool :=
  ["=", "==", "<>", "!=", "<", ">", "<=", ">=", "<=>", "~", "~*", "~~", "~~*", "~~~", "&&", ":="].any t.isSymbol
    || ["LIKE", "ILIKE", "RLIKE", "REGEXP", "GLOB", "SIMILAR TO", "MATCH", "OVERLAPS"].contains t.word

/-- one comparison after a value -/
def comparison (g : Grammar) (d : Dialect) : Parser (Option Unit) := restoring do
  if ← takeIf isComparison then
    let _ ← takeIf (fun t => t.word == "ANY" || t.word == "ALL" || t.word == "SOME")
    let _ ← demand (valueWith g d)
    if ← word "ESCAPE" then let _ ← demand (valueWith g d)
    return some ()
  if ← takeIf (fun t => t.word == "ISNULL" || t.word == "NOTNULL") then return some ()
  if ← word "IS" then
    let _ ← word "NOT"
    if ← phrase ["DISTINCT", "FROM"] then
      let _ ← demand (valueWith g d)
      return some ()
    if ← takeIf (fun t => ["NULL", "TRUE", "FALSE", "UNKNOWN"].contains t.word) then return some ()
    let _ ← demand (valueWith g d)
    return some ()
  let negated ← word "NOT"
  if ← word "IN" then
    if ← group then return some ()
    let _ ← demand (field? g d false)
    return some ()
  if ← word "BETWEEN" then
    let _ ← word "SYMMETRIC"
    let _ ← demand (valueWith g d)
    if !(← word "AND") then fail
    let _ ← demand (valueWith g d)
    return some ()
  if negated then
    if ← takeIf isComparison then
      let _ ← demand (valueWith g d)
      return some ()
    if ← word "NULL" then return some ()
  return none

/-- values with comparisons between them -/
def compared (g : Grammar) (d : Dialect) : Parser (Option Operand) := do
  match ← valueWith g d with
  | none => return none
  | some o =>
    let more ← many (comparison g d)
    return some (if more.isEmpty then o else .other)

/-- comparisons joined by logical words -/
def conditionWith (g : Grammar) (d : Dialect) : Parser (Option Operand) := do
  match ← compared g d with
  | none => return none
  | some o =>
    let more ← many do
      if ← takeIf (fun t => ["AND", "OR", "XOR"].contains t.word) then
        let _ ← demand (compared g d)
        return some ()
      else return none
    return some (if more.isEmpty then o else .other)

end Grammar

end Crowfoot.Ddl
