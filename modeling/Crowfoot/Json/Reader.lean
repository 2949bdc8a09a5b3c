import Crowfoot.Json.Value

/-
Reading JSON text. Beside the standard grammar the three number words `NaN`, `Infinity` and `-Infinity` are values.
A text that is no JSON is refused with a cause and a place: the place is kept as the number of characters that were
left, and turned into line and column at the end. An integer with too many digits stops the reading as soon as it is
met, whatever follows it.
-/

namespace Crowfoot.Json

/-- why a text is no JSON -/
inductive Problem where
  | expectedValue
  | expectedName
  | expectedColon
  | expectedComma
  | extraData
  | unterminatedString
  | controlCharacter
  | invalidEscape
  | invalidUnicodeEscape
  | byteOrderMark
  deriving DecidableEq, Repr

def Problem.message : Problem → String
  | .expectedValue => "Expecting value"
  | .expectedName => "Expecting property name enclosed in double quotes"
  | .expectedColon => "Expecting ':' delimiter"
  | .expectedComma => "Expecting ',' delimiter"
  | .extraData => "Extra data"
  | .unterminatedString => "Unterminated string starting at"
  | .controlCharacter => "Invalid control character at"
  | .invalidEscape => "Invalid \\escape"
  | .invalidUnicodeEscape => "Invalid \\uXXXX escape"
  | .byteOrderMark => "Unexpected UTF-8 BOM (decode using utf-8-sig)"

/-- a problem and the number of characters from its place to the end of the text -/
structure Fault where
  problem : Problem
  left : Nat
  deriving DecidableEq, Repr

/-- the problem with its line, column and offset -/
def Fault.message (text : List Char) (f : Fault) : String :=
  let offset := text.length - f.left
  let before := text.take offset
  let line := before.count '\n' + 1
  let column := (before.reverse.takeWhile (· ≠ '\n')).length + 1
  f.problem.message ++ ": line " ++ toString line ++ " column " ++ toString column
    ++ " (char " ++ toString offset ++ ")"

/-- why a text is not read as a value -/
inductive ReadError where
  | malformed (fault : Fault)
  | overlong (cause : Decimal.Overlong)
  deriving DecidableEq, Repr

/-- what a reading step gives; on success a result and the characters after it -/
abbrev Outcome := Except ReadError

/-- a problem whose place is so many characters before the end -/
def faultAt {α : Type} (p : Problem) (left : Nat) : Outcome α := .error (.malformed ⟨p, left⟩)

def fault {α : Type} (p : Problem) (rest : List Char) : Outcome α := faultAt p rest.length

def isSpace (c : Char) : Bool := c = ' ' || c = '\t' || c = '\n' || c = '\r'

def skipSpace (cs : List Char) : List Char := cs.dropWhile isSpace

/-- the value of a hexadecimal digit -/
def hexValue? (c : Char) : Option Nat :=
  if c.isDigit then some (c.toNat - 48)
  else if 'a' ≤ c ∧ c ≤ 'f' then some (c.toNat - 87)
  else if 'A' ≤ c ∧ c ≤ 'F' then some (c.toNat - 55)
  else none

/-- four hexadecimal digits as a number -/
def hexQuad? : List Char → Option Nat
  | [a, b, c, d] => do
    let a ← hexValue? a
    let b ← hexValue? b
    let c ← hexValue? c
    let d ← hexValue? d
    return ((a * 16 + b) * 16 + c) * 16 + d
  | _ => none

def isHighSurrogate (n : Nat) : Bool := 0xd800 ≤ n && n < 0xdc00

def isLowSurrogate (n : Nat) : Bool := 0xdc00 ≤ n && n < 0xe000

/-- the characters of an escape after its `u`: the digits, and the low half of a pair where one follows -/
def readUnicodeEscape (digits : List Char) : Outcome (Char × List Char) :=
  -- the closing quote must still follow, so five characters are needed
  if digits.length < 5 then faultAt .invalidUnicodeEscape (digits.length + 1)
  else
    match hexQuad? (digits.take 4) with
    | none => faultAt .invalidUnicodeEscape (digits.length + 1)
    | some n =>
      let rest := digits.drop 4
      match rest with
      | '\\' :: 'u' :: second =>
        if isHighSurrogate n && 4 < second.length then
          match hexQuad? (second.take 4) with
          | none => faultAt .invalidUnicodeEscape (second.length + 1)
          | some m =>
            if isLowSurrogate m then
              .ok (Char.ofNat (0x10000 + (n - 0xd800) * 1024 + (m - 0xdc00)), second.drop 4)
            else .ok ('\ufffd', rest)
        else .ok (if isHighSurrogate n || isLowSurrogate n then '\ufffd' else Char.ofNat n, rest)
      | _ => .ok (if isHighSurrogate n || isLowSurrogate n then '\ufffd' else Char.ofNat n, rest)

/-- the character that a letter after a backslash stands for -/
def simpleEscape? (c : Char) : Option Char :=
  match c with
  | '"' => some '"'
  | '\\' => some '\\'
  | '/' => some '/'
  | 'b' => some '\x08'
  | 'f' => some '\x0c'
  | 'n' => some '\n'
  | 'r' => some '\r'
  | 't' => some '\t'
  | _ => none

/-- the rest of a string; `opening` is the number of characters from its opening quote to the end of the text -/
def readString (opening : Nat) : Nat → List Char → Outcome (List Char × List Char)
  | 0, _ => faultAt .unterminatedString opening
  | _ + 1, [] => faultAt .unterminatedString opening
  | _ + 1, '"' :: rest => .ok ([], rest)
  | _ + 1, ['\\'] => faultAt .unterminatedString opening
  | fuel + 1, '\\' :: 'u' :: rest => do
    let (c, rest) ← readUnicodeEscape rest
    let (cs, rest) ← readString opening fuel rest
    return (c :: cs, rest)
  | fuel + 1, '\\' :: e :: rest =>
    match simpleEscape? e with
    | none => faultAt .invalidEscape (rest.length + 2)
    | some c => do
      let (cs, rest) ← readString opening fuel rest
      return (c :: cs, rest)
  | fuel + 1, c :: rest =>
    if c.toNat < 32 then faultAt .controlCharacter (rest.length + 1)
    else do
      let (cs, rest) ← readString opening fuel rest
      return (c :: cs, rest)

/-- the string after an opening quote -/
def readQuoted (rest : List Char) : Outcome (String × List Char) := do
  let (cs, rest) ← readString (rest.length + 1) (rest.length + 1) rest
  return (String.ofList cs, rest)

/-- the digits of an exponent, when an exponent is there -/
def exponentPart (cs : List Char) : List Char × List Char :=
  match cs with
  | e :: rest =>
    if e = 'e' || e = 'E' then
      let (sign, ds) := match rest with
        | s :: more => if s = '+' || s = '-' then ([s], more) else ([], rest)
        | [] => ([], [])
      let digits := ds.takeWhile Char.isDigit
      if digits.isEmpty then ([], cs) else (e :: sign ++ digits, ds.dropWhile Char.isDigit)
    else ([], cs)
  | [] => ([], [])

/-- a point and digits after it, when both are there -/
def fractionPart (cs : List Char) : List Char × List Char :=
  match cs with
  | '.' :: rest =>
    let digits := rest.takeWhile Char.isDigit
    if digits.isEmpty then ([], cs) else ('.' :: digits, rest.dropWhile Char.isDigit)
  | _ => ([], cs)

/-- the digits before the point: a zero alone, or digits that do not start with one -/
def wholePart (cs : List Char) : List Char × List Char :=
  match cs with
  | '0' :: rest => (['0'], rest)
  | _ => (cs.takeWhile Char.isDigit, cs.dropWhile Char.isDigit)

/-- a number: an integer when it has neither point nor exponent -/
def readNumber (cs : List Char) : Outcome (Json × List Char) :=
  let (negative, body) := match cs with
    | '-' :: rest => (true, rest)
    | _ => (false, cs)
  let (whole, rest) := wholePart body
  if whole.isEmpty then fault .expectedValue cs
  else
    let (places, rest) := fractionPart rest
    let (power, rest) := exponentPart rest
    if places.isEmpty && power.isEmpty then
      if Decimal.digitLimit < whole.length then .error (.overlong (.read whole.length))
      else
        let n : Int := Decimal.natOfDigits whole
        .ok (.int (if negative then -n else n), rest)
    else
      match Decimal.readUnsigned? negative (whole ++ places ++ power) with
      | some x => .ok (.float x, rest)
      | none => fault .expectedValue cs

/-- the values that are words -/
def readWord? (cs : List Char) : Option (Json × List Char) :=
  let words : List (String × Json) := [("null", .null), ("true", .bool true), ("false", .bool false),
    ("NaN", .float (0 / 0)), ("Infinity", .float (1 / 0)), ("-Infinity", .float (-(1 / 0)))]
  (words.find? fun w => w.1.toList.isPrefixOf cs).map fun w => (w.2, cs.drop w.1.length)

/-- a word, or else a number -/
def readPlain (cs : List Char) : Outcome (Json × List Char) :=
  match readWord? cs with
  | some r => .ok r
  | none => readNumber cs

mutual

/-- one value; `fuel` bounds the depth and the number of items together -/
def readValue : Nat → List Char → Outcome (Json × List Char)
  | 0, cs => fault .expectedValue cs
  | fuel + 1, cs =>
    match cs with
    | '"' :: rest => do
      let (s, rest) ← readQuoted rest
      return (.text s, rest)
    | '[' :: rest =>
      match skipSpace rest with
      | ']' :: rest => .ok (.array [], rest)
      | rest => do
        let (items, rest) ← readItems fuel rest
        return (.array items, rest)
    | '{' :: rest =>
      match skipSpace rest with
      | '}' :: rest => .ok (.object [], rest)
      | rest => do
        let (members, rest) ← readMembers fuel [] rest
        return (.object members, rest)
    | _ => readPlain cs

/-- the items of an array up to its closing bracket -/
def readItems : Nat → List Char → Outcome (List Json × List Char)
  | 0, cs => fault .expectedValue cs
  | fuel + 1, cs => do
    let (v, rest) ← readValue fuel cs
    match skipSpace rest with
    | ']' :: rest => return ([v], rest)
    | ',' :: rest =>
      let (vs, rest) ← readItems fuel (skipSpace rest)
      return (v :: vs, rest)
    | rest => fault .expectedComma rest

/-- the members of an object up to its closing bracket; a later value replaces an earlier one of the same name -/
def readMembers : Nat → List (String × Json) → List Char → Outcome (List (String × Json) × List Char)
  | 0, _, cs => fault .expectedName cs
  | fuel + 1, seen, cs =>
    match cs with
    | '"' :: rest => do
      let (name, rest) ← readQuoted rest
      match skipSpace rest with
      | ':' :: rest =>
        let (v, rest) ← readValue fuel (skipSpace rest)
        let seen := setMember name v seen
        match skipSpace rest with
        | '}' :: rest => return (seen, rest)
        | ',' :: rest => readMembers fuel seen (skipSpace rest)
        | rest => fault .expectedComma rest
      | rest => fault .expectedColon rest
    | _ => fault .expectedName cs

end

/-- the value that the whole text stands for -/
def parseChars (cs : List Char) : Outcome Json :=
  match cs with
  | '\ufeff' :: _ => faultAt .byteOrderMark cs.length
  | _ => do
    let (v, rest) ← readValue (cs.length + 1) (skipSpace cs)
    match skipSpace rest with
    | [] => return v
    | rest => faultAt .extraData rest.length

/-- the value of a text -/
def parse (text : String) : Outcome Json := parseChars text.toList

end Crowfoot.Json
