import Crowfoot.Json.Value

/-
The text of a JSON value, in ASCII only: either on one line, or indented with one member or item a line. One integer
with too many digits leaves the whole value without a text. Inside a message a value is written with texts between
quotes, the three words capitalised, and a blank after each comma and colon.
-/

namespace Crowfoot.Json

/-- four hexadecimal digits after a backslash and a `u` -/
def unicodeEscape (n : Nat) : List Char := '\\' :: 'u' :: Text.hex 4 n

/-- one character inside a string; one outside the basic plane becomes a surrogate pair -/
def escapedChar (c : Char) : List Char :=
  if c = '"' then ['\\', '"']
  else if c = '\\' then ['\\', '\\']
  else if c = '\n' then ['\\', 'n']
  else if c = '\r' then ['\\', 'r']
  else if c = '\t' then ['\\', 't']
  else if c = '\x0c' then ['\\', 'f']
  else if c = '\x08' then ['\\', 'b']
  else if 32 ≤ c.toNat && c.toNat ≤ 126 then [c]
  else if c.toNat < 65536 then unicodeEscape c.toNat
  else
    let n := c.toNat - 65536
    unicodeEscape (0xd800 + n / 1024) ++ unicodeEscape (0xdc00 + n % 1024)

def stringText (s : String) : List Char := '"' :: s.toList.flatMap escapedChar ++ ['"']

def numberText (x : Float) : List Char := (Decimal.render "NaN" "Infinity" "-Infinity" x).toList

/-- how values are set: what stands before each item, between the last one and the closing bracket, and how deeper
levels are set -/
structure Style where
  /-- the text before an item or a closing bracket at a depth; empty on one line -/
  lineBreak : Nat → List Char
  /-- the text after a comma -/
  afterComma : List Char

/-- two spaces more on each level -/
def indented : Style := ⟨fun depth => '\n' :: List.replicate (2 * depth) ' ', []⟩

def oneLine : Style := ⟨fun _ => [], [' ']⟩

/-- items between brackets; none of them leaves the brackets empty -/
def bracketed (style : Style) (depth : Nat) (openBracket closeBracket : Char) (items : List (List Char)) : List Char :=
  match items with
  | [] => [openBracket, closeBracket]
  | first :: rest =>
    openBracket :: style.lineBreak (depth + 1) ++ first
      ++ rest.flatMap (fun item => ',' :: style.afterComma ++ style.lineBreak (depth + 1) ++ item)
      ++ style.lineBreak depth ++ [closeBracket]

mutual

/-- the characters of a value at a depth; only a value whose integers can all be written is written with them -/
def chars (style : Style) (depth : Nat) : Json → List Char
  | .null => "null".toList
  | .bool b => (if b then "true" else "false").toList
  | .int i => (toString i).toList
  | .float x => numberText x
  | .text s => stringText s
  | .array items => bracketed style depth '[' ']' (itemChars style (depth + 1) items)
  | .object members => bracketed style depth '{' '}' (memberChars style (depth + 1) members)

def itemChars (style : Style) (depth : Nat) : List Json → List (List Char)
  | [] => []
  | v :: rest => chars style depth v :: itemChars style depth rest

def memberChars (style : Style) (depth : Nat) : List (String × Json) → List (List Char)
  | [] => []
  | (name, v) :: rest => (stringText name ++ ':' :: ' ' :: chars style depth v) :: memberChars style depth rest

end

/-- the text of a value, set in a style -/
def write (style : Style) (v : Json) : Except Decimal.Overlong String :=
  if v.isWritable then .ok (String.ofList (chars style 0 v)) else .error .written

/-- the value over several lines -/
def pretty : Json → Except Decimal.Overlong String := write indented

/-- the value on one line -/
def compact : Json → Except Decimal.Overlong String := write oneLine

/-! ## Inside a message -/

/-- items with a comma and a blank between them, between brackets -/
def listed (openBracket closeBracket : String) (items : List String) : String :=
  openBracket ++ ", ".intercalate items ++ closeBracket

mutual

def shown : Json → String
  | .null => "None"
  | .bool b => if b then "True" else "False"
  | .int n => toString n
  | .float x => Decimal.render "nan" "inf" "-inf" x
  | .text s => Text.quoted s
  | .array items => listed "[" "]" (shownItems items)
  | .object members => listed "\x7b" "\x7d" (shownMembers members)

def shownItems : List Json → List String
  | [] => []
  | v :: rest => shown v :: shownItems rest

def shownMembers : List (String × Json) → List String
  | [] => []
  | (name, v) :: rest => (Text.quoted name ++ ": " ++ shown v) :: shownMembers rest

end

end Crowfoot.Json
