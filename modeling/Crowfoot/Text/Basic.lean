import Crowfoot.Text.CaseTable
import Crowfoot.Text.CategoryTable

/-
Texts and their characters: white space, letter case, word characters and digits of any script, and a text as a message
shows it. Letter case goes character by character, except that a capital sigma at the end of a word becomes the final
form, and that some characters expand into several; ASCII letters take a short cut.
-/

namespace Crowfoot.Text

/-! ## White space -/

/-- white space: controls 9-13 and 28-31, the next-line control, and every space or line separator -/
def isBlank (c : Char) : Bool :=
  let n := c.toNat
  (9 ≤ n && n ≤ 13) || (28 ≤ n && n ≤ 32) || n == 133 || n == 160 || n == 5760 ||
    (8192 ≤ n && n ≤ 8202) || n == 8232 || n == 8233 || n == 8239 || n == 8287 || n == 12288

/-- white space without the four information separators 28-31 -/
def isSpacing (c : Char) : Bool := isBlank c && !(28 ≤ c.toNat && c.toNat ≤ 31)

/-- drop the leading and the trailing characters of a class -/
def stripBoth (p : Char → Bool) (cs : List Char) : List Char :=
  ((cs.dropWhile p).reverse.dropWhile p).reverse

/-- the text without white space at its ends -/
def trim (s : String) : String := String.ofList (stripBoth isBlank s.toList)

/-- the maximal runs of characters outside the class, in order -/
def fields (p : Char → Bool) (cs : List Char) : List (List Char) :=
  (cs.splitOnP p).filter (· ≠ [])

/-- white space runs become single spaces, and the ends are trimmed -/
def collapseBlanks (s : String) : String :=
  " ".intercalate ((fields isBlank s.toList).map String.ofList)

/-- whether nothing but white space is in the text -/
def isAllBlank (s : String) : Bool := s.toList.all isBlank

/-! ## Letter case -/

/-- whether a code point lies in one of the ranges -/
def inRanges (ranges : List (Nat × Nat)) (n : Nat) : Bool :=
  ranges.any fun r => r.1 ≤ n && n ≤ r.2

/-- the code point a character moves to, or itself -/
def shifted (shifts : List Shift) (n : Nat) : Nat :=
  match shifts.find? fun s => s.lo ≤ n && n ≤ s.hi && (n - s.lo) % s.stride == 0 with
  | some s => (n + s.delta).toNat
  | none => n

/-- lower case of one character, taken alone -/
def lowerChar (c : Char) : Char :=
  if c.toNat < 128 then c.toLower else Char.ofNat (shifted lowerShifts c.toNat)

/-- upper case of one character -/
def upperChar (c : Char) : List Char :=
  if c.toNat < 128 then [c.toUpper]
  else
    match upperExpansions.lookup c.toNat with
    | some ns => ns.map Char.ofNat
    | none => [Char.ofNat (shifted upperShifts c.toNat)]

def isCased (c : Char) : Bool := inRanges casedRanges c.toNat

def isCaseIgnorable (c : Char) : Bool := inRanges ignorableRanges c.toNat

/-- whether the nearest character that is not ignorable is a cased one -/
def nextIsCased (cs : List Char) : Bool :=
  match cs.dropWhile isCaseIgnorable with
  | c :: _ => isCased c
  | [] => false

/-- lower case of the rest of a text; `before` holds what precedes it, nearest first -/
def lowerFrom (before : List Char) : List Char → List Char
  | [] => []
  | c :: rest =>
    let here :=
      if c = 'Σ' then [if nextIsCased before && !nextIsCased rest then 'ς' else 'σ']
      else if c = 'İ' then ['i', '\u0307']
      else [lowerChar c]
    here ++ lowerFrom (c :: before) rest

def lower (s : String) : String := String.ofList (lowerFrom [] s.toList)

def upper (s : String) : String := String.ofList (s.toList.flatMap upperChar)

/-! ## Words and digits -/

/-- letters, numbers and the underscore -/
def isWordChar (c : Char) : Bool :=
  if c.toNat < 128 then c.isAlphanum || c = '_' else inRanges alphanumericRanges c.toNat

/-- the value of a decimal digit of any script -/
def digitValue? (c : Char) : Option Nat :=
  if c.toNat < 128 then (if c.isDigit then some (c.toNat - 48) else none)
  else (decimalZeros.find? fun z => z ≤ c.toNat && c.toNat ≤ z + 9).map (c.toNat - ·)

/-! ## Texts between quotes -/

def isPrintable (c : Char) : Bool :=
  if c.toNat < 127 then 32 ≤ c.toNat else !inRanges unprintableRanges c.toNat

/-- hexadecimal digits in lower case, padded with zeros to a width -/
def hex (width n : Nat) : List Char :=
  let digits := Nat.toDigits 16 n
  List.replicate (width - digits.length) '0' ++ digits

/-- one character inside quotes -/
def quotedChar (quote c : Char) : List Char :=
  if c = quote || c = '\\' then ['\\', c]
  else if c = '\n' then ['\\', 'n']
  else if c = '\r' then ['\\', 'r']
  else if c = '\t' then ['\\', 't']
  else if isPrintable c then [c]
  else if c.toNat < 256 then '\\' :: 'x' :: hex 2 c.toNat
  else if c.toNat < 65536 then '\\' :: 'u' :: hex 4 c.toNat
  else '\\' :: 'U' :: hex 8 c.toNat

/-- the quote that needs no escape, single ones first -/
def quoteFor (cs : List Char) : Char :=
  if cs.contains '\'' && !cs.contains '"' then '"' else '\''

/-- the text between quotes -/
def quoted (s : String) : String :=
  let q := quoteFor s.toList
  String.ofList (q :: s.toList.flatMap (quotedChar q) ++ [q])

end Crowfoot.Text
