import Crowfoot.Ddl.Token
import Crowfoot.Text.Basic

/-
From SQL text to tokens. Space and comments stand between tokens and are dropped. Every step takes at least one
character, so the length of the text bounds the number of steps.
-/

namespace Crowfoot.Ddl

/-- a quote, a comment or a text between dollars that does not end -/
inductive LexFault where
  | unterminated
  deriving DecidableEq, Repr

namespace Lexer

/-! ## Characters -/

/-- characters that end a bare word -/
def isPunctuation (c : Char) : Bool := "()[]\x7b\x7d&^:,-./\\=><+%!|;*~?@#'`\"".toList.contains c

/-- the closing quote of a quoted name, for a character that opens one -/
def nameCloser? (d : Dialect) (c : Char) : Option Char :=
  match d, c with
  | .mysql, '\x60' => some '\x60'
  | .mysql, _ => none
  | _, '"' => some '"'
  | .sqlite, '\x60' => some '\x60'
  | .sqlite, '[' => some ']'
  | _, _ => none

def isStringQuote (d : Dialect) (c : Char) : Bool := c = '\'' || (d = .mysql && c = '"')

/-- characters that may follow a backslash inside a text and keep it -/
def keepsBackslash (c : Char) : Bool := "0bnrtZ%_".toList.contains c

/-! ## Texts -/

/-- the rest of a text between quotes, and how many characters it took; a backslash may escape what follows it -/
def readString? (escapes : Bool) (quote : Char) : List Char → Option (List Char × Nat)
  | [] => none
  | c :: rest =>
    if c = quote then
      match rest with
      | [] => some ([], 1)
      | c' :: rest' =>
        if c' = quote then (readString? escapes quote rest').map fun r => (quote :: r.1, r.2 + 2)
        else some ([], 1)
    else if c = '\\' && escapes then
      match rest with
      | [] => none
      | c' :: rest' =>
        let kept := if keepsBackslash c' then [c, c'] else [c']
        (readString? escapes quote rest').map fun r => (kept ++ r.1, r.2 + 2)
    else (readString? escapes quote rest).map fun r => (c :: r.1, r.2 + 1)

/-- how many characters a comment takes up to the end of its line -/
def lineLength (cs : List Char) : Nat := (cs.takeWhile fun c => c ≠ '\n' && c ≠ '\r').length

/-- how many characters are left of a comment, its end included; comments may nest in one dialect only -/
def blockLength? (nested : Bool) : Nat → List Char → Option Nat
  | _, [] => none
  | depth, '*' :: '/' :: rest => if depth = 0 then some 2 else (blockLength? nested (depth - 1) rest).map (· + 2)
  | depth, '/' :: '*' :: rest =>
    if nested then (blockLength? nested (depth + 1) rest).map (· + 2)
    else (blockLength? nested depth ('*' :: rest)).map (· + 1)
  | depth, _ :: rest => (blockLength? nested depth rest).map (· + 1)

/-- the tag between the two dollars that open a text between dollars -/
def dollarTag? (cs : List Char) : Option (List Char) :=
  let tag := cs.takeWhile (· ≠ '$')
  match cs.drop tag.length with
  | '$' :: _ => if tag.any (fun c => !Text.isWordChar c) then none else some tag
  | _ => none

/-- how many characters come before a closing text -/
def lengthBefore? (closing : List Char) : List Char → Option Nat
  | [] => none
  | c :: rest => if closing.isPrefixOf (c :: rest) then some 0 else (lengthBefore? closing rest).map (· + 1)

/-! ## Words and operators -/

/-- a match under way against a list of spellings: what may still follow, what was matched last and how far -/
structure Matching where
  suffixes : List (List Char)
  matched : Option Nat
  length : Nat
  afterSpace : Bool
  sawPunctuation : Bool
  atEnd : Bool

/-- follow the spellings as far as the text goes along with them; runs of space count as one space -/
def follow (spelled : List Char) : List Char → Matching → Option (List Char × Matching)
  | [], m => (m.matched).map fun _ => (spelled, { m with atEnd := true })
  | c :: rest, m =>
    let blank := Text.isBlank c
    if blank && m.afterSpace then follow spelled rest { m with length := m.length + 1 }
    else
      let c' := if blank then ' ' else c
      let saw := m.sawPunctuation || isPunctuation c
      let key := Text.upperChar c'
      let suffixes := m.suffixes.filterMap fun s => if key.isPrefixOf s then some (s.drop key.length) else none
      if suffixes.isEmpty then
        m.matched.map fun _ => (spelled, { m with afterSpace := blank, sawPunctuation := saw })
      else
        let length := m.length + 1
        let complete := suffixes.any List.isEmpty
        let m' := Matching.mk suffixes (if complete then some length else m.matched) length blank saw false
        follow (if complete then spelled ++ [c'] else spelled) rest m'

/-- the longest spelling that the text starts with, when a word or an operator may end there -/
def longest? (spellings : List (List Char)) (cs : List Char) : Option Nat :=
  match follow [] cs ⟨spellings, none, 0, false, false, false⟩ with
  | some (_, m) => if m.afterSpace || m.sawPunctuation || m.atEnd then m.matched else none
  | none => none

/-- the spellings of operators and of groups of words -/
def spellings (d : Dialect) : List (List Char) := (operators d ++ wordGroups d).map String.toList

/-- the prefixes of literals that look like texts -/
def literalPrefixes : Dialect → List Char
  | .postgres => ['n', 'N', 'b', 'B', 'x', 'X', 'e', 'E']
  | .mysql => ['n', 'N', 'b', 'B', 'x', 'X']
  | .sqlite => ['n', 'N', 'x', 'X']

/-- how many characters a number takes -/
def numberLength (cs : List Char) : Nat :=
  let rec go : Bool → Nat → List Char → Nat
    | _, _, [] => 0
    | point, power, c :: rest =>
      if c.isDigit then go point power rest + 1
      else if c = '.' && !point then go true power rest + 1
      else if (c = '-' || c = '+') && power = 1 then go point 2 rest + 1
      else if (c = 'e' || c = 'E') && power = 0 then go point 1 rest + 1
      else 0
  go false 0 cs

/-- how many characters a bare word takes -/
def wordLength (cs : List Char) : Nat := (cs.takeWhile fun c => !Text.isBlank c && !isPunctuation c).length

/-- the digits after a letter that says in which base a number is written, if a text starts that way -/
def basedDigits? (d : Dialect) (cs : List Char) : Option (Char → Bool) :=
  match cs with
  | '0' :: c :: _ =>
    if c = 'x' || c = 'X' then some fun c => c.isDigit || ('a' ≤ c.toLower && c.toLower ≤ 'f')
    else if (c = 'b' || c = 'B') && d ≠ .sqlite then some fun c => c = '0' || c = '1'
    else none
  | _ => none

/-! ## Tokens -/

/-- a token of some characters at a place, and how many characters it takes -/
def tokenAt (place : Nat) (kind : TokenKind) (text : List Char) (n : Nat) : Option Token × Nat :=
  (some ⟨kind, String.ofList text, place, place + n⟩, n)

/-- a number; digits that run on into letters are a word in one dialect, and what only looks like a number in another
base is a quoted name -/
def numeral (d : Dialect) (place : Nat) (cs : List Char) : Option Token × Nat :=
  match basedDigits? d cs with
  | some isDigit =>
    let written := cs.take (wordLength cs)
    let digits := written.drop 2
    tokenAt place (if !digits.isEmpty && digits.all isDigit then .literal else .quoted) written written.length
  | none =>
    let n := max 1 (numberLength cs)
    let more := wordLength (cs.drop n)
    if d = .mysql && 0 < more && !(cs.drop n).head?.any Char.isDigit then
      tokenAt place .word (cs.take (n + more)) (n + more)
    else tokenAt place .number (cs.take n) n

/-- the next token of a text that starts with no space, or none for a comment, and how many characters it takes -/
def next (d : Dialect) (place : Nat) (c : Char) (rest : List Char) : Except LexFault (Option Token × Nat) :=
  let cs := c :: rest
  let token (kind : TokenKind) (text : List Char) (n : Nat) : Except LexFault (Option Token × Nat) :=
    .ok (tokenAt place kind text n)
  if c.isDigit then .ok (numeral d place cs)
  else
    match nameCloser? d c with
    | some closer =>
      match readQuoted? closer rest with
      | some (name, after) => token .quoted name (cs.length - after.length)
      | none => .error .unterminated
    | none =>
      if isStringQuote d c then
        match readString? (d = .mysql) c rest with
        | some (text, n) => token .string text (n + 1)
        | none => .error .unterminated
      else if ['-', '-'].isPrefixOf cs || (d = .mysql && c = '#') then .ok (none, lineLength cs)
      else if ['/', '*'].isPrefixOf cs then
        match blockLength? (d = .postgres) 0 (rest.drop 1) with
        | some n => .ok (none, n + 2)
        | none => .error .unterminated
      else if (literalPrefixes d).contains c && rest.head? = some '\'' then
        match readString? (d = .mysql || c = 'e' || c = 'E') '\'' (rest.drop 1) with
        | some (text, n) => token .literal text (n + 2)
        | none => .error .unterminated
      else
        match longest? (spellings d) cs with
        | some n =>
          if isPunctuation c then token .symbol (cs.take n) n
          else token .word (Text.collapseBlanks (Text.upper (String.ofList (cs.take n)))).toList n
        | none =>
          if c = '$' && d = .postgres then
            match dollarTag? rest with
            | some tag =>
              let closing := '$' :: tag ++ ['$']
              match lengthBefore? closing (cs.drop closing.length) with
              | some n => token .literal ((cs.drop closing.length).take n) (n + 2 * closing.length)
              | none => .error .unterminated
            | none => token .symbol [c] 1
          else if c = '\x60' then token .word [c] 1
          else if isPunctuation c then token .symbol [c] 1
          else token .word (cs.take (wordLength cs)) (wordLength cs)

/-- the tokens of a text from a place on -/
def tokensFrom (d : Dialect) : Nat → Nat → List Char → Except LexFault (List Token)
  | 0, _, _ => .ok []
  | _ + 1, _, [] => .ok []
  | fuel + 1, place, c :: rest =>
    if Text.isBlank c then tokensFrom d fuel (place + 1) rest
    else do
      let (token, n) ← next d place c rest
      let tokens ← tokensFrom d fuel (place + max 1 n) (rest.drop (n - 1))
      return match token with
        | some t => t :: tokens
        | none => tokens

end Lexer

def tokens (d : Dialect) (text : String) : Except LexFault (List Token) :=
  Lexer.tokensFrom d (text.length + 1) 0 text.toList

end Crowfoot.Ddl
