import Crowfoot.Ddl.Token

/-
Reading tokens. A parser takes tokens from the front of a list; it gives nothing where what it looks for is absent,
and fails where something that has been begun is not completed.
-/

namespace Crowfoot.Ddl

/-- a statement that cannot be read -/
inductive SyntaxFault where
  | unexpected
  deriving DecidableEq, Repr

abbrev Parser := StateT (List Token) (Except SyntaxFault)

namespace Parser

variable {α β : Type}

def fail : Parser α := fun _ => .error .unexpected

def peek? : Parser (Option Token) := fun ts => .ok (ts.head?, ts)

/-- the token after the next one -/
def second? : Parser (Option Token) := fun ts => .ok (ts[1]?, ts)

def atEnd : Parser Bool := fun ts => .ok (ts.isEmpty, ts)

def remaining : Parser Nat := fun ts => .ok (ts.length, ts)

/-- take the next token, whatever it is -/
def advance : Parser Unit := fun ts => .ok ((), ts.tail)

/-- take the next token if it passes a test -/
def take? (p : Token → Bool) : Parser (Option Token) := fun ts =>
  match ts with
  | t :: rest => if p t then .ok (some t, rest) else .ok (none, ts)
  | [] => .ok (none, [])

def takeIf (p : Token → Bool) : Parser Bool := do return (← take? p).isSome

/-- whether the next token passes a test -/
def sees (p : Token → Bool) : Parser Bool := fun ts => .ok (ts.head?.any p, ts)

def symbol (s : String) : Parser Bool := takeIf (·.isSymbol s)

def seesSymbol (s : String) : Parser Bool := sees (·.isSymbol s)

/-- a bare word -/
def word (w : String) : Parser Bool := takeIf (·.word == w)

def seesWord (w : String) : Parser Bool := sees (·.word == w)

/-- one of some words, quoted or not -/
def saying? (ws : List String) : Parser (Option String) := do
  return (← take? fun t => ws.contains t.spelled).map Token.spelled

/-- tokens that say these words one after another, or none of them -/
def phrase (ws : List String) : Parser Bool := fun ts =>
  if (ts.take ws.length).map Token.spelled == ws then .ok (true, ts.drop ws.length) else .ok (false, ts)

/-- the closing bracket of a group that has been begun -/
def close : Parser Unit := do if !(← symbol ")") then fail

def expectOpen : Parser Unit := do if !(← symbol "(") then fail

/-- what a parser gives, or failure -/
def demand (p : Parser (Option α)) : Parser α := do
  match ← p with
  | some a => return a
  | none => fail

/-- the first of two parsers that gives something -/
def orElse (p q : Parser (Option α)) : Parser (Option α) := do
  match ← p with
  | some a => return some a
  | none => q

/-- a parser that takes back what it took when it gives nothing -/
def restoring (p : Parser (Option α)) : Parser (Option α) := fun ts =>
  match p ts with
  | .ok (some a, rest) => .ok (some a, rest)
  | .ok (none, _) => .ok (none, ts)
  | .error e => .error e

/-- a parser that takes back what it took when it fails, and then gives nothing -/
def attempt (p : Parser (Option α)) : Parser (Option α) := fun ts =>
  match p ts with
  | .ok r => .ok r
  | .error _ => .ok (none, ts)

/-- repeat a step as long as it says so; every step takes a token, so the number of tokens bounds them -/
def loop (step : Parser Bool) : Parser Unit := do
  let rec go : Nat → Parser Unit
    | 0 => return ()
    | n + 1 => do if ← step then go n
  go ((← remaining) + 1)

/-- the results of a parser repeated until it gives nothing -/
def many (p : Parser (Option α)) : Parser (List α) := do
  let rec go : Nat → Parser (List α)
    | 0 => return []
    | n + 1 => do
      match ← p with
      | some a => return a :: (← go n)
      | none => return []
  go ((← remaining) + 1)

/-- items between commas; an item that is missing is passed over -/
def commaList (p : Parser (Option α)) : Parser (List α) := do
  let first ← p
  let rest ← many do
    if ← symbol "," then return some (← p) else return none
  return (first :: rest).reduceOption

/-- items between commas between brackets -/
def bracketList (p : Parser (Option α)) : Parser (List α) := do
  expectOpen
  let items ← commaList p
  close
  return items

/-- everything up to the bracket that closes the group, nested groups included -/
def skipGroup : Parser Unit := do
  let rec go : Nat → Nat → Parser Unit
    | 0, _ => fail
    | n + 1, depth => do
      match ← take? fun _ => true with
      | none => fail
      | some t =>
        if t.isSymbol "(" then go n (depth + 1)
        else if t.isSymbol ")" then (match depth with
          | 0 => return ()
          | depth + 1 => go n depth)
        else go n depth
  go ((← remaining) + 1) 0

/-- a group in brackets whose content does not matter, if there is one -/
def group : Parser Bool := do
  if ← symbol "(" then
    skipGroup
    return true
  else return false

/-- the rest of the statement, whose brackets must match -/
def skipRest : Parser Unit := loop do
  if ← group then return true
  else if ← seesSymbol ")" then fail
  else return (← take? fun _ => true).isSome

end Parser

/-! ## Names -/

/-- a name that stood between the quotes of another dialect loses them -/
def bareName (s : String) : String :=
  let cs := s.toList
  if 2 ≤ cs.length && cs.head? = some '\x60' && cs.getLast? = some '\x60' then String.ofList ((cs.drop 1).dropLast)
  else s

namespace Parser

/-- punctuation that is never a name, and the word that starts a query -/
def isBarred (t : Token) : Bool := t.kind = .symbol || t.word == "SELECT" || t.text == "\x60"

def isName (d : Dialect) (t : Token) : Bool := t.kind = .quoted || (t.kind = .word && !d.isReserved t.word)

/-- a name: between quotes, or a word that is not reserved -/
def name? (d : Dialect) : Parser (Option String) := do return (← take? (isName d)).map (·.text)

/-- a name in a place where any word, number or text counts as one -/
def anyName? (d : Dialect) : Parser (Option String) := do
  return (← take? fun t => !isBarred t || isName d t).map (·.text)

/-- a name or a text in the place of one -/
def nameOrText? (d : Dialect) : Parser (Option String) := do
  return (← take? fun t => isName d t || t.kind = .string).map (·.text)

/-- a bare word that means nothing in particular -/
def plainWord? (d : Dialect) : Parser (Option String) := do
  return (← take? fun t => t.kind = .word && !d.isReserved t.word && (d.typeNamed? t.word).isNone
    && !softWords.contains t.word).map (·.text)

end Parser

end Crowfoot.Ddl
