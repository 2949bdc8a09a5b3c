import Mathlib.Tactic
import Crowfoot.Decimal.Shortest
import Crowfoot.Decimal.Reading

/-
Unsigned decimal numerals: digits before the point, digits after it and a power of ten. What is printed and what is
read meet here: a numeral has a text and a value, and the text is read as the number nearest to the value.

- `isWritable_iff`: integers with few enough digits are those below a power of ten. `isWritable_pow`: it is too large;
- `readUnsigned?_eq`: the parts of a text are read one after the other;
- `Numeral.readUnsigned?_text`, `Numeral.readFloat?_text`: reading the text of a numeral, without and with a sign.
-/

namespace Crowfoot.Decimal

/-! ## Digits -/

theorem natOfDigits_append (ds es : List Char) :
    natOfDigits (ds ++ es) = natOfDigits ds * 10 ^ es.length + natOfDigits es := by
  have happend : natOfDigits (ds ++ es) = Nat.ofDigitChars 10 es (natOfDigits ds) := Nat.ofDigitChars_append 0
  rw [happend, Nat.ofDigitChars_eq_ofDigitChars_zero, mul_comm]
  rfl

theorem natOfDigits_zeros (n : Nat) : natOfDigits (List.replicate n '0') = 0 :=
  (Nat.ofDigitChars_replicate_zero : Nat.ofDigitChars 10 _ 0 = _)

theorem natOfDigits_toDigits (n : Nat) : natOfDigits (Nat.toDigits 10 n) = n := Nat.ofDigitChars_ten_toDigits

theorem isDigit_of_mem_toDigits {n : Nat} {c : Char} (h : c ∈ Nat.toDigits 10 n) : c.isDigit :=
  Nat.isDigit_of_mem_toDigits (by decide) (by decide) h

theorem isWritable_iff {n : Int} : isWritable n ↔ n.natAbs < 10 ^ digitLimit :=
  decide_eq_true_iff.trans (Nat.length_toDigits_le_iff (by decide) (by decide))

/-- the smallest number with too many digits -/
theorem isWritable_pow : isWritable (10 ^ digitLimit) = false := by
  have hbase : (10 : Int).natAbs = 10 := rfl
  rw [Bool.eq_false_iff, ne_eq, isWritable_iff, Int.natAbs_pow, hbase]
  exact Nat.lt_irrefl _

/-- nothing follows that would go on with a run of digits -/
def NoDigit (rest : List Char) : Prop := ∀ c ∈ rest.head?, c.isDigit = false

theorem NoDigit.nil : NoDigit [] := by
  intro c h
  cases h

theorem NoDigit.cons {c : Char} (h : c.isDigit = false) (rest : List Char) : NoDigit (c :: rest) := by
  intro d hd
  cases hd
  exact h

theorem NoDigit.takeWhile {rest : List Char} (h : NoDigit rest) : rest.takeWhile Char.isDigit = [] := by
  cases rest with
  | nil => rfl
  | cons c rest => simp [h c rfl]

theorem NoDigit.dropWhile {rest : List Char} (h : NoDigit rest) : rest.dropWhile Char.isDigit = rest := by
  cases rest with
  | nil => rfl
  | cons c rest => simp [h c rfl]

theorem takeWhile_digits {ds rest : List Char} (hds : ∀ c ∈ ds, c.isDigit) (hrest : NoDigit rest) :
    (ds ++ rest).takeWhile Char.isDigit = ds := by
  rw [List.takeWhile_append_of_pos hds, hrest.takeWhile, List.append_nil]

theorem dropWhile_digits {ds rest : List Char} (hds : ∀ c ∈ ds, c.isDigit) (hrest : NoDigit rest) :
    (ds ++ rest).dropWhile Char.isDigit = rest := by
  rw [List.dropWhile_append_of_pos hds, hrest.dropWhile]

/-! ## Numerals -/

/-- a power of ten: whether it is negative, and its digits -/
structure Power where
  down : Bool
  digits : List Char
  digits_ne : digits ≠ []
  digits_all : ∀ c ∈ digits, c.isDigit

def Power.text (p : Power) : List Char := 'e' :: (if p.down then '-' else '+') :: p.digits

def Power.exponent (p : Power) : Int := if p.down then -natOfDigits p.digits else natOfDigits p.digits

/-- a number without its sign, as it is written -/
structure Numeral where
  /-- the digits before the point; a zero only stands there alone -/
  whole : List Char
  /-- the digits after the point, and there is no point without them -/
  places : List Char
  power? : Option Power
  whole_ne : whole ≠ []
  whole_all : ∀ c ∈ whole, c.isDigit
  whole_plain : whole = ['0'] ∨ whole.head? ≠ some '0'
  places_all : ∀ c ∈ places, c.isDigit

namespace Numeral

variable (n : Numeral)

/-- the point and the digits after it -/
def pointText : List Char := if n.places = [] then [] else '.' :: n.places

def powerText : List Char := (n.power?.map Power.text).getD []

def text : List Char := n.whole ++ (n.pointText ++ n.powerText)

/-- all digits as one number -/
def digits : Nat := natOfDigits (n.whole ++ n.places)

/-- the power of ten of the last digit -/
def exponent : Int := (n.power?.map Power.exponent).getD 0 - n.places.length

/-- the number that is meant -/
def value : ℚ := n.digits * 10 ^ n.exponent

/-- there is a point or a power, so the numeral is not that of an integer -/
def Fractional : Prop := n.places ≠ [] ∨ n.power? ≠ none

theorem noDigit_powerText {rest : List Char} (hrest : NoDigit rest) : NoDigit (n.powerText ++ rest) := by
  unfold powerText
  cases n.power? with
  | none => exact hrest
  | some p => exact NoDigit.cons (by decide) _

theorem noDigit_pointText {rest : List Char} (hrest : NoDigit rest) :
    NoDigit (n.pointText ++ (n.powerText ++ rest)) := by
  unfold pointText
  split_ifs with hplaces
  · exact n.noDigit_powerText hrest
  · exact NoDigit.cons (by decide) _

end Numeral

/-! ## Reading -/

/-- a text behind its sign -/
def signed (negative : Bool) (body : List Char) : List Char := if negative then '-' :: body else body

theorem signed_append (negative : Bool) (body rest : List Char) :
    signed negative body ++ rest = signed negative (body ++ rest) := by
  cases negative <;> rfl

/-- the digits after a point, when there is one, and what follows them -/
def splitPoint : List Char → List Char × List Char
  | '.' :: rest => (rest.takeWhile Char.isDigit, rest.dropWhile Char.isDigit)
  | rest => ([], rest)

/-- the power of ten that the rest of a numeral stands for -/
def readPower? : List Char → Option Int
  | [] => some 0
  | c :: rest =>
    if c = 'e' || c = 'E' then
      let (down, ds) := takeSign rest
      if ds.isEmpty || !ds.all Char.isDigit then none
      else
        let e : Int := natOfDigits ds
        some (if down then -e else e)
    else none

/-- the three parts of a numeral are read one after the other -/
theorem readUnsigned?_eq (negative : Bool) (cs : List Char) :
    readUnsigned? negative cs =
      let whole := cs.takeWhile Char.isDigit
      let (places, tail) := splitPoint (cs.dropWhile Char.isDigit)
      if whole.isEmpty && places.isEmpty then none
      else (readPower? tail).map fun e => nearest negative (natOfDigits (whole ++ places)) (e - places.length) := by
  unfold readUnsigned?
  extract_lets whole afterWhole
  split
  next places tail hsplit =>
  have hparts : splitPoint afterWhole = (places, tail) := hsplit
  rw [hparts]
  unfold readPower?
  cases tail with
  | nil => simp
  | cons c rest =>
    dsimp only
    split_ifs <;> rfl

theorem readPower?_text (p : Power) : readPower? p.text = some p.exponent := by
  have hsign : takeSign ((if p.down then '-' else '+') :: p.digits) = (p.down, p.digits) := by
    cases p.down <;> rfl
  have hall : p.digits.all Char.isDigit := List.all_eq_true.2 p.digits_all
  simp [Power.text, readPower?, hsign, p.digits_ne, hall, Power.exponent]

theorem toLower_digit {c : Char} (h : c.isDigit) : c.toLower = c := by
  have hbound : c.val ≤ '9'.val := by
    simp only [Char.isDigit, Bool.and_eq_true, decide_eq_true_eq] at h
    exact h.2
  refine dif_neg fun hupper => ?_
  exact absurd (UInt32.le_trans hupper.1 hbound) (by decide : ¬ 'A'.val ≤ '9'.val)

namespace Numeral

variable (n : Numeral)

theorem readPower?_powerText : readPower? n.powerText = some ((n.power?.map Power.exponent).getD 0) := by
  unfold powerText
  cases n.power? with
  | none => rfl
  | some p => exact readPower?_text p

theorem head?_powerText {rest : List Char} (hrest : rest.head? ≠ some '.') :
    (n.powerText ++ rest).head? ≠ some '.' := by
  unfold powerText
  cases n.power? with
  | none => exact hrest
  | some p => simp [Power.text]

theorem splitPoint_pointText {rest : List Char} (hrest : NoDigit rest) (hpoint : rest.head? ≠ some '.') :
    splitPoint (n.pointText ++ rest) = (n.places, rest) := by
  unfold pointText
  split_ifs with hplaces
  · rw [hplaces, List.nil_append]
    unfold splitPoint
    split
    · simp at hpoint
    · rfl
  · rw [List.cons_append, splitPoint, takeWhile_digits n.places_all hrest, dropWhile_digits n.places_all hrest]

/-- **Reading a numeral.** The text stands for the number nearest to the value. -/
theorem readUnsigned?_text (negative : Bool) :
    readUnsigned? negative n.text = some (nearest negative n.digits n.exponent) := by
  have hpower : NoDigit n.powerText := by simpa using n.noDigit_powerText NoDigit.nil
  have htail : NoDigit (n.pointText ++ n.powerText) := by simpa using n.noDigit_pointText NoDigit.nil
  have hend : ([] : List Char).head? ≠ some '.' := nofun
  have hpoint : n.powerText.head? ≠ some '.' := by simpa using n.head?_powerText hend
  rw [readUnsigned?_eq, text, takeWhile_digits n.whole_all htail, dropWhile_digits n.whole_all htail,
    n.splitPoint_pointText hpower hpoint]
  simp [n.readPower?_powerText, n.whole_ne, digits, exponent]

theorem exists_text_eq : ∃ c cs, n.text = c :: cs ∧ c.isDigit := by
  obtain ⟨c, cs, hwhole⟩ := List.exists_cons_of_ne_nil n.whole_ne
  exact ⟨c, cs ++ (n.pointText ++ n.powerText), by rw [text, hwhole, List.cons_append],
    n.whole_all c (hwhole ▸ List.mem_cons_self)⟩

/-- a sign in front decides on the sign of the number, and no numeral is one of the words -/
theorem readFloat?_text (negative : Bool) :
    readFloat? (signed negative n.text) = some (nearest negative n.digits n.exponent) := by
  obtain ⟨c, cs, htext, hc⟩ := n.exists_text_eq
  have hsign : takeSign (signed negative n.text) = (negative, n.text) := by
    cases negative with
    | true => rfl
    | false =>
      rw [signed, htext]
      unfold takeSign
      split
      all_goals simp_all
  have hword : ∀ (word : String) {d : Char} {ds : List Char}, word.toList = d :: ds → d.isDigit = false →
      String.ofList (n.text.map Char.toLower) ≠ word := by
    rintro _ d ds hword hd rfl
    rw [String.toList_ofList, htext, List.map_cons, toLower_digit hc] at hword
    rw [(List.cons.inj hword).1, hd] at hc
    exact Bool.false_ne_true hc
  unfold readFloat?
  rw [hsign]
  dsimp only
  rw [if_neg, if_neg, n.readUnsigned?_text]
  · exact hword "nan" rfl rfl
  · exact not_or.2 ⟨hword "inf" rfl rfl, hword "infinity" rfl rfl⟩

end Numeral

end Crowfoot.Decimal
