import Crowfoot.Json.Reader
import Crowfoot.Json.Writer
import Crowfoot.Proofs.Decimal.Nearest

/-
Numbers in JSON texts. An integer is written without point and exponent and read with all its digits; a floating point
number always has one of the two, or is one of the three words.

- `readNumber_int`: an integer that can be written is read back;
- `readNumber_text`: a numeral is read as the number nearest to it;
- `readPlain_float`: so every floating point number is read back.
-/

namespace Crowfoot.Json

open Decimal

/-- what may follow a number: nothing that would go on with it -/
def Ends (rest : List Char) : Prop := ∀ c ∈ rest.head?, c.isDigit = false ∧ c ≠ '.' ∧ c ≠ 'e' ∧ c ≠ 'E'

theorem Ends.nil : Ends [] := nofun

theorem Ends.noDigit {rest : List Char} (h : Ends rest) : NoDigit rest := fun c hc => (h c hc).1

theorem Ends.head?_ne_point {rest : List Char} (h : Ends rest) : rest.head? ≠ some '.' :=
  fun hdot => (h '.' hdot).2.1 rfl

/-! ## The parts of a number -/

theorem wholePart_append {whole tail : List Char} (hne : whole ≠ []) (hall : ∀ c ∈ whole, c.isDigit)
    (hplain : whole = ['0'] ∨ whole.head? ≠ some '0') (htail : NoDigit tail) :
    wholePart (whole ++ tail) = (whole, tail) := by
  obtain ⟨c, cs, rfl⟩ := List.exists_cons_of_ne_nil hne
  rcases hplain with hzero | hhead
  · cases hzero
    rfl
  · have hc : c ≠ '0' := by simpa using hhead
    have htake := takeWhile_digits hall htail
    have hdrop := dropWhile_digits hall htail
    rw [List.cons_append] at htake hdrop ⊢
    unfold wholePart
    split
    · simp_all
    · rw [htake, hdrop]

theorem fractionPart_ends {rest : List Char} (h : rest.head? ≠ some '.') : fractionPart rest = ([], rest) := by
  unfold fractionPart
  split
  · simp at h
  · rfl

theorem exponentPart_ends {rest : List Char} (h : Ends rest) : exponentPart rest = ([], rest) := by
  cases rest with
  | nil => rfl
  | cons c rest =>
    obtain ⟨-, -, he, hE⟩ := h c rfl
    simp [exponentPart, he, hE]

theorem fractionPart_pointText (n : Numeral) {tail : List Char} (htail : NoDigit tail)
    (hpoint : tail.head? ≠ some '.') : fractionPart (n.pointText ++ tail) = (n.pointText, tail) := by
  unfold Numeral.pointText
  split_ifs with hplaces
  · exact fractionPart_ends hpoint
  · simp [fractionPart, takeWhile_digits n.places_all htail, dropWhile_digits n.places_all htail, hplaces]

theorem exponentPart_powerText (n : Numeral) {rest : List Char} (h : Ends rest) :
    exponentPart (n.powerText ++ rest) = (n.powerText, rest) := by
  unfold Numeral.powerText
  cases n.power? with
  | none => exact exponentPart_ends h
  | some p =>
    have htake := takeWhile_digits p.digits_all h.noDigit
    have hdrop := dropWhile_digits p.digits_all h.noDigit
    cases hdown : p.down <;> simp [Power.text, exponentPart, hdown, htake, hdrop, p.digits_ne]

/-! ## Numbers -/

/-- the sign is taken off first -/
theorem minus_signed (negative : Bool) {body : List Char} (hsign : body.head? ≠ some '-') :
    (match signed negative body with
      | '-' :: rest => (true, rest)
      | _ => (false, signed negative body)) = (negative, body) := by
  cases negative with
  | true => rfl
  | false =>
    unfold signed
    split
    next h => simp_all
    next => rfl

/-- the parts of a number are read one after the other -/
theorem readNumber_eq (negative : Bool) {body whole places power afterWhole afterPlaces rest : List Char}
    (hsign : body.head? ≠ some '-') (hwhole : wholePart body = (whole, afterWhole)) (hne : whole ≠ [])
    (hplaces : fractionPart afterWhole = (places, afterPlaces)) (hpower : exponentPart afterPlaces = (power, rest)) :
    readNumber (signed negative body) =
      if places.isEmpty && power.isEmpty then
        if digitLimit < whole.length then .error (.overlong (.read whole.length))
        else .ok (.int (if negative then -(natOfDigits whole : Int) else natOfDigits whole), rest)
      else
        match readUnsigned? negative (whole ++ places ++ power) with
        | some x => .ok (.float x, rest)
        | none => fault .expectedValue (signed negative body) := by
  unfold readNumber
  split
  next negative' body' h =>
  cases (minus_signed negative hsign).symm.trans h
  simp only [hwhole, hplaces, hpower]
  exact if_neg (by simpa using hne)

theorem head?_ne_minus {ds tail : List Char} (hne : ds ≠ []) (hall : ∀ c ∈ ds, c.isDigit) :
    (ds ++ tail).head? ≠ some '-' := by
  obtain ⟨d, ds, rfl⟩ := List.exists_cons_of_ne_nil hne
  intro hminus
  have hd := hall d List.mem_cons_self
  cases hminus
  exact absurd hd (by decide)

theorem toList_toString (i : Int) : (toString i).toList = signed (decide (i < 0)) (Nat.toDigits 10 i.natAbs) := by
  cases i with
  | ofNat n =>
    change n.repr.toList = _
    rw [Nat.toList_repr]
    rfl
  | negSucc n =>
    change ("-" ++ (n + 1).repr).toList = _
    rw [String.toList_append, Nat.toList_repr]
    simp [signed, Int.negSucc_lt_zero]

/-- **Integers.** Every integer that can be written is read back. -/
theorem readNumber_int {i : Int} (hi : Decimal.isWritable i) {rest : List Char} (h : Ends rest) :
    readNumber ((toString i).toList ++ rest) = .ok (.int i, rest) := by
  have hall : ∀ c ∈ Nat.toDigits 10 i.natAbs, c.isDigit := fun c hc => isDigit_of_mem_toDigits hc
  have hplain : Nat.toDigits 10 i.natAbs = ['0'] ∨ (Nat.toDigits 10 i.natAbs).head? ≠ some '0' := by
    rcases Nat.eq_zero_or_pos i.natAbs with hzero | hpos
    · exact .inl (by rw [hzero, Nat.toDigits_zero])
    · exact .inr (head?_toDigits hpos)
  have hwhole := wholePart_append Nat.toDigits_ne_nil hall hplain h.noDigit
  have hread := readNumber_eq (decide (i < 0)) (head?_ne_minus Nat.toDigits_ne_nil hall) hwhole
    Nat.toDigits_ne_nil (fractionPart_ends h.head?_ne_point) (exponentPart_ends h)
  have hvalue : (if decide (i < 0) then -(i.natAbs : Int) else i.natAbs) = i := by
    simp only [decide_eq_true_eq]
    split_ifs <;> omega
  have hlength : ¬ digitLimit < (Nat.toDigits 10 i.natAbs).length := Nat.not_lt.2 (of_decide_eq_true hi)
  rw [natOfDigits_toDigits, if_neg hlength] at hread
  rw [toList_toString, signed_append, hread, hvalue]
  rfl

/-- **Numerals.** A numeral with a point or a power is read as the number nearest to it. -/
theorem readNumber_text (n : Numeral) (hn : n.Fractional) (negative : Bool) {rest : List Char} (h : Ends rest) :
    readNumber (signed negative n.text ++ rest) = .ok (.float (nearest negative n.digits n.exponent), rest) := by
  have htext : n.text ++ rest = n.whole ++ (n.pointText ++ (n.powerText ++ rest)) := by
    simp only [Numeral.text, List.append_assoc]
  have hpoint := n.head?_powerText h.head?_ne_point
  have hwhole := wholePart_append n.whole_ne n.whole_all n.whole_plain (n.noDigit_pointText h.noDigit)
  have hread := readNumber_eq negative (head?_ne_minus n.whole_ne n.whole_all) hwhole n.whole_ne
    (fractionPart_pointText n (n.noDigit_powerText h.noDigit) hpoint) (exponentPart_powerText n h)
  have hnumeral : (n.pointText.isEmpty && n.powerText.isEmpty) = false := by
    rw [Bool.and_eq_false_iff]
    refine hn.imp (fun hplaces => ?_) (fun hpower => ?_)
    · rw [Numeral.pointText, if_neg hplaces]
      rfl
    · obtain ⟨p, hp⟩ := Option.ne_none_iff_exists'.1 hpower
      rw [Numeral.powerText, hp]
      rfl
  rw [signed_append, htext, hread, hnumeral, List.append_assoc, ← Numeral.text, n.readUnsigned?_text]
  rfl

/-! ## Words and numbers -/

/-- how words and numbers start, and nothing else -/
def Plain (cs : List Char) : Prop := ∃ c rest, cs = c :: rest ∧ (c.isAlphanum ∨ c = '-')

theorem Plain.append {cs : List Char} (h : Plain cs) (rest : List Char) : Plain (cs ++ rest) := by
  obtain ⟨c, cs', rfl, hc⟩ := h
  exact ⟨c, cs' ++ rest, rfl, hc⟩

theorem Plain.head_ne {cs : List Char} (h : Plain cs) {d : Char} (hd : (d.isAlphanum || d = '-') = false) :
    cs.head? ≠ some d := by
  obtain ⟨c, cs', rfl, hc⟩ := h
  intro heq
  cases heq
  simp_all

theorem plain_signed (negative : Bool) {d : Char} (hd : d.isDigit) (ds : List Char) :
    Plain (signed negative (d :: ds)) := by
  cases negative with
  | true => exact ⟨'-', _, rfl, .inr rfl⟩
  | false => exact ⟨d, ds, rfl, .inl (by simp [Char.isAlphanum, hd])⟩

theorem exists_toString_eq (i : Int) :
    ∃ negative d ds, (toString i).toList = signed negative (d :: ds) ∧ d.isDigit := by
  obtain ⟨d, ds, hds⟩ := List.exists_cons_of_ne_nil (Nat.toDigits_ne_nil (b := 10) (n := i.natAbs))
  exact ⟨_, d, ds, by rw [toList_toString, hds], isDigit_of_mem_toDigits (hds ▸ List.mem_cons_self)⟩

theorem plain_int (i : Int) : Plain (toString i).toList := by
  obtain ⟨negative, d, ds, htext, hd⟩ := exists_toString_eq i
  rw [htext]
  exact plain_signed negative hd ds

theorem plain_float (x : Float) : Plain (numberText x) := by
  unfold numberText
  cases hdouble : Double.ofFloat x with
  | nan => exact ⟨'N', _, by simp only [render, hdouble]; rfl, .inl rfl⟩
  | infinite negative =>
    cases negative with
    | true => exact ⟨'-', _, by simp only [render, hdouble]; rfl, .inr rfl⟩
    | false => exact ⟨'I', _, by simp only [render, hdouble]; rfl, .inl rfl⟩
  | finite negative m e =>
    obtain ⟨n, -, htext, -⟩ := exists_numeral hdouble
    obtain ⟨d, ds, hds, hd⟩ := n.exists_text_eq
    rw [htext, hds]
    exact plain_signed negative hd ds

theorem readValue_plain (fuel : Nat) {cs : List Char} (hcs : Plain cs) {r : Json × List Char}
    (h : readPlain cs = .ok r) : readValue (fuel + 1) cs = .ok r := by
  rw [readValue]
  · exact h
  all_goals
    rintro rest rfl
    exact hcs.head_ne (by decide) rfl

/-- no number starts like a word -/
theorem readWord?_signed (negative : Bool) {d : Char} (hd : d.isDigit) (cs : List Char) :
    readWord? (signed negative (d :: cs)) = none := by
  have hletter : ∀ c : Char, c.isDigit = false → (c == d) = false := by
    intro c hc
    rw [beq_eq_false_iff_ne]
    rintro rfl
    simp [hc] at hd
  have hn := hletter 'n' (by decide)
  have ht := hletter 't' (by decide)
  have hf := hletter 'f' (by decide)
  have hN := hletter 'N' (by decide)
  have hI := hletter 'I' (by decide)
  have hminus := hletter '-' (by decide)
  cases negative <;> simp [readWord?, signed, List.isPrefixOf, hn, ht, hf, hN, hI, hminus]

theorem readPlain_int {i : Int} (hi : Decimal.isWritable i) {rest : List Char} (h : Ends rest) :
    readPlain ((toString i).toList ++ rest) = .ok (.int i, rest) := by
  obtain ⟨negative, d, ds, htext, hd⟩ := exists_toString_eq i
  have hword : readWord? ((toString i).toList ++ rest) = none := by
    rw [htext, signed_append]
    exact readWord?_signed negative hd _
  rw [readPlain, hword]
  exact readNumber_int hi h

theorem readPlain_float (x : Float) {rest : List Char} (h : Ends rest) :
    readPlain (numberText x ++ rest) = .ok (.float x, rest) := by
  have hx := readFloat?_render x
  unfold numberText
  cases hdouble : Double.ofFloat x with
  | nan =>
    simp only [render, hdouble] at hx ⊢
    cases hx
    rfl
  | infinite negative =>
    simp only [render, hdouble] at hx ⊢
    cases negative <;>
    · cases hx
      rfl
  | finite negative m e =>
    obtain ⟨n, hn, htext, -⟩ := exists_numeral hdouble
    obtain ⟨d, ds, hds, hd⟩ := n.exists_text_eq
    have hword : readWord? (signed negative n.text ++ rest) = none := by
      rw [hds, signed_append]
      exact readWord?_signed negative hd _
    rw [htext, n.readFloat?_text] at hx
    rw [htext, readPlain, hword]
    exact (readNumber_text n hn negative h).trans (by rw [Option.some.inj hx])

end Crowfoot.Json
