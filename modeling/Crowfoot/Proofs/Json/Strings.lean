import Mathlib.Tactic
import Crowfoot.Json.Reader
import Crowfoot.Json.Writer

/-
Strings in JSON texts. Every character is written so that reading takes exactly its escape and gives the character
back, one outside the basic plane as a pair of surrogates; so a string is read back whatever it contains.

- `readString_escapedChar`: one character, with what follows it left alone;
- `readQuoted_flatMap`: a whole string between its quotes.
-/

namespace Crowfoot.Json

/-! ## Hexadecimal digits -/

theorem hex_succ {width : Nat} (h : 0 < width) (n : Nat) :
    Text.hex (width + 1) n = Text.hex width (n / 16) ++ [Nat.digitChar (n % 16)] := by
  unfold Text.hex
  by_cases hn : n < 16
  · rw [Nat.toDigits_of_lt_base hn, Nat.div_eq_of_lt hn, Nat.mod_eq_of_lt hn, Nat.toDigits_zero]
    obtain ⟨w, rfl⟩ := Nat.exists_eq_succ_of_ne_zero h.ne'
    simp [List.replicate_succ']
  · rw [Nat.toDigits_of_base_le (by omega) (by omega)]
    simp

theorem hex_one {n : Nat} (h : n < 16) : Text.hex 1 n = [Nat.digitChar n] := by
  simp [Text.hex, Nat.toDigits_of_lt_base h]

theorem hex_four {n : Nat} (h : n < 65536) :
    Text.hex 4 n = [Nat.digitChar (n / 4096), Nat.digitChar (n / 256 % 16), Nat.digitChar (n / 16 % 16),
      Nat.digitChar (n % 16)] := by
  rw [hex_succ (by decide), hex_succ (by decide), hex_succ (by decide), hex_one (by omega)]
  simp [Nat.div_div_eq_div_mul]

theorem hexValue?_digitChar : ∀ d < 16, hexValue? (Nat.digitChar d) = some d := by
  decide

theorem hexQuad?_hex {n : Nat} (h : n < 65536) : hexQuad? (Text.hex 4 n) = some n := by
  have hsum : ((n / 4096 * 16 + n / 256 % 16) * 16 + n / 16 % 16) * 16 + n % 16 = n := by omega
  rw [hex_four h]
  simp [hexQuad?, hexValue?_digitChar _ (show n / 4096 < 16 by omega), hexValue?_digitChar _ (Nat.mod_lt _ _), hsum]

theorem length_hex {n : Nat} (h : n < 65536) : (Text.hex 4 n).length = 4 := by
  rw [hex_four h]
  rfl

/-! ## Escapes -/

theorem unicodeEscape_append (n : Nat) (rest : List Char) :
    unicodeEscape n ++ rest = '\\' :: 'u' :: (Text.hex 4 n ++ rest) := rfl

theorem not_surrogate (c : Char) : isHighSurrogate c.toNat = false ∧ isLowSurrogate c.toNat = false := by
  have hvalid : c.toNat < 0xd800 ∨ 0xdfff < c.toNat ∧ c.toNat < 0x110000 := c.valid
  constructor
  · simp only [isHighSurrogate, Bool.and_eq_false_iff, decide_eq_false_iff_not]
    omega
  · simp only [isLowSurrogate, Bool.and_eq_false_iff, decide_eq_false_iff_not]
    omega

/-- a character of the basic plane -/
theorem readUnicodeEscape_basic {c : Char} (hc : c.toNat < 65536) {rest : List Char} (hrest : rest ≠ []) :
    readUnicodeEscape (Text.hex 4 c.toNat ++ rest) = .ok (c, rest) := by
  have hlen := length_hex hc
  have hpos := List.length_pos_iff.2 hrest
  obtain ⟨hhigh, hlow⟩ := not_surrogate c
  unfold readUnicodeEscape
  rw [if_neg (by simp; omega), List.take_left' hlen, List.drop_left' hlen, hexQuad?_hex hc]
  simp only [hhigh, hlow, Bool.false_and, Bool.or_self, Bool.false_eq_true, if_false, Char.ofNat_toNat]
  split <;> rfl

/-- a character outside the basic plane, as the two halves of its number -/
theorem readUnicodeEscape_pair {c : Char} (hc : 65536 ≤ c.toNat) {rest : List Char} (hrest : rest ≠ []) :
    readUnicodeEscape (Text.hex 4 (0xd800 + (c.toNat - 65536) / 1024)
      ++ (unicodeEscape (0xdc00 + (c.toNat - 65536) % 1024) ++ rest)) = .ok (c, rest) := by
  have hvalid : c.toNat < 0xd800 ∨ 0xdfff < c.toNat ∧ c.toNat < 0x110000 := c.valid
  obtain ⟨k, hk⟩ := Nat.exists_eq_add_of_le hc
  have hpos := List.length_pos_iff.2 hrest
  rw [show c.toNat - 65536 = k by omega]
  have hhigh : 0xd800 + k / 1024 < 65536 := by omega
  have hlow : 0xdc00 + k % 1024 < 65536 := by omega
  have hvalue : 0x10000 + (0xd800 + k / 1024 - 0xd800) * 1024 + (0xdc00 + k % 1024 - 0xdc00) = c.toNat := by omega
  unfold readUnicodeEscape unicodeEscape
  rw [if_neg (by simp [length_hex hhigh, length_hex hlow]; omega), List.take_left' (length_hex hhigh),
    List.drop_left' (length_hex hhigh), hexQuad?_hex hhigh]
  have hpair : (isHighSurrogate (0xd800 + k / 1024)
      && decide (4 < (Text.hex 4 (0xdc00 + k % 1024) ++ rest).length)) = true := by
    simp only [isHighSurrogate, List.length_append, length_hex hlow, Bool.and_eq_true, decide_eq_true_eq]
    omega
  have hsecond : isLowSurrogate (0xdc00 + k % 1024) = true := by
    simp only [isLowSurrogate, Bool.and_eq_true, decide_eq_true_eq]
    omega
  simp only [List.cons_append]
  rw [if_pos hpair, List.take_left' (length_hex hlow), List.drop_left' (length_hex hlow), hexQuad?_hex hlow]
  simp only [hsecond, if_true, hvalue, Char.ofNat_toNat]

/-! ## Strings -/

theorem readString_plain (opening fuel : Nat) {c : Char} (hquote : c ≠ '"') (hslash : c ≠ '\\') (h : 32 ≤ c.toNat)
    (rest : List Char) :
    readString opening (fuel + 1) (c :: rest) = do
      let (cs, rest) ← readString opening fuel rest
      return (c :: cs, rest) := by
  rw [readString]
  · simp [Nat.not_lt.2 h]
  all_goals simp_all

theorem readString_unicode (opening fuel : Nat) {c : Char} {digits rest : List Char}
    (h : readUnicodeEscape digits = .ok (c, rest)) :
    readString opening (fuel + 1) ('\\' :: 'u' :: digits) = do
      let (cs, rest) ← readString opening fuel rest
      return (c :: cs, rest) := by
  rw [readString, h]
  rfl

theorem readString_simple (opening fuel : Nat) {e c : Char} (hu : e ≠ 'u') (h : simpleEscape? e = some c)
    (rest : List Char) :
    readString opening (fuel + 1) ('\\' :: e :: rest) = do
      let (cs, rest) ← readString opening fuel rest
      return (c :: cs, rest) := by
  rw [readString, h]
  simp_all

/-- one character is read back, and reading goes on behind its escape -/
theorem readString_escapedChar (opening fuel : Nat) (c : Char) {rest : List Char} (hrest : rest ≠ []) :
    readString opening (fuel + 1) (escapedChar c ++ rest) = do
      let (cs, rest) ← readString opening fuel rest
      return (c :: cs, rest) := by
  unfold escapedChar
  split_ifs with hquote hslash hn hr ht hf hb hplain hbasic
  · subst hquote
    exact readString_simple opening fuel (by decide) rfl rest
  · subst hslash
    exact readString_simple opening fuel (by decide) rfl rest
  · subst hn
    exact readString_simple opening fuel (by decide) rfl rest
  · subst hr
    exact readString_simple opening fuel (by decide) rfl rest
  · subst ht
    exact readString_simple opening fuel (by decide) rfl rest
  · subst hf
    exact readString_simple opening fuel (by decide) rfl rest
  · subst hb
    exact readString_simple opening fuel (by decide) rfl rest
  · simp only [Bool.and_eq_true, decide_eq_true_eq] at hplain
    exact readString_plain opening fuel hquote hslash hplain.1 rest
  · rw [unicodeEscape_append, readString_unicode opening fuel (readUnicodeEscape_basic hbasic hrest)]
  · rw [List.append_assoc, unicodeEscape_append,
      readString_unicode opening fuel (readUnicodeEscape_pair (Nat.le_of_not_lt hbasic) hrest)]

theorem length_escapedChar_pos (c : Char) : 0 < (escapedChar c).length := by
  unfold escapedChar
  split_ifs
  case neg =>
    rw [unicodeEscape_append]
    exact Nat.zero_lt_succ _
  all_goals exact Nat.zero_lt_succ _

theorem readString_flatMap (opening : Nat) (cs rest : List Char) {fuel : Nat} (h : cs.length < fuel) :
    readString opening fuel (cs.flatMap escapedChar ++ '"' :: rest) = .ok (cs, rest) := by
  induction cs generalizing fuel with
  | nil =>
    obtain ⟨fuel, rfl⟩ := Nat.exists_eq_succ_of_ne_zero (Nat.ne_of_gt h)
    rw [List.flatMap_nil, List.nil_append, readString]
  | cons c cs ih =>
    obtain ⟨fuel, rfl⟩ := Nat.exists_eq_succ_of_ne_zero (Nat.ne_zero_of_lt h)
    rw [List.flatMap_cons, List.append_assoc, readString_escapedChar opening fuel c (by simp),
      ih (Nat.lt_of_succ_lt_succ h)]
    rfl

theorem length_le_flatMap (cs : List Char) : cs.length ≤ (cs.flatMap escapedChar).length := by
  induction cs with
  | nil => exact Nat.le_refl 0
  | cons c cs ih =>
    have := length_escapedChar_pos c
    rw [List.flatMap_cons, List.length_append, List.length_cons]
    omega

/-- a string behind its opening quote is read back -/
theorem readQuoted_flatMap (s : String) (rest : List Char) :
    readQuoted (s.toList.flatMap escapedChar ++ '"' :: rest) = .ok (s, rest) := by
  have hfuel : s.toList.length < (s.toList.flatMap escapedChar ++ '"' :: rest).length + 1 := by
    have := length_le_flatMap s.toList
    rw [List.length_append]
    omega
  rw [readQuoted, readString_flatMap _ _ _ hfuel]
  simp [bind, Except.bind, pure, Except.pure]

end Crowfoot.Json
