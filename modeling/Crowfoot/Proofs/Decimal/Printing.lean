import Mathlib.Data.List.TakeWhile
import Crowfoot.Proofs.Decimal.Bits
import Crowfoot.Proofs.Decimal.Numeral

/-
What is printed is a numeral. Wherever the decimal point falls, the text has the digits and the power of ten that give
the value back, and there is a point or an exponent, so that it is never taken for an integer.

- `written_placed`: digits with the point at a place;
- `written_magnitude`: the text of a positive number is a numeral of the value of its shortest decimal;
- `exists_numeral`: the text of any finite number.
-/

namespace Crowfoot.Decimal

/-! ## Zeros at either end -/

theorem head?_toDigits {n : Nat} (h : 0 < n) : (Nat.toDigits 10 n).head? ≠ some '0' := by
  induction n using Nat.strong_induction_on with
  | _ n ih =>
    by_cases hn : n < 10
    · rw [Nat.toDigits_of_lt_base hn]
      interval_cases n <;> decide
    · have hrest := ih (n / 10) (by omega) (by omega)
      rw [Nat.toDigits_of_base_le (by decide) (by omega), List.head?_append_of_ne_nil _ Nat.toDigits_ne_nil]
      exact hrest

theorem exists_zeros (ds : List Char) : ∃ k, ds = dropTrailingZeros ds ++ List.replicate k '0' := by
  have hsplit := List.takeWhile_append_dropWhile (p := (· == '0')) (l := ds.reverse)
  have hzeros : ∀ c ∈ (ds.reverse.takeWhile (· == '0')).reverse, c = '0' := by
    intro c hc
    simpa using List.mem_takeWhile_imp (p := (· == '0')) (List.mem_reverse.1 hc)
  refine ⟨(ds.reverse.takeWhile (· == '0')).reverse.length, ?_⟩
  rw [← List.eq_replicate_of_mem hzeros, dropTrailingZeros, ← List.reverse_append, hsplit, List.reverse_reverse]

theorem natOfDigits_zeros_append (k : Nat) (ds : List Char) :
    natOfDigits (List.replicate k '0' ++ ds) = natOfDigits ds := by
  rw [natOfDigits_append, natOfDigits_zeros, Nat.zero_mul, Nat.zero_add]

theorem natOfDigits_append_zeros (ds : List Char) (k : Nat) :
    natOfDigits (ds ++ List.replicate k '0') = natOfDigits ds * 10 ^ k := by
  rw [natOfDigits_append, natOfDigits_zeros, List.length_replicate, Nat.add_zero]

/-! ## Placing the point -/

theorem exists_power (e : Int) : ∃ p : Power, p.text = exponentText e ∧ p.exponent = e := by
  have hall : ∀ c ∈ Nat.toDigits 10 e.natAbs, c.isDigit := fun c hc => isDigit_of_mem_toDigits hc
  have hvalue := natOfDigits_toDigits e.natAbs
  set ds := if (Nat.toDigits 10 e.natAbs).length < 2 then '0' :: Nat.toDigits 10 e.natAbs else Nat.toDigits 10 e.natAbs
    with hds
  have hne : ds ≠ [] := by
    rw [hds]
    split_ifs
    · exact List.cons_ne_nil _ _
    · exact Nat.toDigits_ne_nil
  have hdigits : ∀ c ∈ ds, c.isDigit := by
    rw [hds]
    split_ifs
    · exact List.forall_mem_cons.2 ⟨by decide, hall⟩
    · exact hall
  have hsame : natOfDigits ds = e.natAbs := by
    rw [hds]
    split_ifs
    · exact hvalue
    · exact hvalue
  refine ⟨⟨decide (e < 0), ds, hne, hdigits⟩, ?_, ?_⟩
  · simp [Power.text, exponentText, hds]
  · simp only [Power.exponent, hsame, decide_eq_true_eq]
    split_ifs <;> omega

/-- the value from the digits in front of `k` zeros -/
theorem Numeral.value_eq (n : Numeral) {m k : Nat} (h : n.digits = m * 10 ^ k) :
    n.value = m * (10 : ℚ) ^ (k + n.exponent) := by
  rw [Numeral.value, h, zpow_add₀ (by norm_num), zpow_natCast]
  push_cast
  ring

/-- a text that is a numeral with a point or a power, and its value -/
def Written (cs : List Char) (v : ℚ) : Prop := ∃ n : Numeral, n.text = cs ∧ n.Fractional ∧ n.value = v

theorem all_append_zeros {ds : List Char} (hall : ∀ c ∈ ds, c.isDigit) (k : Nat) :
    ∀ c ∈ ds ++ List.replicate k '0', c.isDigit := by
  intro c hc
  rcases List.mem_append.1 hc with hc | hzero
  · exact hall c hc
  · rw [List.eq_of_mem_replicate hzero]
    decide

/-- one digit before the point, and a power -/
theorem written_power {d : Char} {rest : List Char} (hall : ∀ c ∈ d :: rest, c.isDigit) (hd : d ≠ '0') (e : Int) :
    Written (d :: ((if rest = [] then [] else '.' :: rest) ++ exponentText e))
      (natOfDigits (d :: rest) * (10 : ℚ) ^ (e - rest.length)) := by
  obtain ⟨p, hptext, hpexponent⟩ := exists_power e
  obtain ⟨hdigit, hrest⟩ := List.forall_mem_cons.1 hall
  refine ⟨⟨[d], rest, some p, by simp, by simpa using hdigit, .inr (by simpa using hd), hrest⟩, ?_, .inr nofun, ?_⟩
  · simp [Numeral.text, Numeral.pointText, Numeral.powerText, hptext]
  · rw [Numeral.value_eq _ (m := natOfDigits (d :: rest)) (k := 0) (mul_one _).symm, Numeral.exponent]
    congr 2
    simp [hpexponent]

section

variable {ds : List Char} (hne : ds ≠ []) (hall : ∀ c ∈ ds, c.isDigit)

include hne hall

/-- a zero before the point, and more of them behind it -/
theorem written_fraction (k : Nat) :
    Written ('0' :: '.' :: (List.replicate k '0' ++ ds)) (natOfDigits ds * (10 : ℚ) ^ (-(k : ℤ) - ds.length)) := by
  have hzeros : ∀ c ∈ List.replicate k '0' ++ ds, c.isDigit := by
    intro c hc
    refine all_append_zeros hall k c ?_
    rw [List.mem_append] at hc ⊢
    exact hc.symm
  refine ⟨⟨['0'], List.replicate k '0' ++ ds, none, by simp, by simp, .inl rfl, hzeros⟩, ?_, .inl ?_, ?_⟩
  · simp [Numeral.text, Numeral.pointText, Numeral.powerText, hne]
  · simp [hne]
  · rw [Numeral.value_eq _ (m := natOfDigits ds) (k := 0), Numeral.exponent]
    · congr 2
      simp
      omega
    · simpa [Numeral.digits, List.replicate_succ] using natOfDigits_zeros_append (k + 1) ds

variable (hhead : ds.head? ≠ some '0')

include hhead

/-- all digits before the point, and zeros up to it -/
theorem written_whole (k : Nat) :
    Written (ds ++ List.replicate k '0' ++ ['.', '0']) (natOfDigits ds * (10 : ℚ) ^ (k : ℤ)) := by
  have hplain : ds ++ List.replicate k '0' = ['0'] ∨ (ds ++ List.replicate k '0').head? ≠ some '0' :=
    .inr (by rwa [List.head?_append_of_ne_nil _ hne])
  refine ⟨⟨_, ['0'], none, by simp [hne], all_append_zeros hall k, hplain, by simp⟩, ?_, .inl (by simp), ?_⟩
  · simp [Numeral.text, Numeral.pointText, Numeral.powerText]
  · rw [Numeral.value_eq _ (m := natOfDigits ds) (k := k + 1), Numeral.exponent]
    · congr 2
      simp
    · simpa [Numeral.digits, List.replicate_succ'] using natOfDigits_append_zeros ds (k + 1)

/-- the point between the digits -/
theorem written_between {k : Nat} (hk : 0 < k) (hlength : k < ds.length) :
    Written (ds.take k ++ '.' :: ds.drop k) (natOfDigits ds * (10 : ℚ) ^ ((k : ℤ) - ds.length)) := by
  have htake : ds.take k ≠ [] := by simp [hne, hk.ne']
  have hdrop : ds.drop k ≠ [] := by simpa using hlength
  have hplain : ds.take k = ['0'] ∨ (ds.take k).head? ≠ some '0' :=
    .inr (by rwa [List.head?_take, if_neg hk.ne'])
  refine ⟨⟨ds.take k, ds.drop k, none, htake, ?_, hplain, ?_⟩, ?_, .inl hdrop, ?_⟩
  · exact fun c hc => hall c (List.mem_of_mem_take hc)
  · exact fun c hc => hall c (List.mem_of_mem_drop hc)
  · simp [Numeral.text, Numeral.pointText, Numeral.powerText, hdrop]
  · rw [Numeral.value_eq _ (m := natOfDigits ds) (k := 0), Numeral.exponent]
    · congr 2
      simp
      omega
    · simp [Numeral.digits]

/-- **Placing the point.** Digits that do not start with a zero are a numeral wherever the point falls. -/
theorem written_placed (point : Int) :
    Written (placed ds point) (natOfDigits ds * (10 : ℚ) ^ (point - ds.length)) := by
  unfold placed
  by_cases hfar : point ≤ -4 ∨ 16 < point
  · rw [if_pos hfar]
    obtain ⟨d, rest, rfl⟩ := List.exists_cons_of_ne_nil hne
    have hwritten := written_power hall (by simpa using hhead) (point - 1)
    rw [show point - 1 - (rest.length : ℤ) = point - (d :: rest).length by simp; omega] at hwritten
    cases rest <;> exact hwritten
  rw [if_neg hfar]
  by_cases hsmall : point ≤ 0
  · rw [if_pos hsmall]
    have hwritten := written_fraction hne hall (-point).toNat
    rwa [show -((-point).toNat : ℤ) = point by omega] at hwritten
  rw [if_neg hsmall]
  dsimp only
  by_cases hlong : ds.length ≤ point.toNat
  · rw [if_pos hlong]
    have hwritten := written_whole hne hall hhead (point.toNat - ds.length)
    rwa [show ((point.toNat - ds.length : Nat) : ℤ) = point - ds.length by omega] at hwritten
  · rw [if_neg hlong]
    have hwritten := written_between hne hall hhead (k := point.toNat) (by omega) (by omega)
    rwa [show (point.toNat : ℤ) = point by omega] at hwritten

end

/-! ## Magnitudes -/

/-- the digits of a positive number without the zeros at their end -/
theorem dropTrailingZeros_toDigits {n : Nat} (hn : 0 < n) {ds : List Char}
    (hds : dropTrailingZeros (Nat.toDigits 10 n) = ds) :
    ds ≠ [] ∧ (∀ c ∈ ds, c.isDigit) ∧ ds.head? ≠ some '0'
      ∧ ∃ k, natOfDigits ds * 10 ^ k = n ∧ (Nat.toDigits 10 n).length = ds.length + k := by
  obtain ⟨k, hzeros⟩ := exists_zeros (Nat.toDigits 10 n)
  rw [hds] at hzeros
  have hvalue : natOfDigits ds * 10 ^ k = n := by
    rw [← natOfDigits_append_zeros, ← hzeros, natOfDigits_toDigits]
  have hne : ds ≠ [] := by
    rintro rfl
    rw [show natOfDigits [] = 0 from rfl] at hvalue
    omega
  refine ⟨hne, ?_, ?_, k, hvalue, ?_⟩
  · intro c hc
    refine isDigit_of_mem_toDigits (n := n) ?_
    rw [hzeros]
    exact List.mem_append_left _ hc
  · have hhead := head?_toDigits hn
    rwa [hzeros, List.head?_append_of_ne_nil _ hne] at hhead
  · rw [hzeros, List.length_append, List.length_replicate]

/-- **Printing.** The text of a positive number is a numeral with the value of its shortest decimal. -/
theorem written_magnitude {m : Nat} {e : Int} (hpos : 0 < (shortest m e).digits) :
    Written (magnitude m e) (shortest m e).value := by
  obtain ⟨hne, hall, hhead, k, hvalue, hlength⟩ := dropTrailingZeros_toDigits hpos rfl
  obtain ⟨n, htext, hfractional, hn⟩ :=
    written_placed hne hall hhead ((Nat.toDigits 10 (shortest m e).digits).length + (shortest m e).exponent)
  refine ⟨n, htext, hfractional, hn.trans ?_⟩
  have hdigits : ((shortest m e).digits : ℚ)
      = natOfDigits (dropTrailingZeros (Nat.toDigits 10 (shortest m e).digits)) * 10 ^ (k : ℤ) := by
    exact_mod_cast hvalue.symm
  rw [Scientific.value, hdigits, mul_assoc, ← zpow_add₀ (by norm_num)]
  congr 2
  omega

/-! ## Numbers -/

theorem mantissa_lt {x : Float} {negative : Bool} {m : Nat} {e : Int}
    (h : Double.ofFloat x = .finite negative m e) : m < 2 ^ 53 := by
  rcases ofFloat_eq_finite h with ⟨hlt, -⟩ | ⟨-, hlt, -⟩
  · omega
  · exact hlt

/-- zero is written as a numeral too -/
def zero : Numeral := ⟨['0'], ['0'], none, by simp, by simp, .inl rfl, by simp⟩

/-- **Numbers.** A number that is finite is written as its sign and a numeral, which is zero for zero and else inside
the interval of the numbers that round to the one that is written. -/
theorem exists_numeral {x : Float} {negative : Bool} {m : Nat} {e : Int}
    (h : Double.ofFloat x = .finite negative m e) :
    ∃ n : Numeral, n.Fractional ∧ (∀ nan infinity negativeInfinity,
        (render nan infinity negativeInfinity x).toList = signed negative n.text)
      ∧ (m = 0 ∧ n.digits = 0 ∨ 0 < m ∧ (rounding m e).Contains e n.value) := by
  by_cases hm : m = 0
  · refine ⟨zero, .inl (by simp [zero]), ?_, .inl ⟨hm, rfl⟩⟩
    intro nan infinity negativeInfinity
    simp only [render, h, hm, if_true, String.toList_ofList]
    rfl
  · have hpos := Nat.pos_of_ne_zero hm
    have hsize := mantissa_lt h
    obtain ⟨n, htext, hfractional, hvalue⟩ := written_magnitude (shortest_digits_pos hpos hsize e)
    refine ⟨n, hfractional, ?_, .inr ⟨hpos, hvalue ▸ shortest_contains hpos hsize e⟩⟩
    intro nan infinity negativeInfinity
    simp only [render, h, hm, if_false, String.toList_ofList, htext]
    rfl

end Crowfoot.Decimal
