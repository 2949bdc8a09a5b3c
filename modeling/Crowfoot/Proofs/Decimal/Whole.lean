import Crowfoot.Proofs.Decimal.Nearest

/-
Whole numbers. An integer below `2 ^ 53` is a floating point number, and as long as they stay below, integers are added
and compared without rounding.

- `whole_round`, `whole_normalize`: rounding leaves a whole number as it is;
- `whole_ofInt`, `Whole.compareInt`, `Whole.add`: what is turned into a number, compared and added.
-/

namespace Crowfoot.Decimal

open Float.Model Float.Model.UnpackedFloat

/-- a floating point number that stands for an integer below `2 ^ 53` -/
structure Whole (x : Float) (n : ℤ) : Prop where
  lt : n.natAbs < 2 ^ 53
  parts : ∃ negative m e, Double.ofFloat x = .finite negative m e ∧ ((signOf negative).apply m : ℚ) * 2 ^ e = n

/-! ## Signs -/

theorem signOf_apply (negative : Bool) (m : ℤ) : (signOf negative).apply m = if negative then -m else m := by
  cases negative <;> rfl

theorem apply_mul (s : Sign) (m k : ℤ) : s.apply (m * k) = s.apply m * k := by
  cases s <;> simp [Sign.apply]

/-! ## Comparing -/

/-- integers compare with a whole number as with the integer that it stands for -/
theorem Whole.compareInt {x : Float} {n : ℤ} (h : Whole x n) (k : ℤ) :
    Double.compareInt k (.ofFloat x) = some (compare k n) := by
  obtain ⟨negative, m, e, hparts, hvalue⟩ := h.parts
  have hpos : (0 : ℤ) < (Double.fraction m e).2 := by exact_mod_cast fraction_snd_pos m e
  have hscaled : (signOf negative).apply (Double.fraction m e).1 = n * (Double.fraction m e).2 := by
    have hfst := fraction_fst m e
    have hcast : (((signOf negative).apply (Double.fraction m e).1 : ℤ) : ℚ) = n * (Double.fraction m e).2 := by
      rw [← hvalue]
      cases negative <;> simp [signOf, Sign.apply, hfst]
    exact_mod_cast hcast
  have hmono : StrictMono fun k : ℤ => k * (Double.fraction m e).2 := fun i j hij => mul_lt_mul_of_pos_right hij hpos
  rw [hparts]
  simp only [Double.compareInt]
  rw [← signOf_apply, hscaled, ← cmp_eq_compare, ← cmp_eq_compare]
  exact congrArg some (hmono.cmp_map_eq k n)

/-! ## Packing -/

/-- a number with a leading one is taken apart into what it was packed from -/
theorem ofFloat_packed {m : ℕ} {e : ℤ} (hlow : 2 ^ 52 ≤ m) (hlt : m < 2 ^ 53) (hmin : -1074 ≤ e) (hmax : e ≤ 971)
    (hm : 0 < m) (negative : Bool) :
    Double.ofFloat (packed (.finite (signOf negative) m e hm)) = .finite negative m e := by
  have hbits : (packed (.finite (signOf negative) m e hm)).toBits.toNat =
      ((if negative then 1 else 0) * 2 ^ 11 + (e + 1075).toNat) * 2 ^ 52 + m % 2 ^ 52 := by
    rw [toNat_toBits_packed, pack_normal hm _ hlow hlt hmax, toNat_packComponents, toNat_signOf, toNat_ofNat_mantissa,
      toNat_ofNat_exponent (by omega)]
  have hbiased : (packed (.finite (signOf negative) m e hm)).toBits.toNat / 2 ^ 52 % 2048 = (e + 1075).toNat := by
    rw [hbits]
    cases negative <;> simp <;> omega
  have hfraction : (packed (.finite (signOf negative) m e hm)).toBits.toNat % 2 ^ 52 + 2 ^ 52 = m := by
    rw [hbits]
    omega
  have hsign : decide (2 ^ 63 ≤ (packed (.finite (signOf negative) m e hm)).toBits.toNat) = negative := by
    rw [hbits]
    cases negative <;> simp <;> omega
  unfold Double.ofFloat
  simp only [Nat.pow_eq]
  rw [hbiased, hfraction, hsign, if_neg (by omega), if_neg (by omega)]
  congr 1
  omega

theorem whole_zero (s : Sign) : Whole (packed (.zero s)) 0 where
  lt := by decide
  parts := by
    cases s with
    | positive => exact ⟨false, 0, -1074, by decide +kernel, by simp [signOf, Sign.apply]⟩
    | negative => exact ⟨true, 0, -1074, by decide +kernel, by simp [signOf, Sign.apply]⟩

theorem whole_normal {n : ℕ} (hn : 0 < n) (hlt : n < 2 ^ 53) (negative : Bool) :
    Whole (packed (.finite (signOf negative) (normal n) (normalExponent n 0) (normal_pos hn)))
      ((signOf negative).apply n) where
  lt := by cases negative <;> simpa [signOf, Sign.apply] using hlt
  parts := by
    have hvalue := normal_value n 0
    have hcanonical := normal_canonical hn hlt (k := 0) (by decide)
    have hparts := ofFloat_packed (le_normal hn hlt) hcanonical.lt hcanonical.min
      (normalExponent_le n (k := 0) (by decide)) (normal_pos hn) negative
    refine ⟨negative, _, _, hparts, ?_⟩
    cases negative <;> simpa [signOf, Sign.apply] using hvalue

/-- a whole number is what its parts are packed to -/
theorem Whole.unpacked {x : Float} {n : ℤ} (h : Whole x n) :
    x = packed x.toModel.unpack ∧
      ((∃ s, x.toModel.unpack = .zero s ∧ n = 0) ∨
        ∃ s m e hm, x.toModel.unpack = .finite s m e hm ∧ (s.apply m : ℚ) * 2 ^ e = n) := by
  obtain ⟨negative, m, e, hparts, hvalue⟩ := h.parts
  rcases Nat.eq_zero_or_pos m with rfl | hm
  · have hzero : n = 0 := by
      have hcast : (n : ℚ) = 0 := by
        rw [← hvalue]
        cases negative <;> simp [signOf, Sign.apply]
      exact_mod_cast hcast
    rw [eq_zero_of_ofFloat hparts]
    cases negative with
    | false => exact ⟨by decide +kernel, .inl ⟨.positive, rfl, hzero⟩⟩
    | true => exact ⟨by decide +kernel, .inl ⟨.negative, rfl, hzero⟩⟩
  · obtain ⟨hc, he, hpacked⟩ := eq_packed_of_ofFloat hparts hm
    have hunpack : x.toModel.unpack = .finite (signOf negative) m e hm := by
      rw [hpacked]
      exact unpack_pack hc he _
    exact ⟨by rw [hunpack]; exact hpacked, .inr ⟨_, m, e, hm, hunpack, hvalue⟩⟩

/-! ## Rounding -/

/-- rounding a number that is whole leaves it as it is -/
theorem whole_round {k : ℕ} (hk : 0 < k) {e n : ℤ} (negative : Bool)
    (hvalue : ((signOf negative).apply k : ℚ) * 2 ^ e = n) (hlt : n.natAbs < 2 ^ 53) :
    Whole (packed (UnpackedFloat.round .binary64 (signOf negative) k e)) n := by
  have hpos : (0 : ℚ) < k * 2 ^ e := mul_pos (by exact_mod_cast hk) (by positivity)
  have hsigned : (signOf negative).apply n.natAbs = n := by
    cases negative with
    | false =>
      have hn : (0 : ℚ) < n := hvalue ▸ hpos
      exact Int.natAbs_of_nonneg (by exact_mod_cast hn.le)
    | true =>
      have hn : (n : ℚ) < 0 := by
        rw [← hvalue]
        simpa [signOf, Sign.apply] using hpos
      exact neg_eq_iff_eq_neg.2 (Int.ofNat_natAbs_of_nonpos (by exact_mod_cast hn.le))
  have hmagnitude : (k : ℚ) * 2 ^ e = n.natAbs := by
    rw [← hsigned] at hvalue
    cases negative <;> simpa [signOf, Sign.apply] using hvalue
  have hn : 0 < n.natAbs := by
    rw [hmagnitude] at hpos
    exact_mod_cast hpos
  have hwhole := whole_normal hn hlt negative
  rwa [← round_whole hn hlt hk hmagnitude, hsigned] at hwhole

theorem whole_normalize {k e n : ℤ} (hvalue : (k : ℚ) * 2 ^ e = n) (hlt : n.natAbs < 2 ^ 53) :
    Whole (packed (UnpackedFloat.normalize .binary64 k e .positive)) n := by
  unfold UnpackedFloat.normalize
  rcases lt_trichotomy k 0 with hk | rfl | hk
  · have hsigned : (signOf true).apply (-k).toNat = k := by
      change -((-k).toNat : ℤ) = k
      omega
    rw [compare_lt_iff_lt.2 hk]
    exact whole_round (by omega) true (by rwa [hsigned]) hlt
  · obtain rfl : n = 0 := by
      rw [Int.cast_zero, zero_mul] at hvalue
      exact_mod_cast hvalue.symm
    exact whole_zero .positive
  · have hsigned : (signOf false).apply k.toNat = k := Int.toNat_of_nonneg hk.le
    rw [compare_gt_iff_gt.2 hk]
    exact whole_round (by omega) false (by rwa [hsigned]) hlt

/-! ## Integers and sums -/

/-- an integer below `2 ^ 53` is turned into a floating point number without rounding -/
theorem whole_ofInt {n : ℤ} (hlt : n.natAbs < 2 ^ 53) : Whole (Float.ofInt n) n := by
  have hofNat : ∀ {n : ℕ} (hn : 0 < n) (_ : n < 2 ^ 53), Float.ofNat n
      = packed (.finite .positive (normal n) (normalExponent n 0) (normal_pos hn)) := by
    intro n hn hlt
    have hnear : Near (normal n) (normalExponent n 0) (n * 10 ^ (0 : ℤ)) := by
      rw [zpow_zero, ← zpow_zero (2 : ℚ), ← normal_value]
      exact near_self _ _
    exact ofScientific_eq (normal_canonical hn hlt (by decide)) hn (normalExponent_le n (by decide)) hnear
  cases n with
  | ofNat n =>
    rcases Nat.eq_zero_or_pos n with rfl | hn
    · exact whole_zero .positive
    · change Whole (Float.ofNat n) n
      rw [hofNat hn hlt]
      exact whole_normal hn hlt false
  | negSucc n =>
    have hn : 0 < n + 1 := n.succ_pos
    change Whole (-Float.ofNat (n + 1)) (-((n + 1 : ℕ) : ℤ))
    rw [hofNat hn hlt, packed_neg (normal_canonical hn hlt (by decide)) (normalExponent_le _ (by decide))]
    exact whole_normal hn hlt true

theorem add_unpacked (x y : Float) :
    x + y = packed (UnpackedFloat.add .binary64 x.toModel.unpack y.toModel.unpack) := rfl

/-- a mantissa with a smaller exponent stands for the same number -/
theorem decreaseExponent_value (s : Sign) (m : ℕ) {e t : ℤ} (h : t ≤ e) :
    (s.apply (decreaseExponent m e t).1 : ℚ) * 2 ^ t = s.apply m * 2 ^ e := by
  have he : (2 : ℚ) ^ e = 2 ^ (e - t).toNat * 2 ^ t := by
    rw [← zpow_natCast, Int.toNat_of_nonneg (by omega), ← zpow_add₀ (by norm_num), sub_add_cancel]
  have hshift : ((decreaseExponent m e t).1 : ℤ) = m * 2 ^ (e - t).toNat := by
    simp [decreaseExponent, Nat.shiftLeft_eq]
  rw [hshift, apply_mul, he]
  push_cast
  ring

/-- **Exact sums.** Whole numbers are added without rounding as long as the sum is below `2 ^ 53`. -/
theorem Whole.add {x y : Float} {a b : ℤ} (hx : Whole x a) (hy : Whole y b) (hlt : (a + b).natAbs < 2 ^ 53) :
    Whole (x + y) (a + b) := by
  obtain ⟨hxpacked, hxparts⟩ := hx.unpacked
  obtain ⟨hypacked, hyparts⟩ := hy.unpacked
  rw [add_unpacked]
  rcases hxparts with ⟨s, hs, rfl⟩ | ⟨s, m, e, hm, hs, hvalue⟩
  · rcases hyparts with ⟨t, ht, rfl⟩ | ⟨t, m', e', hm', ht, hvalue'⟩
    · rw [hs, ht]
      cases s <;> cases t <;> exact whole_zero _
    · rw [hs, ht, zero_add]
      change Whole (packed (.finite t m' e' hm')) b
      rw [← ht, ← hypacked]
      exact hy
  · rcases hyparts with ⟨t, ht, rfl⟩ | ⟨t, m', e', hm', ht, hvalue'⟩
    · rw [hs, ht, add_zero]
      change Whole (packed (.finite s m e hm)) a
      rw [← hs, ← hxpacked]
      exact hx
    · have hsum : ((s.apply (decreaseExponent m e (min e e')).1
          + t.apply (decreaseExponent m' e' (min e e')).1 : ℤ) : ℚ) * 2 ^ min e e' = (a + b : ℤ) := by
        rw [Int.cast_add, Int.cast_add, add_mul, decreaseExponent_value s m (min_le_left e e'),
          decreaseExponent_value t m' (min_le_right e e'), hvalue, hvalue']
      rw [hs, ht]
      exact whole_normalize hsum hlt

end Crowfoot.Decimal
