import Crowfoot.Proofs.Decimal.Printing

/-
Reading decimals. A decimal is read as the floating point number in whose interval its value lies, whichever way it is
computed: small decimals as one product or quotient of numbers that are exact, others with all their digits. So what
is printed of a number is read as the number.

- `ofScientific_eq`, `nearest_eq`: the number nearest to a decimal;
- `readFloat?_render`: printing and reading.
-/

namespace Crowfoot.Decimal

open Float.Model Float.Model.UnpackedFloat

/-! ## Exact numbers -/

/-- an integer below `2 ^ 53` with as many zeros behind it as there is room for -/
def normal (n : Nat) : Nat := n <<< (52 - n.log2)

/-- the binary exponent that goes with it, for an integer times `2 ^ k` -/
def normalExponent (n : Nat) (k : Int) : Int := k - (52 - n.log2 : Nat)

theorem normal_value (n : Nat) (k : Int) : (normal n : ℚ) * 2 ^ normalExponent n k = n * 2 ^ k := by
  rw [normal, normalExponent, Nat.shiftLeft_eq, zpow_sub₀ (by norm_num), zpow_natCast]
  push_cast
  field_simp

theorem normalExponent_le (n : Nat) {k b : Int} (hk : k ≤ b) : normalExponent n k ≤ b := by
  unfold normalExponent
  omega

theorem normal_pos {n : Nat} (hn : 0 < n) : 0 < normal n := by
  rw [normal, Nat.shiftLeft_eq]
  positivity

/-- the powers of ten that are exact -/
theorem powersOfTen_eq : ∀ i : Fin Float.exactlyRepresentablePowersOfTen.size,
    Float.exactlyRepresentablePowersOfTen[i.val] = packed (.finite .positive (normal (5 ^ i.val))
      (normalExponent (5 ^ i.val) i.val) (normal_pos (Nat.pow_pos (by decide)))) := by
  decide +kernel

section

variable {n : Nat} (hn : 0 < n) (hlt : n < 2 ^ 53)

include hn hlt

theorem log2_le : n.log2 ≤ 52 := Nat.le_of_lt_succ ((Nat.log2_lt hn.ne').2 hlt)

theorem le_normal : 2 ^ 52 ≤ normal n := by
  have hlog := log2_le hn hlt
  calc 2 ^ 52 = 2 ^ n.log2 * 2 ^ (52 - n.log2) := by
        rw [← pow_add]
        congr 1
        omega
    _ ≤ n * 2 ^ (52 - n.log2) := Nat.mul_le_mul_right _ (Nat.log2_self_le hn.ne')
    _ = normal n := (Nat.shiftLeft_eq _ _).symm

theorem normal_lt : normal n < 2 ^ 53 := by
  have hlog := log2_le hn hlt
  calc normal n = n * 2 ^ (52 - n.log2) := Nat.shiftLeft_eq _ _
    _ < 2 ^ (n.log2 + 1) * 2 ^ (52 - n.log2) := Nat.mul_lt_mul_of_pos_right Nat.lt_log2_self (Nat.pow_pos (by decide))
    _ = 2 ^ 53 := by
        rw [← pow_add]
        congr 1
        omega

theorem normal_canonical {k : Int} (hk : -1022 ≤ k) : Canonical (normal n) (normalExponent n k) where
  pos := normal_pos hn
  lt := normal_lt hn hlt
  min := by
    unfold normalExponent
    omega
  normal := .inl (le_normal hn hlt)

/-- an integer is rounded to itself, whichever mantissa and exponent it comes with -/
theorem round_whole {m : Nat} (hm : 0 < m) {e : Int} (hvalue : (m : ℚ) * 2 ^ e = n) (s : Sign) :
    UnpackedFloat.round .binary64 s m e = .finite s (normal n) (normalExponent n 0) (normal_pos hn) := by
  have hcanonical := normal_canonical hn hlt (k := 0) (by decide)
  unfold UnpackedFloat.round decreaseExponent
  dsimp only
  set k := (e - Format.binary64.targetExponent (totalExponent m e)).toNat with hk
  have hlog : (m <<< k).log2 = m.log2 + k := by
    rw [Nat.shiftLeft_eq, Nat.log2_eq_iff (by positivity)]
    constructor
    · rw [pow_add]
      exact Nat.mul_le_mul_right _ (Nat.log2_self_le hm.ne')
    · rw [show m.log2 + k + 1 = m.log2 + 1 + k by omega, pow_add]
      exact Nat.mul_lt_mul_of_pos_right Nat.lt_log2_self (Nat.pow_pos (by decide))
  have hsame : totalExponent (m <<< k) (e - k) = totalExponent m e := by
    unfold totalExponent
    rw [hlog]
    push_cast
    omega
  have hshifted : (normal n : ℚ) * 2 ^ normalExponent n 0 / 2 ^ (e - k) = (m <<< k : Nat) := by
    rw [normal_value, zpow_zero, mul_one, ← hvalue, Nat.shiftLeft_eq, zpow_sub₀ (by norm_num), zpow_natCast]
    push_cast
    field_simp
  refine roundWithAccuracy_eq hcanonical (near_self _ _) ?_ (by rw [hsame]; omega) s
  rw [hshifted]
  exact stands_exact _

/-- an integer below `2 ^ 53` is turned into a floating point number without rounding -/
theorem toFloat_eq : (UInt64.ofNat n).toFloat
    = packed (.finite .positive (normal n) (normalExponent n 0) (normal_pos hn)) := by
  have hsame : (UInt64.ofNat n).toNat = n := UInt64.toNat_ofNat_of_lt (lt_trans hlt (by decide))
  have hcompare : compare (n : ℤ) 0 = .gt := compare_gt_iff_gt.2 (by exact_mod_cast hn)
  change packed (UnpackedFloat.normalize .binary64 (UInt64.ofNat n).toNat 0 .positive) = _
  rw [hsame, UnpackedFloat.normalize, hcompare]
  exact congrArg packed (round_whole hn hlt hn (by rw [zpow_zero, mul_one]) .positive)

end

section

variable {k : Nat} (hk : k < Float.exactlyRepresentablePowersOfTen.size)

include hk

theorem five_pow_exponent_le : (k : ℤ) ≤ 971 := by
  have hk' : k < 23 := hk
  omega

/-- the powers of five that go with them have few enough digits -/
theorem five_pow_canonical : Canonical (normal (5 ^ k)) (normalExponent (5 ^ k) k) := by
  have hlt : 5 ^ k < 2 ^ 53 := by
    calc 5 ^ k ≤ 5 ^ 22 := Nat.pow_le_pow_right (by decide) (Nat.le_of_lt_succ hk)
      _ < 2 ^ 53 := by decide
  exact normal_canonical (Nat.pow_pos (by decide)) hlt (by omega)

end

/-! ## Decimals -/

section

variable {m : Nat} {e : Int} (hc : Canonical m e) {m₁ m₂ : Nat} {e₁ e₂ : Int} (h₁ : Canonical m₁ e₁)
  (h₂ : Canonical m₂ e₂) (he₁ : e₁ ≤ 971) (he₂ : e₂ ≤ 971)

include he₁ he₂

theorem packed_mul (hv : Near m e (m₁ * 2 ^ e₁ * (m₂ * 2 ^ e₂))) (hbits : 2 ^ 52 ≤ m₁ * m₂) :
    packed (.finite .positive m₁ e₁ h₁.pos) * packed (.finite .positive m₂ e₂ h₂.pos)
      = packed (.finite .positive m e hc.pos) := by
  change packed (UnpackedFloat.mul .binary64
    (UnpackedFloat.unpack .binary64 (UnpackedFloat.pack .binary64 (.finite .positive m₁ e₁ h₁.pos)))
    (UnpackedFloat.unpack .binary64 (UnpackedFloat.pack .binary64 (.finite .positive m₂ e₂ h₂.pos)))) = _
  rw [unpack_pack h₁ he₁, unpack_pack h₂ he₂, mul_eq hc h₁.pos h₂.pos _ _ hv hbits]
  rfl

theorem packed_div (hv : Near m e (m₁ * 2 ^ e₁ / (m₂ * 2 ^ e₂))) :
    packed (.finite .positive m₁ e₁ h₁.pos) / packed (.finite .positive m₂ e₂ h₂.pos)
      = packed (.finite .positive m e hc.pos) := by
  change packed (UnpackedFloat.div .binary64
    (UnpackedFloat.unpack .binary64 (UnpackedFloat.pack .binary64 (.finite .positive m₁ e₁ h₁.pos)))
    (UnpackedFloat.unpack .binary64 (UnpackedFloat.pack .binary64 (.finite .positive m₂ e₂ h₂.pos)))) = _
  rw [unpack_pack h₁ he₁, unpack_pack h₂ he₂, div_eq hc h₁.pos h₂.pos _ _ hv]
  rfl

end

/-- how large the numbers are that round to a finite number other than zero -/
theorem Near.bounds {m : Nat} {e : Int} {v : ℚ} (hc : Canonical m e) (he : e ≤ 971) (hv : Near m e v) :
    (2 : ℚ) ^ (-1075 : ℤ) ≤ v ∧ v < 2 ^ (1024 : ℤ) := by
  have hpow : (0 : ℚ) < 2 ^ e := by positivity
  have hm : (1 : ℚ) ≤ m := by exact_mod_cast hc.pos
  have hm' : (m : ℚ) + 1 ≤ 2 ^ (53 : ℤ) := by exact_mod_cast hc.lt
  constructor
  · calc (2 : ℚ) ^ (-1075 : ℤ) = 1 / 2 * 2 ^ (-1074 : ℤ) := by
          rw [show (-1075 : ℤ) = -1074 - 1 by norm_num, zpow_sub_one₀ (by norm_num)]
          ring
      _ ≤ 1 / 2 * 2 ^ e := by
          have := zpow_le_zpow_right₀ (a := (2 : ℚ)) (by norm_num) hc.min
          linarith
      _ ≤ (m - 1 / 2) * 2 ^ e := by nlinarith
      _ ≤ v := hv.low
  · calc v ≤ (m + 1 / 2) * 2 ^ e := hv.high
      _ < 2 ^ (53 : ℤ) * 2 ^ e := by nlinarith
      _ = 2 ^ (53 + e) := (zpow_add₀ (by norm_num) _ _).symm
      _ ≤ 2 ^ (1024 : ℤ) := zpow_le_zpow_right₀ (by norm_num) (by omega)

/-- the two factors of a power of ten -/
theorem ten_eq (k : Int) : (10 : ℚ) ^ k = 5 ^ k * 2 ^ k := by
  rw [← mul_zpow]
  norm_num

/-- three binary places are worth less than a decimal one -/
theorem two_pow_lt_ten_pow {a b : Int} (h : a ≤ 3 * b) (hb : 0 < b) : (2 : ℚ) ^ a < 10 ^ b :=
  calc (2 : ℚ) ^ a ≤ 2 ^ (3 * b) := zpow_le_zpow_right₀ (by norm_num) h
    _ = 8 ^ b := by
        rw [zpow_mul]
        norm_num
    _ < 10 ^ b := zpow_lt_zpow_left₀ hb (by norm_num) (by norm_num)

section

variable {m : Nat} {e : Int} (hc : Canonical m e) {digits : Nat} (hdigits : 0 < digits)

section

variable (hsmall : digits < 2 ^ 53) {k : Nat} (hk : k < Float.exactlyRepresentablePowersOfTen.size)

include hdigits hsmall

/-- a small decimal with few places is the quotient of two numbers that are exact -/
theorem toFloat_div (hv : Near m e (digits * 10 ^ (-k : ℤ))) :
    (UInt64.ofNat digits).toFloat / Float.exactlyRepresentablePowersOfTen[k]
      = packed (.finite .positive m e hc.pos) := by
  have hpower := powersOfTen_eq ⟨k, hk⟩
  dsimp only at hpower
  rw [toFloat_eq hdigits hsmall, hpower]
  refine packed_div hc (normal_canonical hdigits hsmall (by decide)) (five_pow_canonical hk)
    (normalExponent_le _ (by decide)) (normalExponent_le _ (five_pow_exponent_le hk)) ?_
  rw [normal_value, normal_value]
  rw [zpow_neg, ten_eq] at hv
  simpa [div_eq_mul_inv] using hv

/-- a small decimal with few zeros is their product -/
theorem toFloat_mul (hv : Near m e (digits * 10 ^ (k : ℤ))) :
    (UInt64.ofNat digits).toFloat * Float.exactlyRepresentablePowersOfTen[k]
      = packed (.finite .positive m e hc.pos) := by
  have hpower := powersOfTen_eq ⟨k, hk⟩
  dsimp only at hpower
  rw [toFloat_eq hdigits hsmall, hpower]
  refine packed_mul hc (normal_canonical hdigits hsmall (by decide)) (five_pow_canonical hk)
    (normalExponent_le _ (by decide)) (normalExponent_le _ (five_pow_exponent_le hk)) ?_ ?_
  · rw [normal_value, normal_value]
    rw [ten_eq] at hv
    simpa using hv
  · calc 2 ^ 52 ≤ normal digits := le_normal hdigits hsmall
      _ ≤ normal digits * normal (5 ^ k) := Nat.le_mul_of_pos_right _ (five_pow_canonical hk).pos

end

variable (he : e ≤ 971) {exponent : Int} (hv : Near m e (digits * 10 ^ exponent))

include hc he hdigits hv

/-- the exponent of a decimal is not so large that it is taken for infinite or zero at once -/
theorem exponent_bounds : exponent ≤ 2 ^ 11 ∧ -(2 ^ 11 + (digits.log2 : ℤ)) ≤ exponent := by
  have hlt : ∀ {a b : Int}, (2 : ℚ) ^ a < 2 ^ b → a < b := fun h => (zpow_lt_zpow_iff_right₀ (by norm_num)).1 h
  have hone : (1 : ℚ) ≤ digits := by exact_mod_cast hdigits
  have hlog : (digits : ℚ) < 2 ^ ((digits.log2 : ℤ) + 1) := by exact_mod_cast Nat.lt_log2_self
  have hpow : (0 : ℚ) < 2 ^ exponent := by positivity
  have hten : (0 : ℚ) < 10 ^ exponent := by positivity
  obtain ⟨hlow, hhigh⟩ := hv.bounds hc he
  constructor
  · by_contra hlarge
    have hfive : (1 : ℚ) ≤ 5 ^ exponent := one_le_zpow₀ (by norm_num) (by omega)
    have hbelow : (2 : ℚ) ^ exponent < 2 ^ (1024 : ℤ) := by
      calc (2 : ℚ) ^ exponent ≤ 10 ^ exponent := by
            rw [ten_eq]
            exact le_mul_of_one_le_left hpow.le hfive
        _ ≤ digits * 10 ^ exponent := le_mul_of_one_le_left hten.le hone
        _ < 2 ^ (1024 : ℤ) := hhigh
    have := hlt hbelow
    omega
  · by_contra hsmall
    have hfive : (5 : ℚ) ^ exponent ≤ 1 := zpow_le_one_of_nonpos₀ (by norm_num) (by omega)
    have habove : (2 : ℚ) ^ (-1075 : ℤ) < 2 ^ ((digits.log2 : ℤ) + 1 + exponent) := by
      calc (2 : ℚ) ^ (-1075 : ℤ) ≤ digits * 10 ^ exponent := hlow
        _ < 2 ^ ((digits.log2 : ℤ) + 1) * 10 ^ exponent := mul_lt_mul_of_pos_right hlog hten
        _ ≤ 2 ^ ((digits.log2 : ℤ) + 1) * 2 ^ exponent := by
            rw [ten_eq]
            exact mul_le_mul_of_nonneg_left (mul_le_of_le_one_left hpow.le hfive) (by positivity)
        _ = 2 ^ ((digits.log2 : ℤ) + 1 + exponent) := (zpow_add₀ (by norm_num) _ _).symm
    have := hlt habove
    omega

/-- the model of the decimals that are not small -/
theorem model_ofScientific_eq : UnpackedFloat.ofScientific .binary64 digits exponent
    = .finite .positive m e hc.pos := by
  obtain ⟨hhigh, hlow⟩ := exponent_bounds hc hdigits he hv
  unfold UnpackedFloat.ofScientific
  rw [dif_neg hdigits.ne', if_neg (not_lt.2 hhigh), if_neg (not_lt.2 hlow)]
  by_cases hup : 0 ≤ exponent
  · rw [if_pos hup]
    refine mul_eq hc _ _ _ _ ?_ ?_
    · rw [← Int.toNat_of_nonneg hup, zpow_natCast] at hv
      change Near m e ((digits <<< 53 : Nat) * 2 ^ (-53 : ℤ) * ((10 ^ exponent.toNat : Nat) * 2 ^ (0 : ℤ)))
      rw [Nat.shiftLeft_eq]
      have hshifted : ((digits * 2 ^ 53 : Nat) : ℚ) * 2 ^ (-53 : ℤ) = digits := by
        rw [Nat.cast_mul, mul_assoc]
        norm_num
      rw [hshifted, zpow_zero, mul_one]
      exact_mod_cast hv
    · rw [Nat.shiftLeft_eq]
      calc 2 ^ 52 ≤ 1 * 2 ^ 53 * 1 := by decide
        _ ≤ digits * 2 ^ 53 * 10 ^ exponent.toNat :=
            Nat.mul_le_mul (Nat.mul_le_mul_right _ hdigits) (Nat.pow_pos (by decide))
  · rw [if_neg hup]
    refine div_eq hc _ _ _ _ ?_
    rw [show exponent = -((-exponent).toNat : ℤ) by omega, zpow_neg, zpow_natCast, ← div_eq_mul_inv] at hv
    rw [zpow_zero, mul_one, mul_one]
    exact_mod_cast hv

/-- **Decimals.** A decimal that lies in the interval of a number is read as that number. -/
theorem ofScientific_eq : Float.ofScientific digits (exponent < 0) exponent.natAbs
    = packed (.finite .positive m e hc.pos) := by
  unfold Float.ofScientific
  by_cases hfast : digits < 2 ^ 53 ∧ exponent.natAbs ≤ 22
  · rw [dif_pos hfast]
    have hk : exponent.natAbs < Float.exactlyRepresentablePowersOfTen.size := Nat.lt_succ_of_le hfast.2
    by_cases hdown : exponent < 0
    · rw [show exponent = -(exponent.natAbs : ℤ) by omega] at hv
      dsimp only
      rw [if_pos (decide_eq_true hdown)]
      exact toFloat_div hc hdigits hfast.1 hk hv
    · rw [show exponent = (exponent.natAbs : ℤ) by omega] at hv
      dsimp only
      rw [if_neg (by simpa using hdown)]
      exact toFloat_mul hc hdigits hfast.1 hk hv
  · rw [dif_neg hfast]
    have hexponent : (if decide (exponent < 0) = true then Int.negOfNat exponent.natAbs else Int.ofNat exponent.natAbs)
        = exponent := by
      by_cases hdown : exponent < 0
      · rw [if_pos (decide_eq_true hdown), Int.negOfNat_eq]
        change -(exponent.natAbs : ℤ) = exponent
        omega
      · rw [if_neg (by simpa using hdown)]
        change (exponent.natAbs : ℤ) = exponent
        omega
    dsimp only
    rw [hexponent]
    exact congrArg packed (model_ofScientific_eq hc hdigits he hv)

/-- how many places there are before the point, and whether the decimal is tried at all -/
theorem size_bounds : -400 ≤ digitCount digits + exponent ∧ digitCount digits + exponent ≤ 400 := by
  have hlt : ∀ {a b : Int}, (10 : ℚ) ^ a < 10 ^ b → a < b := fun h => (zpow_lt_zpow_iff_right₀ (by norm_num)).1 h
  have hten : (0 : ℚ) < 10 ^ exponent := by positivity
  have hcount := digitCount_pos hdigits
  obtain ⟨hleast, hmost⟩ := pow_digitCount hdigits
  obtain ⟨hlow, hhigh⟩ := hv.bounds hc he
  constructor
  · have habove : (10 : ℚ) ^ (-400 : ℤ) < 10 ^ (digitCount digits + exponent) := by
      calc (10 : ℚ) ^ (-400 : ℤ) < 2 ^ (-1075 : ℤ) := by
            rw [zpow_neg, zpow_neg]
            exact inv_strictAnti₀ (by positivity) (two_pow_lt_ten_pow (by decide) (by decide))
        _ ≤ digits * 10 ^ exponent := hlow
        _ ≤ 10 ^ digitCount digits * 10 ^ exponent := mul_le_mul_of_nonneg_right (by exact_mod_cast hmost.le) hten.le
        _ = 10 ^ (digitCount digits + exponent) := by rw [zpow_add₀ (by norm_num), zpow_natCast]
    exact (hlt habove).le
  · have hbelow : (10 : ℚ) ^ (((digitCount digits - 1 : Nat) : ℤ) + exponent) < 10 ^ (400 : ℤ) := by
      calc (10 : ℚ) ^ (((digitCount digits - 1 : Nat) : ℤ) + exponent)
          = 10 ^ (digitCount digits - 1) * 10 ^ exponent := by rw [zpow_add₀ (by norm_num), zpow_natCast]
        _ ≤ digits * 10 ^ exponent := mul_le_mul_of_nonneg_right (by exact_mod_cast hleast) hten.le
        _ < 2 ^ (1024 : ℤ) := hhigh
        _ < 10 ^ (400 : ℤ) := two_pow_lt_ten_pow (by decide) (by decide)
    have := hlt hbelow
    omega

theorem nearest_eq (negative : Bool) :
    nearest negative digits exponent = packed (.finite (signOf negative) m e hc.pos) := by
  obtain ⟨hlow, hhigh⟩ := size_bounds hc hdigits he hv
  have hsome : ¬(digits = 0 ∨ digitCount digits + exponent < -400) := by
    rintro (hzero | hsmall)
    · exact hdigits.ne' hzero
    · exact not_lt.2 hlow hsmall
  unfold nearest
  dsimp only
  rw [if_neg hsome, if_neg (not_lt.2 hhigh), ofScientific_eq hc hdigits he hv]
  cases negative with
  | false => rfl
  | true => exact packed_neg hc he

end

/-! ## Printing and reading -/

/-- **Printing and reading.** The printed form of a floating point number is read as the same number, whichever number
it is: finite or not, and with the sign of zero. -/
theorem readFloat?_render (x : Float) : readFloat? (render "NaN" "Infinity" "-Infinity" x).toList = some x := by
  cases hx : Double.ofFloat x with
  | nan =>
    rw [render, hx, eq_nan_of_ofFloat hx]
    rfl
  | infinite negative =>
    rw [render, hx, eq_infinity_of_ofFloat hx]
    cases negative <;> rfl
  | finite negative m e =>
    obtain ⟨n, -, htext, hvalue⟩ := exists_numeral hx
    rw [htext, n.readFloat?_text]
    rcases hvalue with ⟨rfl, hzero⟩ | ⟨hm, hcontains⟩
    · rw [eq_zero_of_ofFloat hx, nearest, hzero]
      rfl
    · obtain ⟨hc, he, rfl⟩ := eq_packed_of_ofFloat hx hm
      have hnear := hcontains.near hm
      have hdigits : 0 < n.digits := by
        refine Nat.pos_of_ne_zero fun hzero => ?_
        have hlow := (hnear.bounds hc he).1
        rw [Numeral.value, hzero, Nat.cast_zero, zero_mul] at hlow
        exact absurd hlow (not_le.2 (by positivity))
      rw [nearest_eq hc hdigits he hnear]

end Crowfoot.Decimal
