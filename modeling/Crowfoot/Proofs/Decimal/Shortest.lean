import Mathlib.Tactic
import Crowfoot.Decimal.Shortest

/-
The shortest decimal of a number lies among the numbers that round to it. The comparisons are made between integers,
both sides multiplied out; here they are brought back to the rational numbers they stand for.

- `onGrid?_spec`: the grid of one digit count, whose nearest decimal is tried first;
- `exists_onGrid?`: with seventeen digits the nearest decimal is inside the interval;
- `shortest_contains`: the shortest decimal is inside.
-/

namespace Crowfoot.Decimal

/-- the value of a decimal -/
def Scientific.value (s : Scientific) : ℚ := s.digits * 10 ^ s.exponent

/-- one quarter of the last binary place -/
def quarter (exponent : Int) : ℚ := 2 ^ (exponent - 2)

/-- whether a number rounds to the one that the interval is about -/
def Rounding.Contains (r : Rounding) (exponent : Int) (v : ℚ) : Prop :=
  if r.closed then r.low * quarter exponent ≤ v ∧ v ≤ r.high * quarter exponent
  else r.low * quarter exponent < v ∧ v < r.high * quarter exponent

/-! ## Multiplied out -/

theorem pow_toNat_eq {b : ℚ} (hb : b ≠ 0) (z : Int) : b ^ z.toNat = b ^ z * b ^ (-z).toNat := by
  rcases le_total 0 z with hz | hz
  · rw [Int.toNat_of_nonpos (by omega : -z ≤ 0), pow_zero, mul_one, ← zpow_natCast, Int.toNat_of_nonneg hz]
  · rw [Int.toNat_of_nonpos hz, pow_zero, ← zpow_natCast b (-z).toNat, Int.toNat_of_nonneg (by omega), ← zpow_add₀ hb,
      add_neg_cancel, zpow_zero]

theorem fraction_fst (m : Nat) (e : Int) :
    ((Double.fraction m e).1 : ℚ) = m * 2 ^ e * (Double.fraction m e).2 := by
  have h := pow_toNat_eq (b := 2) (by norm_num) e
  simp only [Double.fraction, Nat.pow_eq, Nat.cast_mul, Nat.cast_pow, Nat.cast_ofNat]
  rw [h, mul_assoc]

theorem fraction_snd_pos (m : Nat) (e : Int) : 0 < (Double.fraction m e).2 := Nat.pow_pos (by decide)

/-- the factor by which quarters and steps are multiplied out -/
theorem exists_scale (e step : Int) : ∃ c : ℚ, 0 < c
    ∧ (((Double.fraction 1 (e - 2)).1 * Nat.pow 10 (-step).toNat : Nat) : ℚ) = quarter e * c
    ∧ ((Nat.pow 10 step.toNat * (Double.fraction 1 (e - 2)).2 : Nat) : ℚ) = 10 ^ step * c := by
  have hten := pow_toNat_eq (b := 10) (by norm_num) step
  have htwo := fraction_fst 1 (e - 2)
  have hpos : (0 : ℚ) < (Double.fraction 1 (e - 2)).2 := by exact_mod_cast fraction_snd_pos 1 (e - 2)
  refine ⟨10 ^ (-step).toNat * (Double.fraction 1 (e - 2)).2, by positivity, ?_, ?_⟩
  · simp only [Nat.pow_eq, Nat.cast_mul, Nat.cast_pow, Nat.cast_ofNat, htwo, quarter, Nat.cast_one]
    ring
  · simp only [Nat.pow_eq, Nat.cast_mul, Nat.cast_pow, Nat.cast_ofNat, hten]
    ring

/-- comparing multiplied out is comparing -/
theorem mul_le_mul_scaled {c x y : ℚ} (hc : 0 < c) {a b : Nat} (ha : (a : ℚ) = x * c) (hb : (b : ℚ) = y * c)
    (k d : Nat) : k * a ≤ d * b ↔ (k : ℚ) * x ≤ d * y := by
  rw [← Nat.cast_le (α := ℚ), Nat.cast_mul, Nat.cast_mul, ha, hb, ← mul_assoc, ← mul_assoc, mul_le_mul_iff_left₀ hc]

theorem four_quarters (e : Int) : 4 * quarter e = 2 ^ e := by
  rw [quarter, zpow_sub₀ (by norm_num)]
  norm_num
  ring

/-! ## One grid -/

/-- the power of ten of the last digit, for decimals of `count` digits -/
def gridExponent (m : Nat) (e : Int) (count : Nat) : Int :=
  leadingPower (Double.fraction m e).1 (Double.fraction m e).2 - count + 1

/-- one of two neighbours is not further away than half a step -/
theorem near_of_gap {v d u : Nat} (hle : d * u ≤ v) (hlt : v < (d + 1) * u) :
    (v - d * u ≤ (d + 1) * u - v → |(d : ℚ) * u - v| ≤ u / 2)
      ∧ ((d + 1) * u - v ≤ v - d * u → |((d + 1 : Nat) : ℚ) * u - v| ≤ u / 2) := by
  have hle' : (d : ℚ) * u ≤ v := by exact_mod_cast hle
  have hlt' : (v : ℚ) < (d + 1) * u := by exact_mod_cast hlt
  constructor
  · intro hgap
    have hgap' : (v : ℚ) - d * u ≤ (d + 1) * u - v := by
      have h : v + v ≤ (d + 1) * u + d * u := by omega
      have h' : (v : ℚ) + v ≤ (d + 1) * u + d * u := by exact_mod_cast h
      linarith
    rw [abs_le]
    constructor <;> linarith
  · intro hgap
    have hgap' : ((d : ℚ) + 1) * u - v ≤ v - d * u := by
      have h : (d + 1) * u + d * u ≤ v + v := by omega
      have h' : ((d : ℚ) + 1) * u + d * u ≤ v + v := by exact_mod_cast h
      linarith
    push_cast
    rw [abs_le]
    constructor <;> linarith

/-- **One grid.** Two neighbours on the grid are tried; those count that are inside the interval, and the first one is
the nearest of all. -/
theorem onGrid?_spec (m : Nat) (e : Int) (count : Nat) :
    ∃ (first second : Nat) (inside : Nat → Bool),
      onGrid? m e count = ([first, second].find? inside).map (⟨·, gridExponent m e count⟩)
        ∧ (∀ d, inside d ↔ (rounding m e).Contains e (d * 10 ^ gridExponent m e count))
        ∧ |(first : ℚ) * 10 ^ gridExponent m e count - m * 2 ^ e| ≤ 10 ^ gridExponent m e count / 2 := by
  unfold onGrid?
  extract_lets r quarters value step stepUnit quarterUnit inside below gapBelow gapAbove belowFirst candidates
  obtain ⟨c, hc, hquarter, hstep⟩ :
      ∃ c : ℚ, 0 < c ∧ (quarterUnit : ℚ) = quarter e * c ∧ (stepUnit : ℚ) = 10 ^ step * c :=
    exists_scale e step
  have hgrid : gridExponent m e count = step := rfl
  rw [hgrid]
  have hinside : ∀ d, inside d ↔ r.Contains e (d * 10 ^ step) := by
    intro d
    simp only [inside, Rounding.Contains]
    split_ifs
    · simp only [Bool.and_eq_true, decide_eq_true_eq, mul_le_mul_scaled hc hquarter hstep,
        mul_le_mul_scaled hc hstep hquarter]
    · simp only [Bool.and_eq_true, decide_eq_true_eq, ← not_le, mul_le_mul_scaled hc hquarter hstep,
        mul_le_mul_scaled hc hstep hquarter]
  have hpos : 0 < stepUnit := by
    have : (0 : ℚ) < stepUnit := hstep ▸ by positivity
    exact_mod_cast this
  obtain ⟨hbelow, habove⟩ := near_of_gap (Nat.div_mul_le_self (r.value * quarterUnit) stepUnit)
    (Nat.lt_div_mul_add hpos |>.trans_eq (Nat.succ_mul _ _).symm)
  have hvalue : ((r.value * quarterUnit : Nat) : ℚ) = m * 2 ^ e * c := by
    rw [Nat.cast_mul, hquarter, ← four_quarters e]
    simp only [r, rounding, Nat.cast_mul, Nat.cast_ofNat]
    ring
  have hscale : ∀ d : Nat, |(d : ℚ) * stepUnit - (r.value * quarterUnit : Nat)| ≤ stepUnit / 2 →
      |(d : ℚ) * 10 ^ step - m * 2 ^ e| ≤ 10 ^ step / 2 := by
    intro d h
    rw [hvalue, hstep, ← mul_assoc, ← sub_mul, abs_mul, abs_of_pos hc, mul_div_right_comm] at h
    exact (mul_le_mul_iff_left₀ hc).1 h
  by_cases hfirst : belowFirst
  · refine ⟨below, below + 1, inside, by simp [candidates, hfirst], hinside, hscale _ (hbelow ?_)⟩
    simp only [belowFirst, Bool.or_eq_true, Bool.and_eq_true, decide_eq_true_eq, beq_iff_eq] at hfirst
    exact hfirst.elim Nat.le_of_lt fun h => Nat.le_of_eq h.1
  · refine ⟨below + 1, below, inside, by simp [candidates, hfirst], hinside, hscale _ (habove ?_)⟩
    simp only [belowFirst, Bool.or_eq_true, Bool.and_eq_true, decide_eq_true_eq, beq_iff_eq, not_or] at hfirst
    exact Nat.le_of_not_lt hfirst.1

theorem onGrid?_contains {m : Nat} {e : Int} {count : Nat} {s : Scientific} (h : onGrid? m e count = some s) :
    (rounding m e).Contains e s.value := by
  obtain ⟨first, second, inside, hgrid, hinside, -⟩ := onGrid?_spec m e count
  rw [hgrid] at h
  obtain ⟨d, hd, rfl⟩ := Option.map_eq_some_iff.1 h
  exact (hinside d).1 (List.find?_some hd)

/-! ## Seventeen digits -/

theorem pow_digitCount {n : Nat} (h : 0 < n) : 10 ^ (digitCount n - 1) ≤ n ∧ n < 10 ^ digitCount n := by
  unfold digitCount
  rw [if_neg h.ne']
  have hlength : 0 < (Nat.toDigits 10 n).length := Nat.length_toDigits_pos
  constructor
  · by_contra hlt
    have hsmall := Nat.not_le.1 hlt
    rcases Nat.eq_or_lt_of_le hlength with hone | hmore
    · rw [← hone] at hsmall
      simp at hsmall
      omega
    · have := (Nat.length_toDigits_le_iff (by decide) (by omega)).2 hsmall
      omega
  · exact (Nat.length_toDigits_le_iff (by decide) hlength).1 le_rfl

theorem digitCount_pos {n : Nat} (h : 0 < n) : 0 < digitCount n := by
  rw [digitCount, if_neg h.ne']
  exact Nat.length_toDigits_pos

/-- the leading digit stands for no more than the whole number -/
theorem pow_leadingPower_le {p q : Nat} (hp : 0 < p) (hq : 0 < q) : (10 : ℚ) ^ leadingPower p q ≤ p / q := by
  have hp' : (0 : ℚ) < p := by exact_mod_cast hp
  have hq' : (0 : ℚ) < q := by exact_mod_cast hq
  unfold leadingPower
  split_ifs with hle
  · have hn : 0 < p / q := Nat.div_pos hle hq
    have hcount := digitCount_pos hn
    have hpow := (pow_digitCount hn).1
    rw [show ((digitCount (p / q) : ℤ) - 1) = ((digitCount (p / q) - 1 : Nat) : ℤ) by omega, zpow_natCast]
    calc (10 : ℚ) ^ (digitCount (p / q) - 1) ≤ ((p / q : Nat) : ℚ) := by exact_mod_cast hpow
      _ ≤ p / q := Nat.cast_div_le
  · have htwo : 2 ≤ (q + p - 1) / p := (Nat.le_div_iff_mul_le hp).2 (by omega)
    have hceil : q + p - 1 < (q + p - 1) / p * p + p := Nat.lt_div_mul_add hp
    have hpow := (pow_digitCount (n := (q + p - 1) / p - 1) (by omega)).2
    have hbound : q ≤ 10 ^ digitCount ((q + p - 1) / p - 1) * p :=
      le_trans (by omega) (Nat.mul_le_mul_right p (show (q + p - 1) / p ≤ _ by omega))
    rw [zpow_neg, zpow_natCast, inv_le_comm₀ (by positivity) (by positivity), inv_div, div_le_iff₀ hp']
    exact_mod_cast hbound

/-- a step of seventeen digits is small beside the last binary place -/
theorem pow_gridExponent_le {m : Nat} (hm : 0 < m) (e : Int) :
    (10 : ℚ) ^ gridExponent m e 17 * 10 ^ 16 ≤ m * 2 ^ e := by
  have hq := fraction_snd_pos m e
  have hp : 0 < (Double.fraction m e).1 := Nat.mul_pos hm (Nat.pow_pos (by decide))
  have hlead := pow_leadingPower_le hp hq
  rw [fraction_fst, mul_div_assoc, div_self (by exact_mod_cast hq.ne'), mul_one] at hlead
  refine le_trans (le_of_eq ?_) hlead
  rw [gridExponent, ← zpow_natCast, ← zpow_add₀ (by norm_num)]
  congr 1
  omega

theorem quarter_pos (e : Int) : 0 < quarter e := zpow_pos (by norm_num) _

theorem Rounding.contains_of_lt {r : Rounding} {e : Int} {v : ℚ} (hlow : r.low * quarter e < v)
    (hhigh : v < r.high * quarter e) : r.Contains e v := by
  unfold Contains
  split_ifs
  · exact ⟨hlow.le, hhigh.le⟩
  · exact ⟨hlow, hhigh⟩

theorem Rounding.Contains.low_le {r : Rounding} {e : Int} {v : ℚ} (h : r.Contains e v) : r.low * quarter e ≤ v := by
  unfold Contains at h
  split_ifs at h
  · exact h.1
  · exact h.1.le

/-- the interval on the lower side: two quarters, and one quarter just above a power of two -/
theorem rounding_low {m : Nat} (hm : 0 < m) (e : Int) :
    ((rounding m e).low : ℚ) = if m = 2 ^ 52 ∧ -1074 < e then 4 * (m : ℚ) - 1 else 4 * (m : ℚ) - 2 := by
  change (((if m = 2 ^ 52 ∧ -1074 < e then 4 * m - 1 else 4 * m - 2 : Nat)) : ℚ) = _
  split_ifs
  · rw [Nat.cast_sub (by omega)]
    push_cast
    ring
  · rw [Nat.cast_sub (by omega)]
    push_cast
    ring

theorem rounding_high (m : Nat) (e : Int) : ((rounding m e).high : ℚ) = 4 * m + 2 := by simp [rounding]

/-- **Seventeen digits are enough.** The nearest decimal of so many digits is inside the interval. -/
theorem exists_onGrid? {m : Nat} (hm : 0 < m) (hsize : m < 2 ^ 53) (e : Int) : ∃ s, onGrid? m e 17 = some s := by
  obtain ⟨first, second, inside, hgrid, hinside, hnear⟩ := onGrid?_spec m e 17
  have hstep := pow_gridExponent_le hm e
  have hq := quarter_pos e
  have hsize' : (m : ℚ) < 2 ^ 53 := by exact_mod_cast hsize
  rw [← four_quarters e] at hstep hnear
  obtain ⟨hlower, hupper⟩ := abs_le.1 hnear
  have hfirst : inside first := by
    rw [hinside]
    refine Rounding.contains_of_lt ?_ ?_
    · rw [rounding_low hm]
      split_ifs with hpower
      · rw [hpower.1] at hstep hlower ⊢
        push_cast at hstep hlower ⊢
        linarith
      · nlinarith
    · rw [rounding_high]
      nlinarith
  exact ⟨_, by rw [hgrid, List.find?_cons_of_pos hfirst]; rfl⟩

/-- **The shortest decimal.** It is inside the interval of the numbers that round to the one it is made for. -/
theorem shortest_contains {m : Nat} (hm : 0 < m) (hsize : m < 2 ^ 53) (e : Int) :
    (rounding m e).Contains e (shortest m e).value := by
  obtain ⟨s, hs⟩ := exists_onGrid? hm hsize e
  unfold shortest
  split
  next t ht =>
    obtain ⟨i, -, hi⟩ := List.exists_of_findSome?_eq_some ht
    exact onGrid?_contains hi
  next hnone =>
    have hlast := List.findSome?_eq_none_iff.1 hnone 16 (by decide)
    rw [hs] at hlast
    cases hlast

theorem shortest_digits_pos {m : Nat} (hm : 0 < m) (hsize : m < 2 ^ 53) (e : Int) : 0 < (shortest m e).digits := by
  have hlow := (shortest_contains hm hsize e).low_le
  have hq := quarter_pos e
  have hm' : (1 : ℚ) ≤ m := by exact_mod_cast hm
  have hpos : 0 < (shortest m e).value := by
    refine lt_of_lt_of_le (mul_pos ?_ hq) hlow
    rw [rounding_low hm]
    split_ifs <;> linarith
  by_contra hzero
  simp [Scientific.value, Nat.eq_zero_of_not_pos hzero] at hpos

end Crowfoot.Decimal
