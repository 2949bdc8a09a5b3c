import Crowfoot.Proofs.Decimal.Shortest

/-
Rounding to the nearest floating point number, ties to even. Whatever way a positive number comes as a mantissa, an
exponent and what is left over, rounding it gives the floating point number in whose interval it lies.

- `Stands.roundedMantissa_eq`: a mantissa with its two residual bits is rounded to the nearest integer;
- `roundWithAccuracy_eq`: a number is rounded to the one in whose interval it lies;
- `mul_eq`, `div_eq`: so are products and quotients.
-/

namespace Crowfoot.Decimal

open Float.Model Float.Model.UnpackedFloat

/-! ## Residual bits -/

/-- what the round bit is worth -/
def half (b : Bool) : ℚ := if b then 1 / 2 else 0

/-- what a mantissa with its residual bits stands for: the sticky bit says that there is more, less than one half -/
def Stands (em : ExtendedMantissa) (x : ℚ) : Prop :=
  if em.stickyBit then em.mantissa + half em.roundBit < x ∧ x < em.mantissa + half em.roundBit + 1 / 2
  else x = em.mantissa + half em.roundBit

theorem stands_exact (m : Nat) : Stands (.ofMantissaAndAccuracy m .exact) m := by
  simp [Stands, ExtendedMantissa.ofMantissaAndAccuracy, half]

/-- the residual bits of a quotient are those of its remainder -/
theorem stands_quotient (m : Nat) {d : Nat} (hd : 0 < d) :
    Stands (.ofMantissaAndAccuracy (m / d) (accuracyOfFraction (m % d) d)) (m / d) := by
  have hd' : (0 : ℚ) < d := by exact_mod_cast hd
  have hlt : ((m % d : Nat) : ℚ) < d := by exact_mod_cast Nat.mod_lt m hd
  have hone : ((m % d : Nat) : ℚ) / d < 1 := (div_lt_one hd').2 hlt
  have hsplit : (m : ℚ) / d = (m / d : Nat) + (m % d : Nat) / d := by
    have hcast : (m : ℚ) = d * (m / d : Nat) + (m % d : Nat) := by exact_mod_cast (Nat.div_add_mod m d).symm
    rw [div_eq_iff hd'.ne', hcast]
    field_simp
  have hdouble : ∀ r : Nat, (r : ℚ) / d = 1 / 2 * ((2 * r : Nat) / d) := by
    intro r
    push_cast
    ring
  rw [hsplit]
  unfold accuracyOfFraction
  split_ifs with hzero
  · simpa [hzero] using stands_exact (m / d)
  · have hpos : (0 : ℚ) < (m % d : Nat) / d := div_pos (by exact_mod_cast Nat.pos_of_ne_zero hzero) hd'
    cases hcompare : compare (2 * (m % d)) d with
    | lt =>
      have hsmall : ((2 * (m % d) : Nat) : ℚ) / d < 1 :=
        (div_lt_one hd').2 (by exact_mod_cast Nat.compare_eq_lt.1 hcompare)
      have hhalf := hdouble (m % d)
      simp only [Stands, ExtendedMantissa.ofMantissaAndAccuracy, half, if_true, Bool.false_eq_true, if_false]
      constructor <;> linarith
    | eq =>
      have hsame : ((2 * (m % d) : Nat) : ℚ) / d = 1 :=
        (div_eq_one_iff_eq hd'.ne').2 (by exact_mod_cast Nat.compare_eq_eq.1 hcompare)
      have hhalf := hdouble (m % d)
      simp only [Stands, ExtendedMantissa.ofMantissaAndAccuracy, half, if_true, Bool.false_eq_true, if_false]
      linarith
    | gt =>
      have hlarge : 1 < ((2 * (m % d) : Nat) : ℚ) / d :=
        (one_lt_div hd').2 (by exact_mod_cast Nat.compare_eq_gt.1 hcompare)
      have hhalf := hdouble (m % d)
      simp only [Stands, ExtendedMantissa.ofMantissaAndAccuracy, half, if_true]
      constructor <;> linarith

/-- halving drops the last bit into the round bit, and the round bit into the sticky bit -/
theorem Stands.shiftRightOne {em : ExtendedMantissa} {x : ℚ} (h : Stands em x) : Stands em.shiftRightOne (x / 2) := by
  obtain ⟨m, r, s⟩ := em
  have hm : (m : ℚ) = 2 * (m / 2 : Nat) + (m % 2 : Nat) := by exact_mod_cast (Nat.div_add_mod m 2).symm
  have hbit : ((m % 2 : Nat) : ℚ) / 2 = half (m % 2 != 0) := by
    rcases Nat.mod_two_eq_zero_or_one m with hmod | hmod <;> rw [hmod] <;> norm_num [half]
  cases r <;> cases s <;>
    simp only [Stands, ExtendedMantissa.shiftRightOne, Bool.or_true, Bool.or_false, Bool.false_eq_true, if_true,
      if_false] at h ⊢ <;>
    simp only [half, Bool.false_eq_true, if_true, if_false] at h <;>
    rw [← hbit]
  · linarith
  all_goals constructor <;> linarith

theorem Stands.shiftRight {em : ExtendedMantissa} {x : ℚ} (h : Stands em x) (n : Nat) :
    Stands (em >>> n) (x / 2 ^ n) := by
  change Stands (n.repeat ExtendedMantissa.shiftRightOne em) _
  induction n with
  | zero => simpa [Nat.repeat] using h
  | succ n ih =>
    rw [Nat.repeat, pow_succ, ← div_div]
    exact ih.shiftRightOne

/-- **Nearest integer.** A number within one half of an integer is rounded to it, on a tie if the integer is even. -/
theorem Stands.roundedMantissa_eq {em : ExtendedMantissa} {x : ℚ} (h : Stands em x) {k : Nat}
    (hlow : (k : ℚ) - 1 / 2 ≤ x) (hhigh : x ≤ k + 1 / 2)
    (htie : k % 2 = 1 → (k : ℚ) - 1 / 2 < x ∧ x < k + 1 / 2) : em.roundedMantissa = k := by
  obtain ⟨m, r, s⟩ := em
  have hlt : ∀ {a b : Nat}, (a : ℚ) < b → a < b := fun h => by exact_mod_cast h
  cases r <;> cases s <;> simp only [Stands, half, Bool.false_eq_true, if_true, if_false] at h
  · have hle : m < k + 1 := hlt (by push_cast; linarith)
    have hge : k < m + 1 := hlt (by push_cast; linarith)
    show m = k
    omega
  · have hle : m < k + 1 := hlt (by push_cast; linarith)
    have hge : k < m + 1 := hlt (by push_cast; linarith)
    show m = k
    omega
  · have hle : m < k + 1 := hlt (by push_cast; linarith)
    have hge : k < m + 2 := hlt (by push_cast; linarith)
    have heven : k % 2 = 0 := by
      by_contra hodd
      obtain ⟨hlow', hhigh'⟩ := htie (by omega)
      have hle' : m < k := hlt (by linarith)
      have hge' : k < m + 1 := hlt (by push_cast; linarith)
      omega
    show m + m % 2 = k
    omega
  · have hle : m < k := hlt (by linarith)
    have hge : k < m + 2 := hlt (by push_cast; linarith)
    show m + 1 = k
    omega

theorem Stands.bounds {em : ExtendedMantissa} {x : ℚ} (h : Stands em x) : em.mantissa ≤ x ∧ x < em.mantissa + 1 := by
  obtain ⟨m, r, s⟩ := em
  cases r <;> cases s <;> simp only [Stands, half, Bool.false_eq_true, if_true, if_false] at h ⊢ <;>
    constructor <;> linarith

/-! ## Floating point numbers -/

/-- the form in which every positive floating point number is kept -/
structure Canonical (m : Nat) (e : Int) : Prop where
  pos : 0 < m
  lt : m < 2 ^ 53
  min : -1074 ≤ e
  normal : 2 ^ 52 ≤ m ∨ e = -1074

/-- a number that rounds to `m · 2 ^ e` -/
structure Near (m : Nat) (e : Int) (v : ℚ) : Prop where
  low : ((m : ℚ) - 1 / 2) * 2 ^ e ≤ v
  high : v ≤ (m + 1 / 2) * 2 ^ e
  odd : m % 2 = 1 → ((m : ℚ) - 1 / 2) * 2 ^ e < v ∧ v < (m + 1 / 2) * 2 ^ e
  /-- just below a power of two the numbers lie closer -/
  power : m = 2 ^ 52 → -1074 < e → ((m : ℚ) - 1 / 4) * 2 ^ e ≤ v

theorem near_self (m : Nat) (e : Int) : Near m e (m * 2 ^ e) := by
  have hpow : (0 : ℚ) < 2 ^ e := by positivity
  constructor
  · nlinarith
  · nlinarith
  · intro
    constructor <;> nlinarith
  · intro _ _
    nlinarith

/-- the interval of the shortest decimal is that of the numbers that round to its number -/
theorem Rounding.Contains.near {m : Nat} {e : Int} {v : ℚ} (hm : 0 < m) (h : (rounding m e).Contains e v) :
    Near m e v := by
  have hq := quarter_pos e
  have hlow := rounding_low hm e
  have hhigh := rounding_high m e
  have hleast : 4 * (m : ℚ) - 2 ≤ (rounding m e).low := by
    rw [hlow]
    split_ifs <;> linarith
  have hscaled := mul_le_mul_of_nonneg_right hleast hq.le
  have hweak : (rounding m e).low * quarter e ≤ v ∧ v ≤ (4 * m + 2) * quarter e := by
    rw [← hhigh]
    unfold Rounding.Contains at h
    split_ifs at h
    · exact h
    · exact ⟨h.1.le, h.2.le⟩
  have hstrict : m % 2 = 1 → (rounding m e).low * quarter e < v ∧ v < (4 * m + 2) * quarter e := by
    intro hodd
    rw [← hhigh]
    unfold Rounding.Contains at h
    rwa [if_neg (by simp [rounding, hodd])] at h
  constructor
  · rw [← four_quarters]
    linarith [hweak.1]
  · rw [← four_quarters]
    linarith [hweak.2]
  · intro hodd
    rw [← four_quarters]
    constructor
    · linarith [(hstrict hodd).1]
    · linarith [(hstrict hodd).2]
  · intro hpower he
    have hone := hweak.1
    rw [hlow, if_pos ⟨hpower, he⟩] at hone
    rw [← four_quarters]
    linarith

/-- the exponent at which a number is rounded -/
theorem targetExponent_eq (k : Int) : Format.binary64.targetExponent k = max (k - 53) (-1074) := rfl

/-- the exponent at which a number is rounded, told by the number alone -/
structure Target (t : Int) (v : ℚ) : Prop where
  min : -1074 ≤ t
  lt : v < 2 ^ (t + 53)
  le : t = -1074 ∨ 2 ^ (t + 52) ≤ v

theorem target_of_bounds {m : Nat} {e : Int} {v : ℚ} (hlow : m * 2 ^ e ≤ v) (hhigh : v < (m + 1) * 2 ^ e)
    (he : e ≤ Format.binary64.targetExponent (totalExponent m e)) :
    Target (Format.binary64.targetExponent (totalExponent m e)) v := by
  rw [targetExponent_eq] at he ⊢
  unfold totalExponent at he ⊢
  have hpow : (0 : ℚ) < 2 ^ e := by positivity
  have htop : (m : ℚ) + 1 ≤ 2 ^ ((m.log2 : ℤ) + 1) := by
    exact_mod_cast Nat.lt_log2_self
  refine ⟨le_max_right _ _, ?_, ?_⟩
  · calc v < (m + 1) * 2 ^ e := hhigh
      _ ≤ 2 ^ ((m.log2 : ℤ) + 1) * 2 ^ e := mul_le_mul_of_nonneg_right htop hpow.le
      _ = 2 ^ ((m.log2 : ℤ) + 1 + e) := (zpow_add₀ (by norm_num) _ _).symm
      _ ≤ _ := zpow_le_zpow_right₀ (by norm_num) (by omega)
  · by_cases hmin : (m.log2 : ℤ) + 1 + e - 53 ≤ -1074
    · exact .inl (max_eq_right hmin)
    · have hm : m ≠ 0 := by
        rintro rfl
        simp at he hmin
        omega
      have hbottom : (2 : ℚ) ^ (m.log2 : ℤ) ≤ m := by
        exact_mod_cast Nat.log2_self_le hm
      refine .inr ?_
      rw [max_eq_left (by omega)]
      calc (2 : ℚ) ^ ((m.log2 : ℤ) + 1 + e - 53 + 52) = 2 ^ (m.log2 : ℤ) * 2 ^ e := by
            rw [← zpow_add₀ (by norm_num)]
            congr 1
            omega
        _ ≤ m * 2 ^ e := mul_le_mul_of_nonneg_right hbottom hpow.le
        _ ≤ v := hlow

/-- rounding takes place at the exponent of the result, or one below when it carries into the next power of two -/
theorem Target.cases {m : Nat} {e t : Int} {v : ℚ} (ht : Target t v) (hc : Canonical m e) (hv : Near m e v) :
    t = e ∨ t = e - 1 ∧ m = 2 ^ 52 ∧ v < 2 ^ (e + 52) := by
  have hlt : ∀ {a b : Int}, (2 : ℚ) ^ a < 2 ^ b → a < b := fun h => (zpow_lt_zpow_iff_right₀ (by norm_num)).1 h
  have hpow : (0 : ℚ) < 2 ^ e := by positivity
  have hsize : (m : ℚ) + 1 ≤ 2 ^ 53 := by exact_mod_cast hc.lt
  have hle : t ≤ e := by
    rcases ht.le with rfl | hbottom
    · exact hc.min
    · have h : (2 : ℚ) ^ (t + 52) < 2 ^ (e + 53) := by
        rw [zpow_add₀ (by norm_num) e]
        norm_num
        nlinarith [hv.high]
      have := hlt h
      omega
  by_cases hmin : e = -1074
  · exact .inl (le_antisymm hle (hmin ▸ ht.min))
  have hnormal := hc.normal.resolve_right hmin
  have hnormal' : (2 : ℚ) ^ 52 ≤ m := by exact_mod_cast hnormal
  have hge : e - 1 ≤ t := by
    have h : (2 : ℚ) ^ (e + 51) < 2 ^ (t + 53) := by
      refine lt_of_lt_of_le' ht.lt ?_
      rw [zpow_add₀ (by norm_num)]
      norm_num
      nlinarith [hv.low]
    have := hlt h
    omega
  rcases (show t = e ∨ t = e - 1 by omega) with rfl | rfl
  · exact .inl rfl
  · have hbelow : v < 2 ^ (e + 52) := by
      have h := ht.lt
      rwa [show e - 1 + 53 = e + 52 by omega] at h
    refine .inr ⟨rfl, ?_, hbelow⟩
    by_contra hne
    have hmore : (2 : ℚ) ^ 52 + 1 ≤ m := by exact_mod_cast Nat.lt_of_le_of_ne hnormal (Ne.symm hne)
    rw [zpow_add₀ (by norm_num)] at hbelow
    norm_num at hbelow
    nlinarith [hv.low]

theorem shiftToTargetExponent_eq {m : Nat} {e t : Int} (accuracy : Accuracy)
    (ht : Format.binary64.targetExponent (totalExponent m e) = t) (he : e ≤ t) :
    shiftToTargetExponent .binary64 m e accuracy
      = (ExtendedMantissa.ofMantissaAndAccuracy m accuracy >>> (t - e).toNat, t) := by
  unfold shiftToTargetExponent shiftToExponent
  rw [ht]
  dsimp only
  rw [Int.toNat_of_nonneg (by omega), add_sub_cancel]

theorem Canonical.log2_lt {m : Nat} {e : Int} (hc : Canonical m e) : m.log2 < 53 := (Nat.log2_lt hc.pos.ne').2 hc.lt

theorem Canonical.targetExponent {m : Nat} {e : Int} (hc : Canonical m e) :
    Format.binary64.targetExponent (totalExponent m e) = e := by
  have hlt := hc.log2_lt
  have hmin := hc.min
  rw [targetExponent_eq, totalExponent]
  rcases hc.normal with hnormal | hmin'
  · have hge := (Nat.le_log2 hc.pos.ne').2 hnormal
    omega
  · omega

/-- what is kept of a number in its form is all of it -/
theorem Canonical.shiftToTargetExponent {m : Nat} {e : Int} (hc : Canonical m e) :
    shiftToTargetExponent .binary64 m e .exact = (⟨m, false, false⟩, e) := by
  rw [shiftToTargetExponent_eq .exact hc.targetExponent le_rfl, sub_self]
  rfl

/-- a mantissa that has become too large by one step is halved -/
theorem shiftToTargetExponent_carry {e : Int} (he : -1074 < e) :
    shiftToTargetExponent .binary64 (2 ^ 53) (e - 1) .exact = (⟨2 ^ 52, false, false⟩, e) := by
  have ht : Format.binary64.targetExponent (totalExponent (2 ^ 53) (e - 1)) = e := by
    rw [targetExponent_eq, totalExponent, Nat.log2_two_pow]
    omega
  rw [shiftToTargetExponent_eq .exact ht (by omega), show (e - (e - 1)).toNat = 1 by omega]
  rfl

/-- at the exponent of the result the mantissa is rounded to that of the result -/
theorem Near.roundedMantissa_eq {em : ExtendedMantissa} {m : Nat} {e : Int} {v : ℚ} (hv : Near m e v)
    (hstands : Stands em (v / 2 ^ e)) : em.roundedMantissa = m := by
  have hpow : (0 : ℚ) < 2 ^ e := by positivity
  refine hstands.roundedMantissa_eq ((le_div_iff₀ hpow).2 hv.low) ((div_le_iff₀ hpow).2 hv.high) fun hodd => ?_
  obtain ⟨hlow, hhigh⟩ := hv.odd hodd
  exact ⟨(lt_div_iff₀ hpow).2 hlow, (div_lt_iff₀ hpow).2 hhigh⟩

/-- below a power of two that is the result, the mantissa has one bit more and is rounded up to a power of two -/
theorem Near.roundedMantissa_carry {em : ExtendedMantissa} {e : Int} {v : ℚ} (hv : Near (2 ^ 52) e v) (hmin : -1074 < e)
    (hbelow : v < 2 ^ (e + 52)) (hstands : Stands em (v / 2 ^ (e - 1))) : em.roundedMantissa = 2 ^ 53 := by
  have hpow : (0 : ℚ) < 2 ^ (e - 1) := by positivity
  have hlower := hv.power rfl hmin
  have hdouble : (2 : ℚ) ^ e = 2 * 2 ^ (e - 1) := by
    rw [← zpow_one_add₀ (by norm_num)]
    congr 1
    omega
  rw [hdouble] at hlower
  rw [zpow_add₀ (by norm_num), hdouble] at hbelow
  refine hstands.roundedMantissa_eq ((le_div_iff₀ hpow).2 ?_) ((div_le_iff₀ hpow).2 ?_)
    fun hodd => absurd hodd (by decide)
  · push_cast at hlower ⊢
    linarith
  · push_cast
    norm_num at hbelow
    linarith

theorem mantissa_ofMantissaAndAccuracy (m : Nat) (accuracy : Accuracy) :
    (ExtendedMantissa.ofMantissaAndAccuracy m accuracy).mantissa = m := by
  cases accuracy with
  | exact => rfl
  | inexact o => cases o <;> rfl

/-- **Rounding.** A positive number is rounded to the floating point number in whose interval it lies. -/
theorem roundWithAccuracy_eq {m : Nat} {e : Int} {v : ℚ} (hc : Canonical m e) (hv : Near m e v) {m₀ : Nat} {e₀ : Int}
    {accuracy : Accuracy} (hstands : Stands (.ofMantissaAndAccuracy m₀ accuracy) (v / 2 ^ e₀))
    (he : e₀ ≤ Format.binary64.targetExponent (totalExponent m₀ e₀)) (sign : Sign) :
    roundWithAccuracy .binary64 sign m₀ e₀ accuracy = .finite sign m e hc.pos := by
  have hpow : (0 : ℚ) < 2 ^ e₀ := by positivity
  obtain ⟨hlow, hhigh⟩ := hstands.bounds
  rw [mantissa_ofMantissaAndAccuracy, le_div_iff₀ hpow] at hlow
  rw [mantissa_ofMantissaAndAccuracy, div_lt_iff₀ hpow] at hhigh
  have htarget := target_of_bounds hlow hhigh he
  have hfirst := shiftToTargetExponent_eq accuracy rfl he
  generalize Format.binary64.targetExponent (totalExponent m₀ e₀) = t at he htarget hfirst
  have hshifted : Stands (ExtendedMantissa.ofMantissaAndAccuracy m₀ accuracy >>> (t - e₀).toNat) (v / 2 ^ t) := by
    have h := hstands.shiftRight (t - e₀).toNat
    rwa [div_div, ← zpow_natCast, Int.toNat_of_nonneg (by omega), ← zpow_add₀ (by norm_num), add_sub_cancel] at h
  unfold roundWithAccuracy
  rw [hfirst]
  dsimp only
  rcases htarget.cases hc hv with rfl | ⟨rfl, rfl, hbelow⟩
  · rw [hv.roundedMantissa_eq hshifted, hc.shiftToTargetExponent, dif_neg hc.pos.ne']
  · have hmin : -1074 < e := by
      have := htarget.min
      omega
    rw [hv.roundedMantissa_carry hmin hbelow hshifted, shiftToTargetExponent_carry hmin, dif_neg hc.pos.ne']

/-! ## Products and quotients -/

section

variable {m : Nat} {e : Int} (hc : Canonical m e) {m₁ m₂ : Nat} {e₁ e₂ : Int} (h₁ : 0 < m₁) (h₂ : 0 < m₂)
  (s₁ s₂ : Sign)

/-- a product that is near a number is that number; there are enough bits to begin with -/
theorem mul_eq (hv : Near m e (m₁ * 2 ^ e₁ * (m₂ * 2 ^ e₂))) (hbits : 2 ^ 52 ≤ m₁ * m₂) :
    UnpackedFloat.mul .binary64 (.finite s₁ m₁ e₁ h₁) (.finite s₂ m₂ e₂ h₂) = .finite (s₁ * s₂) m e hc.pos := by
  have hlog : 52 ≤ (m₁ * m₂).log2 := (Nat.le_log2 (Nat.mul_pos h₁ h₂).ne').2 hbits
  have hvalue : (m₁ : ℚ) * 2 ^ e₁ * (m₂ * 2 ^ e₂) / 2 ^ (e₁ + e₂) = (m₁ * m₂ : Nat) := by
    rw [div_eq_iff (by positivity), zpow_add₀ (by norm_num)]
    push_cast
    ring
  refine roundWithAccuracy_eq hc hv (hvalue ▸ stands_exact _) ?_ _
  rw [targetExponent_eq, totalExponent]
  omega

include h₁ h₂ in
/-- a quotient is computed with enough bits -/
theorem le_quotient {s : Nat} (hs : 53 + m₂.log2 ≤ m₁.log2 + s) : 2 ^ 52 ≤ (m₁ <<< s) / m₂ := by
  rw [Nat.le_div_iff_mul_le h₂, Nat.shiftLeft_eq]
  calc 2 ^ 52 * m₂ ≤ 2 ^ 52 * 2 ^ (m₂.log2 + 1) := Nat.mul_le_mul_left _ Nat.lt_log2_self.le
    _ = 2 ^ (53 + m₂.log2) := by
        rw [← pow_add]
        congr 1
        omega
    _ ≤ 2 ^ (m₁.log2 + s) := Nat.pow_le_pow_right (by decide) hs
    _ = 2 ^ m₁.log2 * 2 ^ s := pow_add _ _ _
    _ ≤ m₁ * 2 ^ s := Nat.mul_le_mul_right _ (Nat.log2_self_le h₁.ne')

/-- a quotient that is near a number is that number -/
theorem div_eq (hv : Near m e (m₁ * 2 ^ e₁ / (m₂ * 2 ^ e₂))) :
    UnpackedFloat.div .binary64 (.finite s₁ m₁ e₁ h₁) (.finite s₂ m₂ e₂ h₂) = .finite (s₁ / s₂) m e hc.pos := by
  unfold UnpackedFloat.div divCore
  dsimp only
  rw [targetExponent_eq, totalExponent, totalExponent]
  generalize ht : min (e₁ - e₂) (max ((m₁.log2 : ℤ) + 1 + e₁ - ((m₂.log2 : ℤ) + 1 + e₂) - 53) (-1074)) = t
  have hle : t ≤ e₁ - e₂ := ht ▸ min_le_left _ _
  refine roundWithAccuracy_eq hc hv ?_ ?_ _
  · have hvalue : (m₁ : ℚ) * 2 ^ e₁ / (m₂ * 2 ^ e₂) / 2 ^ t = (m₁ <<< (e₁ - e₂ - t).toNat : Nat) / m₂ := by
      have hpow : (2 : ℚ) ^ e₁ = 2 ^ (e₁ - e₂ - t).toNat * 2 ^ e₂ * 2 ^ t := by
        rw [← zpow_natCast, Int.toNat_of_nonneg (by omega), ← zpow_add₀ (by norm_num), ← zpow_add₀ (by norm_num)]
        congr 1
        omega
      rw [Nat.shiftLeft_eq, hpow]
      push_cast
      field_simp
    exact hvalue ▸ stands_quotient _ h₂
  · rw [targetExponent_eq, totalExponent]
    by_cases hmin : t ≤ -1074
    · exact le_max_of_le_right hmin
    · have hquotient : 2 ^ 52 ≤ (m₁ <<< (e₁ - e₂ - t).toNat) / m₂ := le_quotient h₁ h₂ (by omega)
      have hlog := (Nat.le_log2 (by omega)).2 hquotient
      omega

end

end Crowfoot.Decimal
