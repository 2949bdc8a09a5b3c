import Mathlib
import Crowfoot.Decimal.Shortest
import Crowfoot.Proofs.Decimal.Rounding

/-
The bits of floating point numbers. A number is told by its sign, mantissa and exponent, which can be read off its
bits; and packing these gives the number again.

- `unpack_pack`: what is packed is unpacked;
- `eq_packed_of_ofFloat`: a number is the packed form of the parts it is taken apart into.
-/

namespace Crowfoot.Decimal

open Float.Model Float.Model.UnpackedFloat

def signOf (negative : Bool) : Sign := if negative then .negative else .positive

theorem float_ext {x y : Float} (h : x.toBits.toNat = y.toBits.toNat) : x = y := by
  obtain ⟨⟨b, hb⟩⟩ := x
  obtain ⟨⟨c, hc⟩⟩ := y
  have hbits : b = c := UInt64.toNat_inj.1 h
  subst hbits
  rfl

/-! ## Packing -/

theorem toNat_packComponents (s : Sign) (e : BitVec 11) (m : BitVec 52) :
    (packComponents .binary64 s e m).toNat = (s.toBitVec.toNat * 2 ^ 11 + e.toNat) * 2 ^ 52 + m.toNat := by
  unfold packComponents
  rw [BitVec.toNat_append, BitVec.toNat_append, ← Nat.shiftLeft_add_eq_or_of_lt m.isLt,
    ← Nat.shiftLeft_add_eq_or_of_lt e.isLt]
  simp [Nat.shiftLeft_eq]

theorem unpackSign_packComponents (s : Sign) (e : BitVec 11) (m : BitVec 52) :
    unpackSign (packComponents .binary64 s e m) = s.toBitVec := by
  apply BitVec.eq_of_toNat_eq
  have hs := s.toBitVec.isLt
  have he := e.isLt
  have hm := m.isLt
  rw [unpackSign, BitVec.toNat_cast, BitVec.extractLsb_toNat, toNat_packComponents, Nat.shiftRight_eq_div_pow]
  change (_ / 2 ^ 63) % 2 = _
  omega

theorem ofBitVec_toBitVec (s : Sign) : Sign.ofBitVec s.toBitVec = s := by
  cases s <;> rfl

section

variable {m : Nat} (hm : 0 < m) {e : Int} (s : Sign)

theorem pack_finite : UnpackedFloat.pack .binary64 (.finite s m e hm) =
    if 2 ^ 11 ≤ (e + 1075).toNat + 1 then packedInfinity .binary64 s
    else if m.log2 + 1 = 53 then
      packComponents .binary64 s (BitVec.ofNat 11 (e + 1075).toNat) (BitVec.ofNat 52 m)
    else packComponents .binary64 s 0#11 (BitVec.ofNat 52 m) := by
  have hbiased : (e + 1075).toNat = (e + (1023 : Nat) + (52 : Nat)).toNat := by omega
  rw [hbiased]
  rfl

theorem pack_normal (hlow : 2 ^ 52 ≤ m) (hlt : m < 2 ^ 53) (hmax : e ≤ 971) :
    UnpackedFloat.pack .binary64 (.finite s m e hm)
      = packComponents .binary64 s (BitVec.ofNat 11 (e + 1075).toNat) (BitVec.ofNat 52 m) := by
  have hlog : m.log2 + 1 = 53 := by
    have := (Nat.log2_lt hm.ne').2 hlt
    have := (Nat.le_log2 hm.ne').2 hlow
    omega
  rw [pack_finite, if_neg (by omega), if_pos hlog]

theorem pack_subnormal (hlt : m < 2 ^ 52) :
    UnpackedFloat.pack .binary64 (.finite s m (-1074) hm)
      = packComponents .binary64 s 0#11 (BitVec.ofNat 52 m) := by
  have hlog : m.log2 + 1 ≠ 53 := by
    have := (Nat.log2_lt hm.ne').2 hlt
    omega
  rw [pack_finite, if_neg (by decide), if_neg hlog]

end

theorem toNat_implicit (m : BitVec 52) : (1#1 ++ m).toNat = 2 ^ 52 + m.toNat := by
  rw [BitVec.toNat_append, ← Nat.shiftLeft_add_eq_or_of_lt m.isLt]
  rfl

/-- the bits of the mantissa, with the leading one or without -/
theorem toNat_ofNat_mantissa (m : Nat) : (BitVec.ofNat 52 m).toNat = m % 2 ^ 52 := BitVec.toNat_ofNat m 52

theorem toNat_ofNat_exponent {k : Nat} (h : k < 2 ^ 11) : (BitVec.ofNat 11 k).toNat = k := by
  rw [BitVec.toNat_ofNat, Nat.mod_eq_of_lt h]

/-- what is packed is unpacked -/
theorem unpack_pack {m : Nat} {e : Int} (hc : Canonical m e) (he : e ≤ 971) (s : Sign) :
    UnpackedFloat.unpack .binary64 (UnpackedFloat.pack .binary64 (.finite s m e hc.pos)) = .finite s m e hc.pos := by
  have hmin := hc.min
  have hlt := hc.lt
  by_cases hlow : 2 ^ 52 ≤ m
  · have hbiased := toNat_ofNat_exponent (show (e + 1075).toNat < 2 ^ 11 by omega)
    have hones : BitVec.ofNat 11 (e + 1075).toNat ≠ -1#11 := by
      intro h
      rw [h] at hbiased
      change 2047 = _ at hbiased
      omega
    have hzero : BitVec.ofNat 11 (e + 1075).toNat ≠ 0#11 := by
      intro h
      rw [h] at hbiased
      change 0 = _ at hbiased
      omega
    have hmantissa : (1#1 ++ BitVec.ofNat 52 m).toNat = m := by
      rw [toNat_implicit, toNat_ofNat_mantissa]
      omega
    rw [pack_normal hc.pos s hlow hlt he]
    unfold UnpackedFloat.unpack
    simp only [unpackMantissa_packComponents, unpackExponent_packComponents, unpackSign_packComponents,
      ofBitVec_toBitVec]
    rw [if_neg hones, if_neg hzero]
    simp only [UnpackedFloat.finite.injEq, true_and]
    refine ⟨hmantissa, ?_⟩
    change ((BitVec.ofNat 11 (e + 1075).toNat).toNat : Int) - ((1023 : Nat) + (52 : Nat)) = e
    omega
  · obtain rfl : e = -1074 := hc.normal.resolve_left hlow
    have hmantissa : (BitVec.ofNat 52 m).toNat = m := by
      rw [toNat_ofNat_mantissa]
      omega
    have hzero : BitVec.ofNat 52 m ≠ 0#52 := by
      intro h
      rw [h] at hmantissa
      exact hc.pos.ne hmantissa
    rw [pack_subnormal hc.pos s (by omega)]
    unfold UnpackedFloat.unpack
    simp only [unpackMantissa_packComponents, unpackExponent_packComponents, unpackSign_packComponents,
      ofBitVec_toBitVec]
    rw [if_neg (by decide), if_pos trivial, dif_neg hzero]
    simp only [UnpackedFloat.finite.injEq, true_and]
    exact ⟨hmantissa, rfl⟩

/-! ## Numbers taken apart -/

/-- the number that is packed -/
def packed (f : UnpackedFloat) : Float := .ofModel (.pack f)

theorem toNat_toBits_packed (f : UnpackedFloat) :
    (packed f).toBits.toNat = (UnpackedFloat.pack .binary64 f).toNat := rfl

theorem toNat_signOf (negative : Bool) : (signOf negative).toBitVec.toNat = if negative then 1 else 0 := by
  cases negative <;> rfl

/-- the parts of a finite number and its bits -/
theorem ofFloat_eq_finite {x : Float} {negative : Bool} {m : Nat} {e : Int}
    (h : Double.ofFloat x = .finite negative m e) :
    (m < 2 ^ 52 ∧ e = -1074 ∧ x.toBits.toNat = (if negative then 1 else 0) * 2 ^ 63 + m)
      ∨ (2 ^ 52 ≤ m ∧ m < 2 ^ 53 ∧ -1074 ≤ e ∧ e ≤ 971
        ∧ (x.toBits.toNat : Int) = (if negative then 1 else 0) * 2 ^ 63 + (e + 1075) * 2 ^ 52 + (m - 2 ^ 52)) := by
  have hbits : x.toBits.toNat < 2 ^ 64 := x.toBits.toNat_lt
  unfold Double.ofFloat at h
  simp only [Nat.pow_eq] at h
  split_ifs at h with hspecial hzero hsmall
  · obtain ⟨rfl, rfl, rfl⟩ := Double.finite.inj h
    refine .inl ⟨by omega, rfl, ?_⟩
    by_cases hsign : 2 ^ 63 ≤ x.toBits.toNat
    · rw [if_pos (decide_eq_true hsign)]
      omega
    · rw [if_neg (by simpa using hsign)]
      omega
  · obtain ⟨rfl, rfl, rfl⟩ := Double.finite.inj h
    refine .inr ⟨by omega, by omega, by omega, by omega, ?_⟩
    by_cases hsign : 2 ^ 63 ≤ x.toBits.toNat
    · rw [if_pos (decide_eq_true hsign)]
      omega
    · rw [if_neg (by simpa using hsign)]
      omega

/-- **Taking apart.** A finite number that is not zero is the packed form of its parts. -/
theorem eq_packed_of_ofFloat {x : Float} {negative : Bool} {m : Nat} {e : Int}
    (h : Double.ofFloat x = .finite negative m e) (hm : 0 < m) :
    ∃ hc : Canonical m e, e ≤ 971 ∧ x = packed (.finite (signOf negative) m e hc.pos) := by
  rcases ofFloat_eq_finite h with ⟨hlt, rfl, hbits⟩ | ⟨hlow, hlt, hmin, hmax, hbits⟩
  · refine ⟨⟨hm, by omega, le_rfl, .inr rfl⟩, by decide, float_ext ?_⟩
    rw [toNat_toBits_packed, pack_subnormal hm _ hlt, toNat_packComponents, toNat_signOf, toNat_ofNat_mantissa, hbits]
    simp
    omega
  · refine ⟨⟨hm, hlt, hmin, .inl hlow⟩, hmax, float_ext ?_⟩
    rw [toNat_toBits_packed, pack_normal hm _ hlow hlt hmax, toNat_packComponents, toNat_signOf, toNat_ofNat_mantissa,
      toNat_ofNat_exponent (by omega)]
    cases negative <;> simp at hbits ⊢ <;> omega

theorem packed_neg {m : Nat} {e : Int} (hc : Canonical m e) (he : e ≤ 971) :
    -packed (.finite .positive m e hc.pos) = packed (.finite .negative m e hc.pos) := by
  change packed (UnpackedFloat.neg (UnpackedFloat.unpack .binary64 (UnpackedFloat.pack .binary64 _))) = _
  rw [unpack_pack hc he]
  rfl

theorem eq_zero_of_ofFloat {x : Float} {negative : Bool} {e : Int} (h : Double.ofFloat x = .finite negative 0 e) :
    x = if negative then -0 else 0 := by
  rcases ofFloat_eq_finite h with ⟨-, -, hbits⟩ | ⟨hlow, -⟩
  · refine float_ext (hbits.trans ?_)
    cases negative <;> decide +kernel
  · omega

theorem eq_infinity_of_ofFloat {x : Float} {negative : Bool} (h : Double.ofFloat x = .infinite negative) :
    x = if negative then -(1 / 0) else 1 / 0 := by
  have hbits : x.toBits.toNat < 2 ^ 64 := x.toBits.toNat_lt
  have hvalue : x.toBits.toNat = (if negative then 1 else 0) * 2 ^ 63 + 2047 * 2 ^ 52 := by
    unfold Double.ofFloat at h
    simp only [Nat.pow_eq] at h
    split_ifs at h with hspecial hzero
    obtain rfl := Double.infinite.inj h
    by_cases hsign : 2 ^ 63 ≤ x.toBits.toNat
    · rw [if_pos (decide_eq_true hsign)]
      omega
    · rw [if_neg (by simpa using hsign)]
      omega
  refine float_ext (hvalue.trans ?_)
  cases negative <;> decide +kernel

/-- there is only one value that is no number -/
theorem eq_nan_of_ofFloat {x : Float} (h : Double.ofFloat x = .nan) : x = 0 / 0 := by
  have hspecial : x.toBits.toNat / 2 ^ 52 % 2048 = 2047 ∧ x.toBits.toNat % 2 ^ 52 ≠ 0 := by
    unfold Double.ofFloat at h
    simp only [Nat.pow_eq] at h
    split_ifs at h with hspecial hzero
    exact ⟨hspecial, hzero⟩
  have hvalid : x.toModel.toBits.toBitVec = packedNaN .binary64 := by
    refine x.toModel.valid.eq_packedNaN ?_ ?_
    · apply BitVec.eq_of_toNat_eq
      rw [unpackExponent, BitVec.toNat_cast, BitVec.extractLsb_toNat, Nat.shiftRight_eq_div_pow]
      exact hspecial.1
    · intro hzero
      have hmantissa := congrArg BitVec.toNat hzero
      rw [unpackMantissa, BitVec.toNat_cast, BitVec.extractLsb_toNat, Nat.shiftRight_zero] at hmantissa
      exact hspecial.2 hmantissa
  have hbits : x.toBits.toNat = 0x7ff8000000000000 := by
    change x.toModel.toBits.toBitVec.toNat = _
    rw [hvalid]
    decide
  refine float_ext (hbits.trans ?_)
  decide +kernel

end Crowfoot.Decimal
