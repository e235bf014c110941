import Mathlib
import OrderDesk.Proofs.Number.Nearest

/-!
# Bits of floating-point numbers

A floating-point number is a pattern of 64 bits, and `Float.ofBits` takes a pattern apart and puts
it together again, which may change it only if it stands for no number (`toBits_ofBits`).  So the
bits of a sign and a magnitude are read as this sign and a magnitude of the same value:
`Magnitude.Canonical.decode_ofFinite`.
-/

namespace OrderDesk.Binary64

open Float.Model (Format)
open Float.Model.UnpackedFloat

/-! ## Patterns -/

theorem toNat_unpackExponent (b : BitVec Format.binary64.numBits) :
    (unpackExponent b).toNat = b.toNat / 2 ^ 52 % 2048 := by
  simp [unpackExponent, Nat.shiftRight_eq_div_pow]

/-- The bits of a number that is finite are kept. -/
theorem toBits_ofBits {a : UInt64} (h : a.toNat / 2 ^ 52 % 2048 ≠ 2047) :
    (Float.ofBits a).toBits = a := by
  have hexponent : @unpackExponent Format.binary64 a.toBitVec ≠ -1#_ := by
    intro heq
    have hnat := toNat_unpackExponent a.toBitVec
    rw [heq] at hnat
    exact h hnat.symm
  have hnumber : @isNaNBits Format.binary64 a.toBitVec = false :=
    decide_eq_false fun hnan => hexponent hnan.1
  show UInt64.ofBitVec (pack Format.binary64 (unpack Format.binary64 a.toBitVec)) = a
  rw [pack_unpack, hnumber, if_neg Bool.false_ne_true]

/-! ## Fields -/

theorem signBits_eq (negative : Bool) :
    (if negative then Nat.pow 2 63 else 0) = negative.toNat * 2 ^ 63 := by
  cases negative <;> rfl

/-- The magnitude that the bits of a finite number stand for. -/
def fieldsOf (bits : ℕ) : Magnitude :=
  if bits / 2 ^ 52 = 0 then ⟨bits, leastExponent⟩
  else ⟨bits % 2 ^ 52 + 2 ^ 52, (bits / 2 ^ 52 : ℕ) - 1 + leastExponent⟩

/-- A sign and the bits of a finite number are read as that number. -/
theorem decode_ofBits {b : ℕ} (negative : Bool) (h : b < infinityBits) :
    decode (Float.ofBits (UInt64.ofNat ((if negative then Nat.pow 2 63 else 0) + b))) =
      .finite ⟨negative, fieldsOf b⟩ := by
  simp only [infinityBits, Nat.pow_eq] at h
  have hone : negative.toNat ≤ 1 := Bool.toNat_le negative
  have hbool : (negative.toNat == 1) = negative := by cases negative <;> rfl
  rw [signBits_eq]
  have hsign : (negative.toNat * 2 ^ 63 + b) / 2 ^ 63 % 2 = negative.toNat := by omega
  have hexponent : (negative.toNat * 2 ^ 63 + b) / 2 ^ 52 % 2048 = b / 2 ^ 52 := by omega
  have hfraction : (negative.toNat * 2 ^ 63 + b) % 2 ^ 52 = b % 2 ^ 52 := by omega
  have hnat : (UInt64.ofNat (negative.toNat * 2 ^ 63 + b)).toNat = negative.toNat * 2 ^ 63 + b :=
    UInt64.toNat_ofNat_of_lt (show _ < 2 ^ 64 by omega)
  have hfield : b / 2 ^ 52 ≠ 2047 := by omega
  rw [decode, toBits_ofBits (by rw [hnat, hexponent]; exact hfield), hnat]
  simp only [decodeBits, Nat.pow_eq, hsign, hexponent, hfraction, hbool, if_neg hfield, fieldsOf]
  split
  · next hzero =>
    rw [Nat.mod_eq_of_lt (by omega)]
  · rfl

/-- The meaning of a floating-point number that is finite is in canonical form, and its mantissa has
no carry. -/
theorem canonical_of_decode {f : Float} {x : Finite} (h : decode f = .finite x) :
    x.magnitude.Canonical ∧ x.magnitude.mantissa < 2 ^ 53 := by
  simp only [decode, decodeBits, Nat.pow_eq] at h
  split at h
  · split at h <;> cases h
  · split at h
    · cases h
      refine ⟨⟨?_, le_rfl, fun hne => absurd rfl hne⟩, ?_⟩
      · dsimp only; omega
      · dsimp only; omega
    · cases h
      refine ⟨⟨?_, ?_, fun _ => ?_⟩, ?_⟩
      · dsimp only; omega
      · dsimp only; omega
      · dsimp only; omega
      · dsimp only; omega

namespace Magnitude

variable {x : Magnitude}

/-- The bits of a magnitude in canonical form are those of the same number.  A mantissa of
`2 ^ 53` is half as large there, and the exponent one more. -/
theorem Canonical.decode_ofFinite (hx : x.Canonical) (hfinite : x.isFinite = true)
    (negative : Bool) :
    ∃ y : Magnitude, decode (ofFinite ⟨negative, x⟩) = .finite ⟨negative, y⟩ ∧
      y.value = x.value := by
  have hlt : x.bits < infinityBits := of_decide_eq_true hfinite
  refine ⟨fieldsOf x.bits, decode_ofBits negative hlt, ?_⟩
  obtain ⟨m, e⟩ := x
  obtain ⟨hm, he, hlow⟩ := hx
  obtain ⟨k, rfl⟩ := Int.le.dest he
  have hbits : Magnitude.bits ⟨m, leastExponent + k⟩ = k * 2 ^ 52 + m := by
    have hk : (leastExponent + k - leastExponent).toNat = k := by omega
    simp only [Magnitude.bits, Nat.pow_eq, hk] at hlt ⊢
    omega
  rw [hbits, fieldsOf]
  dsimp only at hm hlow
  by_cases hsub : m < 2 ^ 52
  · have hk : k = 0 := by
      by_contra hne
      exact absurd (hlow (by omega)) (by omega)
    rw [hk, if_pos (by omega)]
    simp
  · rw [if_neg (by omega)]
    by_cases hcarry : m < 2 ^ 53
    · have hexponent : (k * 2 ^ 52 + m) / 2 ^ 52 = k + 1 := by omega
      have hmantissa : (k * 2 ^ 52 + m) % 2 ^ 52 + 2 ^ 52 = m := by omega
      have hsum : ((k + 1 : ℕ) : ℤ) - 1 + leastExponent = leastExponent + k := by omega
      rw [hexponent, hmantissa, hsum]
    · have hexponent : (k * 2 ^ 52 + m) / 2 ^ 52 = k + 2 := by omega
      have hmantissa : (k * 2 ^ 52 + m) % 2 ^ 52 + 2 ^ 52 = 2 ^ 52 := by omega
      have hsum : ((k + 2 : ℕ) : ℤ) - 1 + leastExponent = leastExponent + k + (1 : ℕ) := by omega
      have hm' : m = 2 ^ 53 := by omega
      rw [hexponent, hmantissa, hsum, hm', value, value, two_zpow_add]
      push_cast
      ring

/-! ## Numbers below `2 ^ 96` -/

theorem Canonical.le_value (hx : x.Canonical) (hne : x.exponent ≠ leastExponent) :
    2 ^ 52 * 2 ^ x.exponent ≤ x.value := by
  have hmantissa : (2 : ℚ) ^ 52 ≤ x.mantissa := by exact_mod_cast hx.le_mantissa hne
  exact mul_le_mul_of_nonneg_right hmantissa (two_zpow_pos _).le

theorem Canonical.exponent_le (hx : x.Canonical) (hvalue : x.value ≤ 2 ^ 96) :
    x.exponent ≤ 44 := by
  by_contra hgt
  have hbelow := hx.le_value (by unfold leastExponent; omega)
  have habove : (2 : ℚ) ^ (45 : ℤ) ≤ 2 ^ x.exponent := two_zpow_le (by omega)
  norm_num at habove
  linarith

/-- A magnitude in canonical form that is not too large is finite. -/
theorem Canonical.isFinite (hx : x.Canonical) (hvalue : x.value ≤ 2 ^ 96) : x.isFinite = true := by
  have hleast : -1074 ≤ x.exponent := hx.least_le
  have hexponent := hx.exponent_le hvalue
  have hmantissa := hx.mantissa_le
  refine decide_eq_true ?_
  simp only [bits, infinityBits, leastExponent, Nat.pow_eq]
  omega

/-- The numbers below `2 ^ 96` keep half a unit away from it, and all but the largest one keep one
and a half. -/
theorem Canonical.half_unit_le (hx : x.Canonical) (hcarry : x.mantissa < 2 ^ 53)
    (hvalue : x.value < 2 ^ 96) :
    (x.mantissa + 1 / 2) * 2 ^ x.exponent ≤ (2 : ℚ) ^ 96 - 2 ^ 42 ∧
      (x = ⟨2 ^ 53 - 1, 43⟩ ∨
        (x.mantissa + 1 / 2) * 2 ^ x.exponent ≤ (2 : ℚ) ^ 96 - 3 * 2 ^ 42) := by
  have hle := hx.exponent_le hvalue.le
  have hmantissa : (x.mantissa : ℚ) + 1 ≤ 2 ^ 53 := by exact_mod_cast hcarry
  obtain hexponent | hexponent | hexponent :
      x.exponent = 44 ∨ x.exponent = 43 ∨ x.exponent ≤ 42 := by omega
  · have hbelow := hx.le_value (by unfold leastExponent; omega)
    rw [hexponent] at hbelow
    norm_num at hbelow hvalue
    linarith
  · rw [hexponent]
    refine ⟨by norm_num at hmantissa ⊢; linarith, ?_⟩
    by_cases hlargest : x.mantissa = 2 ^ 53 - 1
    · left
      rw [← hlargest, ← hexponent]
    · have hsmaller : (x.mantissa : ℚ) + 2 ≤ 2 ^ 53 := by
        exact_mod_cast (by omega : x.mantissa + 2 ≤ 2 ^ 53)
      right
      norm_num at hsmaller ⊢
      linarith
  · have hunit : (2 : ℚ) ^ x.exponent ≤ 2 ^ (42 : ℤ) := two_zpow_le hexponent
    have hproduct : (x.mantissa + 1 / 2) * 2 ^ x.exponent ≤ (2 : ℚ) ^ 53 * 2 ^ (42 : ℤ) :=
      mul_le_mul (by linarith) hunit (two_zpow_pos _).le (by norm_num)
    norm_num at hproduct ⊢
    exact ⟨by linarith, Or.inr (by linarith)⟩

end Magnitude

end OrderDesk.Binary64
