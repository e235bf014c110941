import Mathlib.Data.Nat.Cast.Order.Field
import OrderDesk.Number.Shortest
import OrderDesk.Proofs.Number.Nearest

/-!
# The shortest decimal is near

The search for a short decimal ends at one that lies in the interval of a floating-point number, or
else, once the digits are used up, at one below the number.  So what is found is never more than
half a unit above it: `decimal_le`.
-/

namespace OrderDesk.Shortest

open Binary64 (zpow_toNat_div)

namespace Interval

variable {i : Interval} {tie : Number.Tie} {c : ℕ} {k : ℤ}

theorem le_of_holds (hden : 0 < i.denominator) (h : i.holds c k = true) :
    (c : ℚ) * 10 ^ k ≤ i.upper / i.denominator := by
  have hle : c * 10 ^ k.toNat * i.denominator ≤ i.upper * 10 ^ (-k).toNat := by
    simp only [holds, Nat.pow_eq] at h
    split at h
    · exact of_decide_eq_true (Bool.and_eq_true_iff.1 h).2
    · exact (of_decide_eq_true (Bool.and_eq_true_iff.1 h).2).le
  have hden' : (0 : ℚ) < i.denominator := Nat.cast_pos.2 hden
  rw [← zpow_toNat_div 10 k, mul_div_assoc', div_le_div_iff₀ (by positivity) hden']
  exact_mod_cast hle

theorem holds_of_onGrid (h : i.onGrid tie k = some c) : i.holds c k = true := by
  simp only [onGrid] at h
  split at h
  · next hbelow habove =>
    split at h
    · cases h; exact hbelow
    · split at h
      · cases h; exact habove
      · split at h
        · cases h; exact hbelow
        · cases h; exact habove
  · next hbelow _ => cases h; exact hbelow
  · next _ habove => cases h; exact habove
  · cases h

/-- The end of a search lies below the upper end of the interval. -/
theorem search_le (hden : 0 < i.denominator) (hvalue : i.value ≤ i.upper) (fuel : ℕ) (k : ℤ) :
    ((i.search tie fuel k).1 : ℚ) * 10 ^ (i.search tie fuel k).2 ≤ i.upper / i.denominator := by
  induction fuel generalizing k with
  | zero =>
    have hden' : (0 : ℚ) < i.denominator := Nat.cast_pos.2 hden
    have hle : ((i.value * 10 ^ (-k).toNat / (i.denominator * 10 ^ k.toNat) : ℕ) : ℚ) ≤
        ((i.value * 10 ^ (-k).toNat : ℕ) : ℚ) / (i.denominator * 10 ^ k.toNat : ℕ) :=
      Nat.cast_div_le
    have hexact : ((i.value * 10 ^ (-k).toNat : ℕ) : ℚ) / (i.denominator * 10 ^ k.toNat : ℕ) *
        10 ^ k = i.value / i.denominator := by
      rw [← zpow_toNat_div 10 k]
      push_cast
      field_simp
    simp only [search, Nat.pow_eq]
    refine (mul_le_mul_of_nonneg_right hle (by positivity)).trans (hexact.le.trans ?_)
    exact div_le_div_of_nonneg_right (Nat.cast_le.2 hvalue) hden'.le
  | succ fuel ih =>
    rw [search]
    split
    · next c hgrid => exact le_of_holds hden (holds_of_onGrid hgrid)
    · exact ih (k - 1)

theorem upper_div_denominator (m : ℕ) (e : ℤ) :
    ((around m e).upper : ℚ) / (around m e).denominator = (m + 1 / 2) * 2 ^ e := by
  have hneg : 2 - e = -(e - 2) := by omega
  have hsplit : (2 : ℚ) ^ e = 2 ^ (e - 2) * 4 := by
    have hadd : (2 : ℚ) ^ (e - 2 + (2 : ℕ)) = 2 ^ 2 * 2 ^ (e - 2) := Binary64.two_zpow_add _ 2
    have hsum : e - 2 + (2 : ℕ) = e := by omega
    rw [hsum] at hadd
    rw [hadd]
    ring
  simp only [around, Nat.pow_eq, hneg]
  push_cast
  rw [mul_div_assoc, zpow_toNat_div, hsplit]
  ring

end Interval

/-- The shortest decimal of a floating-point number is at most half a unit above it. -/
theorem decimal_le (tie : Number.Tie) (m : ℕ) (e : ℤ) :
    ((decimal tie m e).1 : ℚ) * 10 ^ (decimal tie m e).2 ≤ (m + 1 / 2) * 2 ^ e := by
  unfold decimal
  split
  · simp only [Nat.cast_zero, zero_mul]
    positivity
  · rw [← Interval.upper_div_denominator]
    refine Interval.search_le (Nat.pow_pos (by decide)) ?_ 17 _
    exact Nat.mul_le_mul_right _ (Nat.le_add_right _ 2)

end OrderDesk.Shortest
