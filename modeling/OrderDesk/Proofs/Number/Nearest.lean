import Mathlib.Algebra.Order.Field.Power
import Mathlib.Data.Rat.Cast.Defs
import Mathlib.Tactic.FieldSimp
import Mathlib.Tactic.Linarith
import Mathlib.Tactic.NormNum
import Mathlib.Tactic.Positivity
import Mathlib.Tactic.Ring
import OrderDesk.Number.Binary64

/-!
# The nearest floating-point number

A magnitude stands for the rational number `Magnitude.value`.  `IsNearest q x` says that `x` is the
floating-point number that the rational number `q` is rounded to; sums, products and quotients of
magnitudes are rounded from the exact result (`Magnitude.isNearest_plus`, `isNearest_times`,
`isNearest_dividedBy`).

Rounding is monotone and keeps what needs no rounding, so it does not lead across a number with a
mantissa of at most 53 bits.

* `IsNearest.le`, `IsNearest.ge` — bounds of that kind are kept.
* `IsNearest.le_of_lt_half` — not even a quotient above such a bound leads across it, if it is less
  than half a unit above.
* `IsNearest.le_mul` — rounding adds at most one part in `2 ^ 53`.
* `IsNearest.canonical` — the mantissa uses the 53 bits there are.
-/

namespace OrderDesk.Binary64

/-! ## Values -/

/-- A power with a whole exponent, as a quotient of powers with natural exponents. -/
theorem zpow_toNat_div (b : ℚ) (e : ℤ) : b ^ e.toNat / b ^ (-e).toNat = b ^ e := by
  rcases Int.le_total 0 e with h | h
  · have hneg : (-e).toNat = 0 := by omega
    rw [hneg, pow_zero, div_one, ← zpow_natCast, Int.toNat_of_nonneg h]
  · have hpos : e.toNat = 0 := by omega
    rw [hpos, pow_zero, one_div, ← zpow_natCast, Int.toNat_of_nonneg (by omega), zpow_neg, inv_inv]

theorem two_zpow_pos (e : ℤ) : (0 : ℚ) < 2 ^ e := by positivity

theorem two_zpow_le {a b : ℤ} (h : a ≤ b) : (2 : ℚ) ^ a ≤ 2 ^ b :=
  zpow_le_zpow_right₀ (by norm_num) h

theorem two_zpow_add (a : ℤ) (b : ℕ) : (2 : ℚ) ^ (a + b) = 2 ^ b * 2 ^ a := by
  rw [zpow_add₀ (by norm_num), zpow_natCast, mul_comm]

theorem two_mul_zpow_le {a b : ℤ} (h : a < b) : (2 : ℚ) * 2 ^ a ≤ 2 ^ b := by
  have hsucc : (2 : ℚ) ^ (a + 1) = 2 ^ 1 * 2 ^ a := two_zpow_add a 1
  rw [pow_one] at hsucc
  rw [← hsucc]
  exact two_zpow_le h

namespace Magnitude

/-- The number that a magnitude stands for. -/
def value (x : Magnitude) : ℚ := x.mantissa * 2 ^ x.exponent

theorem value_nonneg (x : Magnitude) : 0 ≤ x.value := by
  unfold value
  positivity

theorem den_pos (x : Magnitude) : 0 < x.den := Nat.pow_pos (by decide)

theorem value_eq_div (x : Magnitude) : x.value = (x.num : ℚ) / x.den := by
  rw [num, den, Nat.pow_eq, Nat.pow_eq, Nat.cast_mul, Nat.cast_pow, Nat.cast_pow, Nat.cast_ofNat,
    mul_div_assoc, zpow_toNat_div 2, value]

theorem num_pos {x : Magnitude} (h : 0 < x.value) : 0 < x.num := by
  rw [value_eq_div] at h
  refine Nat.pos_of_ne_zero fun hnum => ?_
  rw [hnum, Nat.cast_zero, zero_div] at h
  exact lt_irrefl _ h

end Magnitude

/-! ## The exponent -/

/-- The exponent of the floating-point numbers around a rational number. -/
structure Around (q : ℚ) (e : ℤ) : Prop where
  least_le : leastExponent ≤ e
  lt : q < 2 ^ 53 * 2 ^ e
  le_of_ne : e ≠ leastExponent → 2 ^ 52 * 2 ^ e ≤ q

theorem cast_lt_cast_log2 {n : ℕ} (h : 0 < n) :
    (2 : ℚ) ^ (n.log2 : ℤ) ≤ n ∧ (n : ℚ) < 2 ^ ((n.log2 : ℤ) + 1) := by
  have hle : 2 ^ n.log2 ≤ n := Nat.log2_self_le (Nat.ne_of_gt h)
  have hlt : n < 2 ^ (n.log2 + 1) := Nat.lt_log2_self
  refine ⟨?_, ?_⟩
  · rw [zpow_natCast]
    exact_mod_cast hle
  · have hcast : (n.log2 : ℤ) + 1 = ((n.log2 + 1 : ℕ) : ℤ) := by push_cast; rfl
    rw [hcast, zpow_natCast]
    exact_mod_cast hlt

/-- A quotient is known to a factor of four by the lengths of its numerator and its denominator. -/
theorem two_zpow_le_div_lt {num den : ℕ} (hnum : 0 < num) (hden : 0 < den) :
    (2 : ℚ) ^ ((num.log2 : ℤ) - den.log2 - 1) ≤ num / den ∧
      (num : ℚ) / den < 2 ^ ((num.log2 : ℤ) - den.log2 + 1) := by
  have hden' : (0 : ℚ) < den := Nat.cast_pos.2 hden
  obtain ⟨hnumle, hnumlt⟩ := cast_lt_cast_log2 hnum
  obtain ⟨hdenle, hdenlt⟩ := cast_lt_cast_log2 hden
  rw [le_div_iff₀ hden', div_lt_iff₀ hden']
  constructor
  · calc (2 : ℚ) ^ ((num.log2 : ℤ) - den.log2 - 1) * den
        ≤ 2 ^ ((num.log2 : ℤ) - den.log2 - 1) * 2 ^ ((den.log2 : ℤ) + 1) :=
          mul_le_mul_of_nonneg_left hdenlt.le (two_zpow_pos _).le
      _ = 2 ^ (num.log2 : ℤ) := by
        rw [← zpow_add₀ (by norm_num)]
        congr 1
        omega
      _ ≤ num := hnumle
  · calc (num : ℚ) < 2 ^ ((num.log2 : ℤ) + 1) := hnumlt
      _ = 2 ^ ((num.log2 : ℤ) - den.log2 + 1) * 2 ^ (den.log2 : ℤ) := by
        rw [← zpow_add₀ (by norm_num)]
        congr 1
        omega
      _ ≤ 2 ^ ((num.log2 : ℤ) - den.log2 + 1) * den :=
        mul_le_mul_of_nonneg_left hdenle (two_zpow_pos _).le

/-- A quotient is compared with a power of two by whole numbers. -/
theorem lt_two_zpow_iff {num den : ℕ} (hden : 0 < den) (k : ℤ) :
    num * Nat.pow 2 (-k).toNat < den * Nat.pow 2 k.toNat ↔ (num : ℚ) / den < 2 ^ k := by
  rw [← zpow_toNat_div 2 k, div_lt_div_iff₀ (Nat.cast_pos.2 hden) (by positivity), Nat.pow_eq,
    Nat.pow_eq, mul_comm (2 ^ k.toNat : ℚ)]
  exact_mod_cast Iff.rfl

/-- The exponent is found by the lengths of the numerator and the denominator, and by one
comparison. -/
theorem around_exponentOf {num den : ℕ} (hnum : 0 < num) (hden : 0 < den) :
    Around ((num : ℚ) / den) (exponentOf num den) := by
  obtain ⟨hlower, hupper⟩ := two_zpow_le_div_lt hnum hden
  let k : ℤ := (num.log2 : ℤ) - den.log2
  let e : ℤ := if num * Nat.pow 2 (-k).toNat < den * Nat.pow 2 k.toNat then k - 53 else k - 52
  have he : (num : ℚ) / den < 2 ^ (e + 53) ∧ (2 : ℚ) ^ (e + 52) ≤ num / den := by
    by_cases h : (num : ℚ) / den < 2 ^ k
    · have hif : e = k - 53 := if_pos ((lt_two_zpow_iff hden k).2 h)
      have hbelow : k - 53 + 52 = k - 1 := by omega
      rw [hif, sub_add_cancel, hbelow]
      exact ⟨h, hlower⟩
    · have hif : e = k - 52 := if_neg fun hlt => h ((lt_two_zpow_iff hden k).1 hlt)
      have habove : k - 52 + 53 = k + 1 := by omega
      rw [hif, sub_add_cancel, habove]
      exact ⟨hupper, not_lt.1 h⟩
  have hlt : (2 : ℚ) ^ (e + 53) = 2 ^ 53 * 2 ^ e := two_zpow_add e 53
  have hle : (2 : ℚ) ^ (e + 52) = 2 ^ 52 * 2 ^ e := two_zpow_add e 52
  rw [hlt, hle] at he
  have hmax : exponentOf num den = max leastExponent e := rfl
  rw [hmax]
  refine ⟨le_max_left _ _, he.1.trans_le ?_, fun hne => ?_⟩
  · exact mul_le_mul_of_nonneg_left (two_zpow_le (le_max_right _ _)) (by norm_num)
  · have hright : max leastExponent e = e := by omega
    rw [hright]
    exact he.2

/-! ## Rounding -/

section

variable {N D n : ℕ}

theorem roundHalfEven_le_of_div_lt (hD : 0 < D) (h : (N : ℚ) / D < n + 1 / 2) :
    Number.roundHalfEven N D ≤ n := by
  rw [div_lt_iff₀ (Nat.cast_pos.2 hD)] at h
  have hcast : (2 * N : ℚ) < (2 * n + 1) * D := by linarith
  exact Number.roundHalfEven_le hD (by exact_mod_cast hcast)

theorem le_roundHalfEven_of_le_div (hD : 0 < D) (h : (n : ℚ) ≤ N / D) :
    n ≤ Number.roundHalfEven N D := by
  rw [le_div_iff₀ (Nat.cast_pos.2 hD)] at h
  exact Number.le_roundHalfEven hD (by exact_mod_cast h)

theorem roundHalfEven_le_div_add (hD : 0 < D) :
    (Number.roundHalfEven N D : ℚ) ≤ N / D + 1 / 2 := by
  have hD' : (0 : ℚ) < D := Nat.cast_pos.2 hD
  have hwithin : 2 * (Number.roundHalfEven N D * D) ≤ 2 * N + D :=
    (Number.roundHalfEven_within hD).1
  have hcast : (2 * (Number.roundHalfEven N D * D) : ℚ) ≤ 2 * N + D := by exact_mod_cast hwithin
  rw [← mul_le_mul_iff_left₀ hD', add_mul, div_mul_cancel₀ _ hD'.ne']
  linarith

end

/-- The magnitude that a rational number is rounded to. -/
def IsNearest (q : ℚ) (x : Magnitude) : Prop :=
  ∃ num den : ℕ, 0 < den ∧ (num : ℚ) / den = q ∧ nearest num den = x

/-- A number with a mantissa of 53 bits that is rounded in coarser units lies below all numbers that
have that exponent. -/
theorem Around.of_lt {q : ℚ} {e e' : ℤ} {m : ℕ} (h : Around q e') (hm : m ≤ 2 ^ 53)
    (he : leastExponent ≤ e) (hlt : e < e') :
    (2 : ℚ) ^ 52 * 2 ^ e' ≤ q ∧ (m : ℚ) * 2 ^ e ≤ 2 ^ 52 * 2 ^ e' := by
  refine ⟨h.le_of_ne (by omega), ?_⟩
  have hm' : (m : ℚ) ≤ 2 ^ 53 := by exact_mod_cast hm
  have hmul := mul_le_mul_of_nonneg_right hm' (two_zpow_pos e).le
  linarith [two_mul_zpow_le hlt]

/-- A number is a whole multiple of each finer unit. -/
theorem exists_multiple (m : ℕ) {e e' : ℤ} (h : e' ≤ e) :
    ∃ n : ℕ, (m : ℚ) * 2 ^ e = n * 2 ^ e' := by
  obtain ⟨k, rfl⟩ := Int.le.dest h
  refine ⟨m * 2 ^ k, ?_⟩
  rw [two_zpow_add]
  push_cast
  ring

/-- A magnitude that uses the bits there are: 53 of them, or the least exponent. -/
structure Magnitude.Canonical (x : Magnitude) : Prop where
  mantissa_le : x.mantissa ≤ 2 ^ 53
  least_le : leastExponent ≤ x.exponent
  le_mantissa : x.exponent ≠ leastExponent → 2 ^ 52 ≤ x.mantissa

/-- What rounding does to a number that is not zero: it takes the exponent around it, and the
mantissa moves by half a unit at most and not across a whole number. -/
structure Rounds (q : ℚ) (x : Magnitude) : Prop where
  around : Around q x.exponent
  mantissa_le : ∀ n : ℕ, q < (n + 1 / 2) * 2 ^ x.exponent → x.mantissa ≤ n
  le_mantissa : ∀ n : ℕ, n * 2 ^ x.exponent ≤ q → n ≤ x.mantissa
  value_le : x.value ≤ q + 2 ^ x.exponent / 2

namespace IsNearest

variable {q : ℚ} {x : Magnitude} {m : ℕ} {e : ℤ}

theorem natCast (n : ℕ) : IsNearest n (nearest n 1) := ⟨n, 1, Nat.one_pos, by simp, rfl⟩

theorem rounds (h : IsNearest q x) (hq : 0 < q) : Rounds q x := by
  obtain ⟨num, den, hden, rfl, rfl⟩ := h
  have hnum : 0 < num := by
    refine Nat.pos_of_ne_zero fun hzero => ?_
    rw [hzero, Nat.cast_zero, zero_div] at hq
    exact lt_irrefl _ hq
  let e := exponentOf num den
  let N := num * Nat.pow 2 (-e).toNat
  let D := den * Nat.pow 2 e.toNat
  have hnearest : nearest num den = ⟨Number.roundHalfEven N D, e⟩ := if_neg hnum.ne'
  have hD : 0 < D := Nat.mul_pos hden (Nat.pow_pos (by decide))
  have hscaled : (num : ℚ) / den = N / D * 2 ^ e := by
    have hden' : (den : ℚ) ≠ 0 := Nat.cast_ne_zero.2 hden.ne'
    simp only [N, D, Nat.pow_eq, Nat.cast_mul, Nat.cast_pow, Nat.cast_ofNat]
    rw [← zpow_toNat_div 2 e]
    field_simp
  have hpos := two_zpow_pos e
  rw [hnearest]
  refine ⟨around_exponentOf hnum hden, fun n hn => ?_, fun n hn => ?_, ?_⟩
  · rw [hscaled] at hn
    exact roundHalfEven_le_of_div_lt hD ((mul_lt_mul_iff_left₀ hpos).1 hn)
  · rw [hscaled] at hn
    exact le_roundHalfEven_of_le_div hD ((mul_le_mul_iff_left₀ hpos).1 hn)
  · rw [hscaled]
    calc (Number.roundHalfEven N D : ℚ) * 2 ^ e ≤ (N / D + 1 / 2) * 2 ^ e :=
        mul_le_mul_of_nonneg_right (roundHalfEven_le_div_add hD) hpos.le
      _ = N / D * 2 ^ e + 2 ^ e / 2 := by ring

theorem eq_zero (h : IsNearest 0 x) : x = ⟨0, leastExponent⟩ := by
  obtain ⟨num, den, hden, hzero, rfl⟩ := h
  have hden' : (den : ℚ) ≠ 0 := Nat.cast_ne_zero.2 hden.ne'
  have hnum : num = 0 := by
    rcases div_eq_zero_iff.1 hzero with h | h
    · exact Nat.cast_eq_zero.1 h
    · exact absurd h hden'
  rw [hnum]
  rfl

theorem nonneg (h : IsNearest q x) : 0 ≤ q := by
  obtain ⟨num, den, -, rfl, -⟩ := h
  positivity

/-- The mantissa uses the bits there are. -/
theorem canonical (h : IsNearest q x) : x.Canonical := by
  rcases h.nonneg.eq_or_lt with rfl | hq
  · rw [h.eq_zero]
    exact ⟨Nat.zero_le _, le_refl _, fun hne => absurd rfl hne⟩
  · obtain ⟨haround, hle, hge, -⟩ := h.rounds hq
    refine ⟨hle _ ?_, haround.least_le, fun hne => hge _ ?_⟩
    · push_cast
      linarith [haround.lt, two_zpow_pos x.exponent]
    · push_cast
      exact haround.le_of_ne hne

/-- Rounding does not lead above a number with a mantissa of 53 bits. -/
theorem le (h : IsNearest q x) (hm : m ≤ 2 ^ 53) (he : leastExponent ≤ e) (hle : q ≤ m * 2 ^ e) :
    x.value ≤ m * 2 ^ e := by
  rcases h.nonneg.eq_or_lt with rfl | hq
  · rw [h.eq_zero, Magnitude.value, Nat.cast_zero, zero_mul]
    positivity
  obtain ⟨haround, hround, -, -⟩ := h.rounds hq
  have hpos := two_zpow_pos x.exponent
  have hbound (n : ℕ) (hn : q ≤ n * 2 ^ x.exponent) : x.value ≤ n * 2 ^ x.exponent := by
    have hmantissa : x.mantissa ≤ n := hround n (by linarith)
    exact mul_le_mul_of_nonneg_right (Nat.cast_le.2 hmantissa) hpos.le
  rcases le_or_gt x.exponent e with hexp | hexp
  · obtain ⟨n, hn⟩ := exists_multiple m hexp
    rw [hn] at hle ⊢
    exact hbound n hle
  · obtain ⟨hbelow, habove⟩ := haround.of_lt hm he hexp
    have hvalue := hbound (2 ^ 52) (by push_cast; linarith)
    push_cast at hvalue
    linarith

/-- Rounding does not lead below a number with a mantissa of 53 bits. -/
theorem ge (h : IsNearest q x) (hm : m ≤ 2 ^ 53) (he : leastExponent ≤ e) (hle : m * 2 ^ e ≤ q)
    (hq : 0 < q) : m * 2 ^ e ≤ x.value := by
  obtain ⟨haround, -, hround, -⟩ := h.rounds hq
  have hbound (n : ℕ) (hn : n * 2 ^ x.exponent ≤ q) : n * 2 ^ x.exponent ≤ x.value :=
    mul_le_mul_of_nonneg_right (Nat.cast_le.2 (hround n hn)) (two_zpow_pos x.exponent).le
  rcases le_or_gt x.exponent e with hexp | hexp
  · obtain ⟨n, hn⟩ := exists_multiple m hexp
    rw [hn] at hle ⊢
    exact hbound n hle
  · obtain ⟨hbelow, habove⟩ := haround.of_lt hm he hexp
    have hvalue := hbound (2 ^ 52) (by push_cast; linarith)
    push_cast at hvalue
    linarith

/-- Rounding does not lead across a power of two. -/
theorem le_two_zpow (h : IsNearest q x) (he : leastExponent ≤ e) (hq : q ≤ 2 ^ e) :
    x.value ≤ 2 ^ e := by
  have hle : q ≤ (1 : ℕ) * 2 ^ e := by rwa [Nat.cast_one, one_mul]
  have hvalue := h.le (by norm_num) he hle
  rwa [Nat.cast_one, one_mul] at hvalue

theorem ge_two_zpow (h : IsNearest q x) (he : leastExponent ≤ e) (hq : 2 ^ e ≤ q) :
    2 ^ e ≤ x.value := by
  have hle : (1 : ℕ) * 2 ^ e ≤ q := by rwa [Nat.cast_one, one_mul]
  have hvalue := h.ge (by norm_num) he hle (lt_of_lt_of_le (two_zpow_pos e) hq)
  rwa [Nat.cast_one, one_mul] at hvalue

theorem one_le (h : IsNearest q x) (hq : 1 ≤ q) : 1 ≤ x.value := by
  have hzero : (2 : ℚ) ^ (0 : ℤ) = 1 := zpow_zero 2
  exact hzero ▸ h.ge_two_zpow (by decide) (hzero.symm ▸ hq)

/-- Less than half a unit above a number with all 53 bits is rounded down to it. -/
theorem le_of_lt_half (h : IsNearest q x) (hm : m < 2 ^ 53) (hm' : 2 ^ 52 ≤ m)
    (he : leastExponent ≤ e) (hlt : q < (m + 1 / 2) * 2 ^ e) : x.value ≤ m * 2 ^ e := by
  rcases h.nonneg.eq_or_lt with rfl | hq
  · exact h.le hm.le he (by positivity)
  have hpos := two_zpow_pos e
  obtain ⟨haround, hround, -, -⟩ := h.rounds hq
  rcases lt_trichotomy x.exponent e with hexp | hexp | hexp
  · have hbinade : q ≤ (2 ^ 52 : ℕ) * 2 ^ e := by
      push_cast
      linarith [haround.lt, two_mul_zpow_le hexp]
    refine (h.le (by norm_num) he hbinade).trans (mul_le_mul_of_nonneg_right ?_ hpos.le)
    exact_mod_cast hm'
  · rw [← hexp] at hlt hpos ⊢
    exact mul_le_mul_of_nonneg_right (Nat.cast_le.2 (hround m hlt)) hpos.le
  · have hm'' : (m : ℚ) + 1 ≤ 2 ^ 53 := by exact_mod_cast hm
    have hunder : (m + 1 / 2) * (2 : ℚ) ^ e ≤ 2 ^ 53 * 2 ^ e :=
      mul_le_mul_of_nonneg_right (by linarith) hpos.le
    linarith [haround.le_of_ne (by omega), two_mul_zpow_le hexp]

/-- Rounding adds at most one part in `2 ^ 53` to a number that is not too small. -/
theorem le_mul (h : IsNearest q x) (hq : 1 ≤ q) : x.value ≤ q + q / 2 ^ 53 := by
  obtain ⟨haround, -, -, hle⟩ := h.rounds (by linarith)
  have hne : x.exponent ≠ leastExponent := by
    intro heq
    have hlt := haround.lt
    have hone : (2 : ℚ) ^ (leastExponent + 53) ≤ 2 ^ (0 : ℤ) := two_zpow_le (by decide)
    have hsplit : (2 : ℚ) ^ (leastExponent + 53) = 2 ^ 53 * 2 ^ leastExponent := two_zpow_add _ 53
    rw [heq] at hlt
    rw [zpow_zero, hsplit] at hone
    linarith
  linarith [haround.le_of_ne hne]

end IsNearest

/-! ## Arithmetic -/

namespace Magnitude

variable (x y : Magnitude)

theorem isNearest_plus : IsNearest (x.value + y.value) (x.plus y) := by
  refine ⟨_, _, Nat.mul_pos x.den_pos y.den_pos, ?_, rfl⟩
  have hx : (x.den : ℚ) ≠ 0 := Nat.cast_ne_zero.2 x.den_pos.ne'
  have hy : (y.den : ℚ) ≠ 0 := Nat.cast_ne_zero.2 y.den_pos.ne'
  rw [value_eq_div, value_eq_div, div_add_div _ _ hx hy]
  push_cast
  ring

theorem isNearest_times : IsNearest (x.value * y.value) (x.times y) := by
  refine ⟨_, _, Nat.mul_pos x.den_pos y.den_pos, ?_, rfl⟩
  rw [value_eq_div, value_eq_div, div_mul_div_comm]
  push_cast
  rfl

variable {y} in
theorem isNearest_dividedBy (hy : 0 < y.value) : IsNearest (x.value / y.value) (x.dividedBy y) := by
  refine ⟨_, _, Nat.mul_pos x.den_pos (num_pos hy), ?_, rfl⟩
  rw [value_eq_div, value_eq_div, div_div_div_eq]
  push_cast
  rfl

/-- The nearest whole number is at most twice the number, since half a unit is too little for a
unit unless it is rounded up. -/
theorem roundHalfUp_le_two_mul : (Number.roundHalfUp x.num x.den : ℚ) ≤ 2 * x.value := by
  have hden : (0 : ℚ) < x.den := Nat.cast_pos.2 x.den_pos
  have hdiv : Number.roundHalfUp x.num x.den * (2 * x.den) ≤ 2 * x.num + x.den :=
    Nat.div_mul_le_self _ _
  have hle : Number.roundHalfUp x.num x.den * x.den ≤ 2 * x.num := by
    rcases Nat.eq_zero_or_pos (Number.roundHalfUp x.num x.den) with hzero | hpos
    · rw [hzero, Nat.zero_mul]
      exact Nat.zero_le _
    · have hone : x.den ≤ Number.roundHalfUp x.num x.den * x.den := Nat.le_mul_of_pos_left _ hpos
      have hcomm : Number.roundHalfUp x.num x.den * (2 * x.den) =
          2 * (Number.roundHalfUp x.num x.den * x.den) := by ring
      omega
  rw [value_eq_div, mul_div_assoc', le_div_iff₀ hden]
  exact_mod_cast hle

end Magnitude

end OrderDesk.Binary64
