import OrderDesk.Decimal.Float
import OrderDesk.Proofs.Decimal.Exact
import OrderDesk.Proofs.Number.Nearest

/-!
# The floating-point number of a decimal

An amount with places travels as a floating-point number far below `2 ^ 96`: its whole part is at
most a tenth of the largest magnitude, the fraction is at most two, and each step of the computation
is rounded without leading across a power of two.  An amount without places travels as the nearest
floating-point number, and that is `2 ^ 96` from half a unit below on.

* `binary_canonical`, `binary_lt` — the number is one of 53 bits, and below `2 ^ 96` if the amount
  is below `travelLimit`.
* `binary_eq` — otherwise it is `2 ^ 96`.
-/

namespace OrderDesk

namespace Decimal

open Binary64

variable {d : Decimal}

/-! ## Powers of ten -/

theorem powerOfTen_go {result square : Magnitude} (fuel n : ℕ)
    (hresult : result.Canonical ∧ 1 ≤ result.value) (hsquare : 1 ≤ square.value) :
    (powerOfTen.go fuel n result square).Canonical ∧
      1 ≤ (powerOfTen.go fuel n result square).value := by
  induction fuel generalizing n result square with
  | zero => exact hresult
  | succ fuel ih =>
    have htimes {x y : Magnitude} (hx : 1 ≤ x.value) (hy : 1 ≤ y.value) :
        (x.times y).Canonical ∧ 1 ≤ (x.times y).value :=
      ⟨(x.isNearest_times y).canonical,
        (x.isNearest_times y).one_le (one_le_mul_of_one_le_of_one_le hx hy)⟩
    have hnext : (if n % 2 = 1 then result.times square else result).Canonical ∧
        1 ≤ (if n % 2 = 1 then result.times square else result).value := by
      split
      · exact htimes hresult.2 hsquare
      · exact hresult
    rw [powerOfTen.go]
    split
    · exact hnext
    · exact ih (n / 2) hnext (htimes hsquare hsquare).2

theorem powerOfTen_spec (n : ℕ) : (powerOfTen n).Canonical ∧ 1 ≤ (powerOfTen n).value := by
  refine powerOfTen_go 64 n ⟨(IsNearest.natCast 1).canonical, ?_⟩ ?_
  · exact (IsNearest.natCast 1).one_le (by norm_num)
  · exact (IsNearest.natCast 10).one_le (by norm_num)

/-! ## Amounts with places -/

/-- A proper fraction is at most two as a quotient of floating-point numbers. -/
theorem fraction_le {r p : ℕ} (hr : r < p) :
    ((nearest r 1).dividedBy (nearest p 1)).value ≤ 2 := by
  have hp : 0 < p := Nat.zero_lt_of_lt hr
  obtain ⟨hlow, hhigh⟩ := cast_lt_cast_log2 hp
  have hr' : (r : ℚ) ≤ 2 ^ ((p.log2 : ℤ) + 1) := le_trans (by exact_mod_cast hr.le) hhigh.le
  have hnum := (IsNearest.natCast r).le_two_zpow (by unfold leastExponent; omega) hr'
  have hden := (IsNearest.natCast p).ge_two_zpow (by unfold leastExponent; omega) hlow
  have hpos : 0 < (nearest p 1).value := lt_of_lt_of_le (two_zpow_pos _) hden
  have hratio : (nearest r 1).value / (nearest p 1).value ≤ 2 ^ (1 : ℤ) := by
    rw [div_le_iff₀ hpos, zpow_one]
    rw [zpow_add₀ (by norm_num), zpow_one] at hnum
    linarith
  have hle := ((nearest r 1).isNearest_dividedBy hpos).le_two_zpow (by decide) hratio
  rwa [zpow_one] at hle

/-- A number that is rounded to some places by way of a power of ten is not more than doubled. -/
theorem rounded_dividedBy_le {x q : Magnitude} {e : ℤ} (he : 0 ≤ e) (hx : x.value ≤ 2 ^ e)
    (hq : q.Canonical ∧ 1 ≤ q.value) : ((x.times q).rounded.dividedBy q).value ≤ 2 ^ (e + 1) := by
  obtain ⟨⟨hmantissa, hleast, -⟩, hone⟩ := hq
  have hpos : 0 < q.value := by linarith
  have hshift (k : ℤ) : (q.mantissa : ℚ) * 2 ^ (q.exponent + k) = 2 ^ k * q.value := by
    rw [zpow_add₀ (by norm_num), Magnitude.value]
    ring
  have hproduct : (x.times q).value ≤ q.mantissa * 2 ^ (q.exponent + e) := by
    refine (x.isNearest_times q).le hmantissa (by omega) ?_
    rw [hshift]
    exact mul_le_mul_of_nonneg_right hx hpos.le
  have hrounded : (x.times q).rounded.value ≤ q.mantissa * 2 ^ (q.exponent + (e + 1)) := by
    refine (IsNearest.natCast _).le hmantissa (by omega) ?_
    refine (Magnitude.roundHalfUp_le_two_mul _).trans ?_
    have hdouble : (2 : ℚ) ^ (e + 1) = 2 * 2 ^ e := by
      rw [zpow_add₀ (by norm_num), zpow_one, mul_comm]
    rw [hshift] at hproduct ⊢
    rw [hdouble]
    linarith
  refine ((x.times q).rounded.isNearest_dividedBy hpos).le_two_zpow
    (by unfold leastExponent; omega) ?_
  rw [div_le_iff₀ hpos, ← hshift]
  exact hrounded

/-! ## Amounts without places -/

/-- The least amount that travels as `2 ^ 96`. -/
def travelLimit : ℕ := Nat.pow 2 96 - Nat.pow 2 42

theorem value_nearest_lt {m : ℕ} (h : m < travelLimit) : (nearest m 1).value < 2 ^ 96 := by
  have hlt : m < 2 ^ 96 - 2 ^ 42 := h
  have hcast : (m : ℚ) < (2 ^ 96 - 2 ^ 42 : ℕ) := Nat.cast_lt.2 hlt
  have hhalf : (m : ℚ) < ((2 ^ 53 - 1 : ℕ) + 1 / 2) * 2 ^ (43 : ℤ) := by
    norm_num at hcast ⊢
    linarith
  have hle := (IsNearest.natCast m).le_of_lt_half (by norm_num) (by norm_num) (by decide) hhalf
  norm_num at hle ⊢
  linarith

/-- Between the limit and `2 ^ 96`, the mantissa is rounded up to a power of two; half a unit goes
to the even number above. -/
theorem nearest_eq {m : ℕ} (h : travelLimit ≤ m) (hm : m < 2 ^ 96) :
    nearest m 1 = ⟨2 ^ 53, 43⟩ := by
  have hle : 2 ^ 96 - 2 ^ 42 ≤ m := h
  have hpos : 0 < m := by omega
  have haround := around_exponentOf hpos Nat.one_pos
  rw [Nat.cast_one, div_one] at haround
  have hlow : (2 : ℚ) ^ 95 ≤ m := by exact_mod_cast (by omega : 2 ^ 95 ≤ m)
  have hhigh : (m : ℚ) < 2 ^ 96 := by exact_mod_cast hm
  have hexponent : exponentOf m 1 = 43 := by
    refine le_antisymm (not_lt.1 fun hgt => ?_) (not_lt.1 fun hlt => ?_)
    · have hbelow := haround.le_of_ne (by unfold leastExponent; omega)
      have hunit : (2 : ℚ) ^ (44 : ℤ) ≤ 2 ^ exponentOf m 1 := two_zpow_le (by omega)
      norm_num at hunit
      linarith
    · have habove := haround.lt
      have hunit : (2 : ℚ) ^ exponentOf m 1 ≤ 2 ^ (42 : ℤ) := two_zpow_le (by omega)
      norm_num at hunit
      linarith
  have hround : Number.roundHalfEven m (2 ^ 43) = 2 ^ 53 := by
    have hdiv : m / 2 ^ 43 = 2 ^ 53 - 1 := by omega
    have hmod : 2 ^ 42 ≤ m % 2 ^ 43 := by omega
    rw [Number.roundHalfEven, hdiv, if_neg (by omega)]
    split
    · rfl
    · rfl
  have hnum : m * Nat.pow 2 (-43 : ℤ).toNat = m := Nat.mul_one m
  have hden : 1 * Nat.pow 2 (43 : ℤ).toNat = 2 ^ 43 := rfl
  rw [nearest, if_neg hpos.ne', hexponent]
  dsimp only
  rw [hnum, hden, hround]

/-! ## Amounts -/

/-- The limit as a bound on the number. -/
theorem lt_travelLimit_iff :
    |d.value| < 2 ^ 96 - 2 ^ 42 ↔ d.magnitude < travelLimit * Nat.pow 10 d.scale := by
  have habs : |d.value| = (d.magnitude : ℚ) / 10 ^ d.scale := by
    rw [value, abs_div, abs_of_pos (by positivity : (0 : ℚ) < 10 ^ d.scale), ← Int.cast_abs,
      ← natAbs_mantissa, Int.abs_eq_natAbs, Int.cast_natCast]
  have hlimit : (2 ^ 96 - 2 ^ 42 : ℚ) = travelLimit := by
    have hsub : travelLimit = 2 ^ 96 - 2 ^ 42 := rfl
    rw [hsub, Nat.cast_sub (by norm_num)]
    norm_num
  rw [habs, hlimit, div_lt_iff₀ (by positivity), Nat.pow_eq]
  exact_mod_cast Iff.rfl

theorem binary_canonical (d : Decimal) : d.binary.Canonical := by
  unfold binary
  dsimp only
  split
  · exact (IsNearest.natCast _).canonical
  · split
    · exact (IsNearest.natCast _).canonical
    · have hpos : 0 < (powerOfTen d.scale).value := by linarith [(powerOfTen_spec d.scale).2]
      exact (Magnitude.isNearest_dividedBy _ hpos).canonical

/-- The whole part of an amount with places is far below the limit. -/
theorem whole_le (h : d.scale ≠ 0) :
    (nearest (d.magnitude / Nat.pow 10 d.scale) 1).value ≤ 2 ^ (93 : ℤ) := by
  have hten : 10 ≤ Nat.pow 10 d.scale := Nat.le_self_pow h 10
  have hdiv : d.magnitude / Nat.pow 10 d.scale ≤ d.magnitude / 10 :=
    Nat.div_le_div_left hten (by decide)
  have hfits : d.magnitude < 2 ^ 96 := d.fits
  have hwhole : d.magnitude / Nat.pow 10 d.scale ≤ 2 ^ 93 := by omega
  exact (IsNearest.natCast _).le_two_zpow (by decide) (by exact_mod_cast hwhole)

/-- An amount below the limit travels as a number below `2 ^ 96`. -/
theorem binary_lt (h : d.magnitude < travelLimit * Nat.pow 10 d.scale) :
    d.binary.value < 2 ^ 96 := by
  unfold binary
  dsimp only
  split
  · next hscale =>
    rw [hscale] at h
    exact value_nearest_lt (by simpa using h)
  next hscale =>
  have hwhole := whole_le hscale
  split
  · exact hwhole.trans_lt (by norm_num)
  · have hpos : 0 < Nat.pow 10 d.scale := Nat.pow_pos (by decide)
    have hfraction := fraction_le (Nat.mod_lt d.magnitude hpos)
    have hsum : (nearest (d.magnitude / Nat.pow 10 d.scale) 1).value +
        ((nearest (d.magnitude % Nat.pow 10 d.scale) 1).dividedBy
          (nearest (Nat.pow 10 d.scale) 1)).value ≤ 2 ^ (94 : ℤ) := by
      norm_num at hwhole hfraction ⊢
      linarith
    have hplus := (Magnitude.isNearest_plus _ _).le_two_zpow (by decide) hsum
    exact (rounded_dividedBy_le (by decide) hplus (powerOfTen_spec d.scale)).trans_lt (by norm_num)

/-- An amount from the limit on travels as `2 ^ 96`. -/
theorem binary_eq (h : travelLimit * Nat.pow 10 d.scale ≤ d.magnitude) :
    d.binary = ⟨2 ^ 53, 43⟩ := by
  have hfits : d.magnitude < 2 ^ 96 := d.fits
  have hscale : d.scale = 0 := by
    by_contra hne
    have hten : 10 ≤ Nat.pow 10 d.scale := Nat.le_self_pow hne 10
    have hmul : travelLimit * 10 ≤ d.magnitude := (Nat.mul_le_mul_left _ hten).trans h
    have hlimit : travelLimit = 2 ^ 96 - 2 ^ 42 := rfl
    omega
  rw [hscale] at h
  rw [binary, if_pos hscale]
  exact nearest_eq (by simpa using h) hfits

end Decimal

end OrderDesk
