import Mathlib.Algebra.Order.Floor.Semiring
import Mathlib.Data.Rat.Floor
import Mathlib.Tactic.Linarith
import Mathlib.Tactic.Positivity
import OrderDesk.Order.Basic
import OrderDesk.Proofs.Decimal.Exact

/-!
# Loyalty points

An order earns a point for each whole ten of its total.  The tenth is computed as a decimal, which
has 28 places at most, before it is rounded down.  **`loyaltyPoints_exact`** — nonetheless the
points are the exact tenth of the total, rounded down, up to the largest number of 64 bits.

With places left, the tenth is exact (`Decimal.value_tenth`).  With all 28 places in use it is
rounded, but then neither the tenth nor what it is rounded to comes up to one
(`Decimal.floor_tenth_of_full`).
-/

namespace OrderDesk

namespace Decimal

variable {d : Decimal}

/-! ## A tenth -/

/-- The largest whole number that is not above a decimal is that of its value. -/
theorem floor_eq (d : Decimal) : d.floor = ⌊d.value⌋ := by
  have hpow : ((10 ^ d.scale : Nat) : ℚ) = 10 ^ d.scale := by push_cast; rfl
  rw [floor, value, Nat.pow_eq, ← hpow, Rat.floor_intCast_div_natCast]

/-- A tenth is exact as long as there is a place for it. -/
theorem value_tenth (h : d.scale < 28) : d.tenth.value = d.value / 10 := by
  rw [tenth, dif_pos h]
  show (d.mantissa : ℚ) / 10 ^ (d.scale + 1) = d.mantissa / 10 ^ d.scale / 10
  rw [pow_succ, div_div]

theorem roundHalfEven_ten_lt {m : Nat} (h : m < magnitudeLimit) :
    Number.roundHalfEven m 10 < 10 ^ 28 := by
  have hlimit : magnitudeLimit = 79228162514264337593543950336 := by decide
  have hround := (@Number.roundHalfEven_within m 10 (by decide)).1
  omega

/-- With all places in use, there is nothing before the point of a tenth. -/
theorem floor_tenth_of_full (hscale : d.scale = 28) (hsign : d.isNegative = false) :
    d.tenth.floor = 0 := by
  have hround := roundHalfEven_ten_lt d.fits
  have hfits : Number.roundHalfEven d.magnitude 10 < magnitudeLimit :=
    Nat.lt_trans hround (by decide)
  have hneg : d.negative = false := hsign
  have hfit : fit? d.negative d.magnitude (d.scale + 1) =
      some ⟨false, Number.roundHalfEven d.magnitude 10, 28, hfits, Nat.le_refl 28⟩ := by
    have hparts : ofParts? false (dropDigits d.magnitude 1) 28 =
        some ⟨false, Number.roundHalfEven d.magnitude 10, 28, hfits, Nat.le_refl 28⟩ :=
      ofParts?_eq_some_iff.2 ⟨rfl, rfl, rfl⟩
    rw [hscale, hneg]
    show fitFrom? false d.magnitude 28 1 = _
    rw [fitFrom?, hparts]
  rw [tenth, dif_neg (by omega), hfit]
  exact Int.ediv_eq_zero_of_lt (Int.natCast_nonneg _) (Int.ofNat_lt.2 hround)

theorem floor_tenth_value_of_full (hscale : d.scale = 28) (hsign : d.isNegative = false) :
    ⌊d.value / 10⌋ = 0 := by
  have hvalue := value_nonneg hsign
  have hless : d.value < 10 := by
    have hfits : (d.magnitude : ℚ) < 10 * 10 ^ 28 := by
      have hnat : d.magnitude < 10 * 10 ^ 28 := Nat.lt_trans d.fits (by decide)
      exact_mod_cast hnat
    rw [value_of_nonneg hsign, hscale]
    exact (div_lt_iff₀ (by positivity)).2 hfits
  exact Int.floor_eq_zero_iff.2 ⟨by positivity, by linarith⟩

/-- **Rounding a tenth does not lead across a whole number.** -/
theorem floor_tenth (hsign : d.isNegative = false) : d.tenth.floor = ⌊d.value / 10⌋ := by
  rcases Nat.lt_or_ge d.scale 28 with hscale | hscale
  · rw [floor_eq, value_tenth hscale]
  · have hfull : d.scale = 28 := Nat.le_antisymm d.scale_le hscale
    rw [floor_tenth_of_full hfull hsign, floor_tenth_value_of_full hfull hsign]

end Decimal

/-! ## Points -/

/-- The points that a total of a given value is worth, when it is divided exactly. -/
def exactPoints (value : ℚ) : Int := min ⌊max value 0 / 10⌋ (2 ^ 64 - 1)

theorem exactPoints_mono {v w : ℚ} (h : v ≤ w) : exactPoints v ≤ exactPoints w := by
  have htenth : max v 0 / 10 ≤ max w 0 / 10 :=
    div_le_div_of_nonneg_right (max_le_max_right 0 h) (by norm_num)
  exact min_le_min_right _ (Int.floor_mono htenth)

theorem loyaltyPoints_val (d : Decimal) : (loyaltyPoints d).val = exactPoints d.value := by
  unfold loyaltyPoints exactPoints
  cases hsign : d.isNegative with
  | true =>
    rw [if_pos rfl, max_eq_right (Decimal.value_nonpos hsign), zero_div, Int.floor_zero]
    rfl
  | false =>
    have hvalue := Decimal.value_nonneg hsign
    have hfloor : 0 ≤ ⌊d.value / 10⌋ := Int.floor_nonneg.2 (by positivity)
    rw [if_neg Bool.false_ne_true, Unsigned64.ofNatSaturating_val, Decimal.floor_tenth hsign,
      max_eq_left hvalue, Int.toNat_of_nonneg hfloor]
    rfl

/-- **Loyalty points are exact.**  They are a tenth of the total, rounded down, and no more than 64
bits can hold; the tenth that is computed on the way has the right whole part.  A larger total earns
no less, and two ways to write a total earn the same. -/
theorem loyaltyPoints_exact (d e : Decimal) :
    (loyaltyPoints d).val = min ⌊max d.value 0 / 10⌋ (2 ^ 64 - 1) ∧
    (d.isNegative = false → d.tenth.floor = ⌊d.value / 10⌋) ∧
    (d.value ≤ e.value → (loyaltyPoints d).val ≤ (loyaltyPoints e).val) ∧
    (d.value = e.value → loyaltyPoints d = loyaltyPoints e) := by
  refine ⟨loyaltyPoints_val d, Decimal.floor_tenth, fun h => ?_, fun h => Bounded.ext ?_⟩
  · rw [loyaltyPoints_val, loyaltyPoints_val]
    exact exactPoints_mono h
  · rw [loyaltyPoints_val, loyaltyPoints_val, h]

theorem loyaltyPoints_exact_trailing :
    let d : Decimal := ⟨false, 129999, 2, by decide, by decide⟩
    let e : Decimal := ⟨false, 12999900, 4, by decide, by decide⟩
    d.tenth.floor = ⌊d.value / 10⌋ ∧ (loyaltyPoints d).val ≤ (loyaltyPoints e).val ∧
      loyaltyPoints d = loyaltyPoints e ∧ (loyaltyPoints e).val = 129 := by
  intro d e
  have hvalue : d.value = e.value := by norm_num [Decimal.value, Decimal.mantissa, d, e]
  have h := loyaltyPoints_exact d e
  exact ⟨h.2.1 rfl, h.2.2.1 hvalue.le, h.2.2.2 hvalue, by decide⟩

end OrderDesk
