import Mathlib.Algebra.Field.Rat
import Mathlib.Tactic.FieldSimp
import Mathlib.Tactic.Positivity
import Mathlib.Tactic.Ring
import OrderDesk.Decimal.Arithmetic

/-!
# Where decimals are not rounded

A decimal stands for a number (`Decimal.value`).  Sums and products are rounded only if they have to
be, and they have to be only if the exact result has too many digits.  So as long as everything is
counted in units of one place (`Decimal.Counts`) and the counts stay below 96 bits, decimals are
added and multiplied as whole numbers are.

* `Counts.mul?`, `Counts.add?` — products and sums that fit are exact.
* `Counts.value_eq` — what a count stands for.
-/

namespace OrderDesk.Decimal

/-- The number that a decimal stands for. -/
def value (d : Decimal) : ℚ := d.mantissa / 10 ^ d.scale

/-- The decimal is so many units of the last of so many places. -/
structure Counts (d : Decimal) (places : Nat) (n : Int) : Prop where
  scale_le : d.scale ≤ places
  mantissaAt_eq : d.mantissaAt places = n

variable {a b c d : Decimal} {s t : Nat} {m n : Int}

/-! ## Mantissas -/

theorem mantissaAt_eq (d : Decimal) (s : Nat) : d.mantissaAt s = d.mantissa * 10 ^ (s - d.scale) := by
  rw [mantissaAt, Nat.pow_eq, Nat.cast_pow, Nat.cast_ofNat]

theorem natAbs_mantissa (d : Decimal) : d.mantissa.natAbs = d.magnitude := by
  unfold mantissa
  split
  · rw [Int.natAbs_neg, Int.natAbs_natCast]
  · rw [Int.natAbs_natCast]

theorem mantissa_eq_zero_iff : d.mantissa = 0 ↔ d.magnitude = 0 := by
  rw [← Int.natAbs_eq_zero, natAbs_mantissa]

/-! ## Signs -/

theorem value_of_nonneg (h : d.isNegative = false) : d.value = d.magnitude / 10 ^ d.scale := by
  have hneg : d.negative = false := h
  rw [value, mantissa, hneg, if_neg Bool.false_ne_true, Int.cast_natCast]

theorem value_nonneg (h : d.isNegative = false) : 0 ≤ d.value := by
  rw [value_of_nonneg h]
  positivity

theorem value_nonpos (h : d.isNegative = true) : d.value ≤ 0 := by
  have hneg : d.negative = true := h
  rw [value, mantissa, if_pos hneg]
  refine div_nonpos_of_nonpos_of_nonneg ?_ (by positivity)
  push_cast
  exact neg_nonpos.2 (Nat.cast_nonneg _)

/-! ## Counting units -/

namespace Counts

/-- The same number in units of a later place. -/
theorem later (h : Counts d s n) (hle : s ≤ t) : Counts d t (n * 10 ^ (t - s)) := by
  refine ⟨Nat.le_trans h.scale_le hle, ?_⟩
  have hexp : t - d.scale = (s - d.scale) + (t - s) := by
    have := h.scale_le
    omega
  rw [← h.mantissaAt_eq, Decimal.mantissaAt_eq, Decimal.mantissaAt_eq, hexp, pow_add, mul_assoc]

theorem value_eq (h : Counts d s n) : d.value = n / 10 ^ s := by
  have hexp : s = (s - d.scale) + d.scale := by
    have := h.scale_le
    omega
  have hn : (n : ℚ) = d.mantissa * 10 ^ (s - d.scale) := by
    rw [← h.mantissaAt_eq, Decimal.mantissaAt_eq]
    push_cast
    rfl
  have hpow : (10 : ℚ) ^ s = 10 ^ (s - d.scale) * 10 ^ d.scale := by rw [← pow_add, ← hexp]
  rw [value, hn, hpow]
  field_simp

theorem eq_zero_iff (h : Counts d s n) : n = 0 ↔ d.magnitude = 0 := by
  rw [← h.mantissaAt_eq, Decimal.mantissaAt_eq, Int.mul_eq_zero, mantissa_eq_zero_iff]
  exact or_iff_left (pow_ne_zero _ (by decide))

theorem zero (s : Nat) : Counts Decimal.zero s 0 :=
  ⟨Nat.zero_le _, by rw [Decimal.mantissaAt_eq]; exact zero_mul _⟩

/-- A count of units is no smaller than the mantissa. -/
theorem natAbs_mantissa_le (h : Counts d s n) : d.mantissa.natAbs ≤ n.natAbs := by
  rw [← h.mantissaAt_eq, Decimal.mantissaAt_eq, Int.natAbs_mul]
  refine Nat.le_mul_of_pos_right _ (Int.natAbs_pos.2 (pow_ne_zero _ (by decide)))

/-! ## Arithmetic -/

theorem exists_ofParts? (negative : Bool) {m : Nat} (hm : m < magnitudeLimit) (hs : s ≤ 28) :
    ∃ d, ofParts? negative m s = some d ∧ Counts d s (if negative then -(m : Int) else m) := by
  rw [ofParts?, dif_pos ⟨hm, hs⟩]
  refine ⟨_, rfl, Nat.le_refl s, ?_⟩
  rw [Decimal.mantissaAt_eq, Nat.sub_self, pow_zero, mul_one]
  unfold mantissa
  by_cases hzero : m = 0
  · simp [hzero]
  · simp [hzero]

theorem exists_fit? (negative : Bool) {m : Nat} (hm : m < magnitudeLimit) (hs : s ≤ 28) :
    ∃ d, fit? negative m s = some d ∧ Counts d s (if negative then -(m : Int) else m) := by
  have hparts : fit? negative m s = ofParts? negative m s := by
    rw [fit?_eq_some_of_fits hm hs, ofParts?, dif_pos ⟨hm, hs⟩]
  rw [hparts]
  exact exists_ofParts? negative hm hs

theorem signed_natAbs (n : Int) : (if decide (n < 0) then -(n.natAbs : Int) else n.natAbs) = n := by
  by_cases hneg : n < 0
  · rw [if_pos (decide_eq_true hneg)]
    omega
  · rw [if_neg (by simpa using hneg)]
    omega

theorem exists_ofInt? (h : n.natAbs < magnitudeLimit) : ∃ d, ofInt? n = some d ∧ Counts d 0 n := by
  obtain ⟨d, hd, hcounts⟩ := exists_ofParts? (decide (n < 0)) h (Nat.zero_le 28)
  exact ⟨d, hd, signed_natAbs n ▸ hcounts⟩

/-- **A product that fits is exact.** -/
theorem mul? (ha : Counts a s m) (hb : Counts b t n) (hplaces : s + t ≤ 28)
    (hfits : (m * n).natAbs < magnitudeLimit) :
    ∃ c, a.mul? b = some c ∧ Counts c (s + t) (m * n) := by
  unfold Decimal.mul?
  by_cases hzero : a.magnitude = 0 ∨ b.magnitude = 0
  · rw [if_pos hzero]
    have hmn : m * n = 0 := by
      rw [Int.mul_eq_zero, ha.eq_zero_iff, hb.eq_zero_iff]
      exact hzero
    exact ⟨_, rfl, hmn ▸ zero _⟩
  · rw [if_neg hzero]
    have hscale : a.scale + b.scale ≤ s + t := Nat.add_le_add ha.scale_le hb.scale_le
    have hprod : a.magnitude * b.magnitude < magnitudeLimit := by
      refine Nat.lt_of_le_of_lt ?_ hfits
      rw [Int.natAbs_mul, ← natAbs_mantissa, ← natAbs_mantissa]
      exact Nat.mul_le_mul ha.natAbs_mantissa_le hb.natAbs_mantissa_le
    obtain ⟨c, hc, hcounts⟩ :=
      exists_fit? (a.negative != b.negative) hprod (Nat.le_trans hscale hplaces)
    have hsign : (if a.negative != b.negative then -((a.magnitude * b.magnitude : Nat) : Int)
        else (a.magnitude * b.magnitude : Nat)) = a.mantissa * b.mantissa := by
      unfold mantissa
      cases a.negative <;> cases b.negative <;> simp
    have hexp : s + t - (a.scale + b.scale) = (s - a.scale) + (t - b.scale) := by
      have := ha.scale_le
      have := hb.scale_le
      omega
    refine ⟨c, hc, ?_⟩
    rw [← ha.mantissaAt_eq, ← hb.mantissaAt_eq, Decimal.mantissaAt_eq, Decimal.mantissaAt_eq,
      mul_mul_mul_comm, ← pow_add, ← hexp, ← hsign]
    exact hcounts.later hscale

/-- **A sum that fits is exact.** -/
theorem add? (ha : Counts a s m) (hb : Counts b s n) (hplaces : s ≤ 28)
    (hfits : (m + n).natAbs < magnitudeLimit) :
    ∃ c, a.add? b = some c ∧ Counts c s (m + n) := by
  unfold Decimal.add?
  by_cases hzero : a.magnitude = 0
  · rw [if_pos hzero, ha.eq_zero_iff.2 hzero, Int.zero_add]
    exact ⟨b, rfl, hb⟩
  · rw [if_neg hzero]
    by_cases hzero' : b.magnitude = 0
    · rw [if_pos hzero', hb.eq_zero_iff.2 hzero', Int.add_zero]
      exact ⟨a, rfl, ha⟩
    · rw [if_neg hzero']
      dsimp only
      have hscale : max a.scale b.scale ≤ s := Nat.max_le.2 ⟨ha.scale_le, hb.scale_le⟩
      have ha' : Counts a (max a.scale b.scale) _ := ⟨Nat.le_max_left _ _, rfl⟩
      have hb' : Counts b (max a.scale b.scale) _ := ⟨Nat.le_max_right _ _, rfl⟩
      generalize max a.scale b.scale = common at hscale ha' hb' ⊢
      -- the sum at the common scale is a part of the sum at all places
      have hsum : m + n = (a.mantissaAt common + b.mantissaAt common) * 10 ^ (s - common) := by
        rw [← ha.mantissaAt_eq, ← hb.mantissaAt_eq, (ha'.later hscale).mantissaAt_eq,
          (hb'.later hscale).mantissaAt_eq, add_mul]
      have hless : (a.mantissaAt common + b.mantissaAt common).natAbs < magnitudeLimit := by
        refine Nat.lt_of_le_of_lt ?_ hfits
        rw [hsum, Int.natAbs_mul]
        exact Nat.le_mul_of_pos_right _ (Int.natAbs_pos.2 (pow_ne_zero _ (by decide)))
      rw [hsum]
      generalize a.mantissaAt common + b.mantissaAt common = sum at hless ⊢
      obtain ⟨c, hc, hcounts⟩ := exists_fit? (decide (sum < 0)) hless (Nat.le_trans hscale hplaces)
      exact ⟨c, hc, (signed_natAbs sum ▸ hcounts).later hscale⟩

end Counts

end OrderDesk.Decimal
