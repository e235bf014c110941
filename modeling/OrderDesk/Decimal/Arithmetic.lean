import OrderDesk.Decimal.Basic
import OrderDesk.Number.Rounding

/-!
# Decimal arithmetic

Products and sums are computed exactly and then brought into range: as few digits as possible are
dropped at the end, and what is dropped is rounded half to even.  When not even the whole part fits
there is no result.  A product with zero is zero without places, and a sum with zero is the other
number, with the scale it had.

Main statement: a result that is in range already is not rounded (`fit?_eq_some_of_fits`).
-/

namespace OrderDesk.Decimal

/-- `m / 10 ^ scale` with `dropped` digits rounded away. -/
def dropDigits (m dropped : Nat) : Nat := Number.roundHalfEven m (Nat.pow 10 dropped)

@[simp] theorem dropDigits_zero (m : Nat) : dropDigits m 0 = m := by
  simpa [dropDigits] using @Number.roundHalfEven_mul m 1 (by decide)

/-- The first number of dropped digits, counted from `dropped`, for which the magnitude fits. -/
def fitFrom? (negative : Bool) (m : Nat) : (scale dropped : Nat) → Option Decimal
  | scale, dropped =>
    match ofParts? negative (dropDigits m dropped) scale with
    | some d => some d
    | none =>
      match scale with
      | 0 => none
      | scale + 1 => fitFrom? negative m scale (dropped + 1)

/-- The number `m / 10 ^ scale` or its negative, brought into range. -/
def fit? (negative : Bool) (m scale : Nat) : Option Decimal :=
  fitFrom? negative m (min scale 28) (scale - 28)

/-- A number in range is not rounded. -/
theorem fit?_eq_some_of_fits {negative : Bool} {m s : Nat} (hm : m < magnitudeLimit)
    (hs : s ≤ 28) : fit? negative m s = some ⟨negative && m != 0, m, s, hm, hs⟩ := by
  have hmin : min s 28 = s := by omega
  have hsub : s - 28 = 0 := by omega
  have hparts : ofParts? negative m s = some ⟨negative && m != 0, m, s, hm, hs⟩ :=
    ofParts?_eq_some_iff.2 ⟨rfl, rfl, rfl⟩
  unfold fit?
  rw [hmin, hsub]
  cases s with
  | zero => unfold fitFrom?; simp only [dropDigits_zero, hparts]
  | succ s => unfold fitFrom?; simp only [dropDigits_zero, hparts]

/-- The product. -/
def mul? (a b : Decimal) : Option Decimal :=
  if a.magnitude = 0 ∨ b.magnitude = 0 then some zero
  else fit? (a.negative != b.negative) (a.magnitude * b.magnitude) (a.scale + b.scale)

/-- The mantissa of a number written with at least `scale` places. -/
def mantissaAt (d : Decimal) (scale : Nat) : Int :=
  d.mantissa * (Nat.pow 10 (scale - d.scale) : Nat)

/-- The sum. -/
def add? (a b : Decimal) : Option Decimal :=
  if a.magnitude = 0 then some b
  else if b.magnitude = 0 then some a
  else
    let scale := max a.scale b.scale
    let sum := a.mantissaAt scale + b.mantissaAt scale
    fit? (decide (sum < 0)) sum.natAbs scale

/-- A tenth of a number that is not negative: one more place, or the last of 28 places rounded. -/
def tenth (d : Decimal) : Decimal :=
  if h : d.scale < 28 then ⟨d.negative, d.magnitude, d.scale + 1, d.fits, h⟩
  else
    match fit? d.negative d.magnitude (d.scale + 1) with
    | some t => t
    | none => zero

/-- The largest whole number that is not above the number. -/
def floor (d : Decimal) : Int := d.mantissa / (Nat.pow 10 d.scale : Nat)

/-- The number divided by `10 ^ exponent`.  Places beyond the last are rounded, a half away from
zero; a number below zero keeps its sign even if it is rounded to zero. -/
def shiftRight (d : Decimal) (exponent : Nat) : Decimal :=
  if h : d.scale + exponent ≤ 28 then ⟨d.negative, d.magnitude, d.scale + exponent, d.fits, h⟩
  else
    let unit := Nat.pow 10 (d.scale + exponent - 28)
    have fits := Nat.lt_of_le_of_lt
      (Number.roundHalfUp_le (Nat.pow_pos (n := d.scale + exponent - 28) (by decide))) d.fits
    ⟨d.negative, Number.roundHalfUp d.magnitude unit, 28, fits, Nat.le_refl 28⟩

/-- The number times `10 ^ exponent`, without places if the exponent uses them all up. -/
def shiftLeft? (d : Decimal) (exponent : Nat) : Option Decimal :=
  if exponent ≤ d.scale then ofParts? d.negative d.magnitude (d.scale - exponent)
  else ofParts? d.negative (d.magnitude * Nat.pow 10 (exponent - d.scale)) 0

end OrderDesk.Decimal
