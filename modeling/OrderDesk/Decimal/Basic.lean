/-!
# Decimal numbers

Prices and totals are decimals: a sign, a whole magnitude of less than 96 bits, and a scale from 0
to 28 that says how many of its digits stand behind the point.  The same number may have several
scales (`1.5` and `1.50`); arithmetic keeps the scale it arrives at, and only the printed form drops
the zeros at the end (`Decimal.text`).  Zero has no sign, unless a number below zero was rounded to
it (`Decimal.shiftRight`).
-/

namespace OrderDesk

/-- The least number that has more than 96 bits. -/
def Decimal.magnitudeLimit : Nat := Nat.pow 2 96

/-- The number `magnitude / 10 ^ scale`, or its negative. -/
structure Decimal where
  negative : Bool
  magnitude : Nat
  scale : Nat
  fits : magnitude < Decimal.magnitudeLimit
  scale_le : scale ≤ 28
deriving DecidableEq

namespace Decimal

/-- The number zero. -/
def zero : Decimal := ⟨false, 0, 0, by decide, by decide⟩

instance : Inhabited Decimal := ⟨zero⟩

/-- The decimal with a sign, a magnitude and a scale, if the two are in range; zero loses its
sign. -/
def ofParts? (negative : Bool) (magnitude scale : Nat) : Option Decimal :=
  if h : magnitude < magnitudeLimit ∧ scale ≤ 28 then
    some ⟨negative && magnitude != 0, magnitude, scale, h.1, h.2⟩
  else none

theorem ofParts?_eq_some_iff {negative : Bool} {m s : Nat} {d : Decimal} :
    ofParts? negative m s = some d ↔
      d.negative = (negative && m != 0) ∧ d.magnitude = m ∧ d.scale = s := by
  unfold ofParts?
  constructor
  · intro h
    split at h
    · cases h; exact ⟨rfl, rfl, rfl⟩
    · cases h
  · rintro ⟨hn, rfl, rfl⟩
    rw [dif_pos ⟨d.fits, d.scale_le⟩, ← hn]

/-- The magnitude with its sign. -/
def mantissa (d : Decimal) : Int := if d.negative then -(d.magnitude : Int) else d.magnitude

/-- The whole number `n`, if it has less than 96 bits. -/
def ofInt? (n : Int) : Option Decimal := ofParts? (decide (n < 0)) n.natAbs 0

/-- A number of hundredths. -/
def ofHundredths (n : UInt32) : Decimal :=
  ⟨false, n.toNat, 2, Nat.lt_trans n.toNat_lt (by decide), by decide⟩

/-- Is there a minus sign? -/
def isNegative (d : Decimal) : Bool := d.negative

/-! ## The printed form -/

/-- Takes zeros off the end of a magnitude as long as digits stand behind the point. -/
def strip : (scale : Nat) → Nat → Nat × Nat
  | 0, m => (m, 0)
  | scale + 1, m => if m % 10 = 0 then strip scale (m / 10) else (m, scale + 1)

/-- The digits of `m / 10 ^ scale`, with a digit at least in front of the point. -/
def pointed (m scale : Nat) : List Char :=
  let digits := Nat.toDigits 10 m
  if scale = 0 then digits
  else
    let padded := List.replicate (scale + 1 - digits.length) '0' ++ digits
    padded.take (padded.length - scale) ++ '.' :: padded.drop (padded.length - scale)

/-- The printed form: positional, without zeros at the end, and with a minus sign in front of a
number below zero. -/
def text (d : Decimal) : String :=
  let (m, s) := strip d.scale d.magnitude
  String.ofList ((if d.negative && d.magnitude != 0 then ['-'] else []) ++ pointed m s)

end Decimal

end OrderDesk
