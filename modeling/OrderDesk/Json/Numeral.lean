import OrderDesk.Number.Shortest
import OrderDesk.Text.Digit

/-!
# Numbers as they are written

A JSON number is kept the way it was written: a sign, whole digits, digits behind a point, and an
exponent.  Reading it as a number takes place when something needs the value (`Numeral.value?`):

* a numeral without point and exponent that fits 64 bits is that whole number, except that minus
  zero is a floating-point number;
* any other numeral is a floating-point number.  Its digits are collected into a significand of 64
  bits; once the next digit would not fit, whole digits only raise the exponent and places are left
  out.  The significand is then multiplied with or divided by one rounded power of ten, so the
  result may differ from the nearest floating-point number in its last bits.
-/

namespace OrderDesk

/-- A number as it is written. -/
structure Numeral where
  negative : Bool
  whole : List Nat
  /-- The digits behind the point, if there is a point. -/
  places : Option (List Nat)
  /-- The exponent of ten, if there is one: is it negative, and its digits. -/
  exponent : Option (Bool × List Nat)
deriving DecidableEq

namespace Numeral

/-- The digits of a whole number. -/
def digitsOf (n : Nat) : List Nat := (Nat.toDigits 10 n).filterMap Text.value?

/-- A whole number. -/
def ofInt (n : Int) : Numeral := ⟨decide (n < 0), digitsOf n.natAbs, none, none⟩

/-- The numeral of `0.ds · 10 ^ point`.  It has no exponent if the number has at most sixteen whole
digits and at most four zeros between the point and the digits; otherwise one digit stands in front
of the point. -/
def ofDigits (negative : Bool) (ds : List Nat) (point : Int) : Numeral :=
  if 0 < point ∧ point ≤ 16 then
    let width := point.toNat
    let places := ds.drop width
    ⟨negative, ds.take width ++ List.replicate (width - ds.length) 0,
      some (if places.isEmpty then [0] else places), none⟩
  else if -5 < point ∧ point ≤ 0 then
    ⟨negative, [0], some (List.replicate point.natAbs 0 ++ ds), none⟩
  else
    let places := ds.drop 1
    ⟨negative, ds.take 1, if places.isEmpty then none else some places,
      some (decide (point < 1), digitsOf (point - 1).natAbs)⟩

/-- A finite floating-point number, with the fewest digits that read back as it; of two equally near
decimals the even one. -/
def ofFinite (x : Binary64.Finite) : Numeral :=
  let ⟨mantissa, exponent⟩ := x.magnitude
  if mantissa = 0 then ⟨x.negative, [0], some [0], none⟩
  else
    let (c, k) := Shortest.decimal .toEven mantissa exponent
    let ds := digitsOf c
    ofDigits x.negative (ds.reverse.dropWhile (· = 0)).reverse (ds.length + k)

/-- A floating-point number.  One that is infinite or undefined is written as zero. -/
def ofFloat (f : Float) : Numeral :=
  match Binary64.decode f with
  | .finite x => ofFinite x
  | _ => ⟨false, [0], some [0], none⟩

/-- The numeral as text. -/
def chars (n : Numeral) : List Char :=
  (if n.negative then ['-'] else []) ++ n.whole.map Text.digit ++
    (match n.places with
      | none => []
      | some ds => '.' :: ds.map Text.digit) ++
    (match n.exponent with
      | none => []
      | some (negative, ds) => 'e' :: (if negative then ['-'] else []) ++ ds.map Text.digit)

/-! ## The value of a numeral -/

open Binary64 (Magnitude nearest)

/-- What a numeral stands for. -/
inductive Value where
  | whole (n : Int)
  | floating (f : Float)

/-- The largest significand. -/
def significandLimit : Nat := 18446744073709551615

/-- Collects whole digits: the significand, the digits that no longer fit, and whether there were
any such digits. -/
def collectWhole (ds : List Nat) : Nat × Nat × Bool :=
  ds.foldl (fun (significand, skipped, full) d =>
    if full || significandLimit < 10 * significand + d then (significand, skipped + 1, true)
    else (10 * significand + d, skipped, false)) (0, 0, false)

/-- Takes a place into the significand unless it does not fit, or one before it did not: the
significand, how many places went into it, and whether places are left out. -/
def collectPlace : Nat × Nat × Bool → Nat → Nat × Nat × Bool
  | (significand, taken, full), d =>
    if full || significandLimit < 10 * significand + d then (significand, taken, true)
    else (10 * significand + d, taken + 1, false)

/-- Collects places: the significand, and how many places went into it. -/
def collectPlaces (significand : Nat) (ds : List Nat) : Nat × Nat :=
  let (significand, taken, _) := ds.foldl collectPlace (significand, 0, false)
  (significand, taken)

/-- The largest exponent of a power of ten that is a floating-point number. -/
def powerLimit : Int := 308

/-- The floating-point number nearest to a power of ten. -/
def power (n : Nat) : Magnitude := nearest (Nat.pow 10 n) 1

/-- Divides by powers of ten until the exponent is used up or nothing is left. -/
def scaleDown : (fuel : Nat) → Magnitude → (exponent : Int) → Magnitude
  | 0, x, _ => x
  | fuel + 1, x, exponent =>
    if -powerLimit ≤ exponent then x.dividedBy (power exponent.natAbs)
    else if x.mantissa = 0 then x
    else scaleDown fuel (x.dividedBy (power 308)) (exponent + powerLimit)

/-- The significand times a power of ten, unless that is too large. -/
def assemble? (significand : Nat) (exponent : Int) : Option Magnitude :=
  let x := nearest significand 1
  if exponent < 0 then some (scaleDown 4 x exponent)
  else if exponent ≤ powerLimit then
    let product := x.times (power exponent.toNat)
    if product.isFinite then some product else none
  else if significand = 0 then some x
  else none

/-- The largest exponent that is looked at. -/
def exponentLimit : Nat := 2147483647

/-- The floating-point number of a numeral without its sign. -/
def magnitude? (n : Numeral) : Option Magnitude :=
  let (significand, skipped, _) := collectWhole n.whole
  let (significand, taken) := collectPlaces significand (n.places.getD [])
  let start : Int := skipped - taken
  match n.exponent with
  | none => assemble? significand start
  | some (negative, ds) =>
    let e := Text.ofDigits 10 ds
    if e ≤ exponentLimit then assemble? significand (if negative then start - e else start + e)
    else if significand ≠ 0 ∧ negative = false then none
    else some (nearest 0 1)

/-- The whole number that a numeral without point and exponent stands for. -/
def toInt? (n : Numeral) : Option Int :=
  match n.places, n.exponent with
  | none, none =>
    let v := Text.ofDigits 10 n.whole
    if n.negative then
      if v = 0 ∨ 9223372036854775808 < v then none else some (-(v : Int))
    else if v ≤ significandLimit then some v
    else none
  | _, _ => none

/-- The value of a numeral, unless it is too large for a floating-point number. -/
def value? (n : Numeral) : Option Value :=
  match n.toInt? with
  | some i => some (.whole i)
  | none => n.magnitude?.map fun x => .floating (Binary64.ofFinite ⟨n.negative, x⟩)

end Numeral

end OrderDesk
