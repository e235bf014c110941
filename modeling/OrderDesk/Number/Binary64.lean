import OrderDesk.Number.Rounding

/-!
# Floating-point numbers of 64 bits

Prices leave the service as binary floating-point numbers.  A number that is not negative is a whole
mantissa times a power of two (`Magnitude`).  Every operation takes the exact quotient of whole
numbers that it stands for and goes to the floating-point number `nearest` to it, ties to even, so
nothing here rests on floating-point instructions; `ofFinite` and `decode` lead from numbers to
their 64 bits and back.

A magnitude is not rounded off at the upper end of the range.  One that is too large becomes
infinity when it is put into bits.
-/

namespace OrderDesk.Binary64

/-- The bits of positive infinity. -/
def infinityBits : Nat := 2047 * Nat.pow 2 52

/-- The least exponent. -/
def leastExponent : Int := -1074

/-- The number `mantissa · 2 ^ exponent`. -/
structure Magnitude where
  mantissa : Nat
  exponent : Int
deriving DecidableEq

/-! ## Rounding -/

/-- The exponent of the floating-point numbers around `num / den`: the mantissa has 53 bits then,
unless that takes an exponent below the least one. -/
def exponentOf (num den : Nat) : Int :=
  let k : Int := (num.log2 : Int) - den.log2
  max leastExponent
    (if num * Nat.pow 2 (-k).toNat < den * Nat.pow 2 k.toNat then k - 53 else k - 52)

/-- The floating-point number nearest to `num / den`, ties to even.  The mantissa may round up to
the next power of two. -/
def nearest (num den : Nat) : Magnitude :=
  if num = 0 then ⟨0, leastExponent⟩
  else
    let e := exponentOf num den
    ⟨Number.roundHalfEven (num * Nat.pow 2 (-e).toNat) (den * Nat.pow 2 e.toNat), e⟩

namespace Magnitude

/-- The numerator of a magnitude as a quotient of whole numbers. -/
def num (x : Magnitude) : Nat := x.mantissa * Nat.pow 2 x.exponent.toNat

/-- The denominator of a magnitude as a quotient of whole numbers. -/
def den (x : Magnitude) : Nat := Nat.pow 2 (-x.exponent).toNat

/-! ## Arithmetic -/

/-- The rounded sum. -/
def plus (x y : Magnitude) : Magnitude := nearest (x.num * y.den + y.num * x.den) (x.den * y.den)

/-- The rounded product. -/
def times (x y : Magnitude) : Magnitude := nearest (x.num * y.num) (x.den * y.den)

/-- The rounded quotient. -/
def dividedBy (x y : Magnitude) : Magnitude := nearest (x.num * y.den) (x.den * y.num)

/-- The nearest whole number, the upper one when two are equally near. -/
def rounded (x : Magnitude) : Magnitude := nearest (Number.roundHalfUp x.num x.den) 1

/-! ## Bits -/

/-- The bits of a magnitude that `nearest` leads to.  A mantissa that has been rounded up to the
next power of two carries into the exponent, which is the right number again. -/
def bits (x : Magnitude) : Nat :=
  min infinityBits ((x.exponent - leastExponent).toNat * Nat.pow 2 52 + x.mantissa)

/-- Is it not too large? -/
def isFinite (x : Magnitude) : Bool := decide (x.bits < infinityBits)

end Magnitude

/-- A finite number: its sign, and `mantissa · 2 ^ exponent`. -/
structure Finite where
  negative : Bool
  magnitude : Magnitude
deriving DecidableEq

/-- The floating-point number with a sign and a magnitude that `nearest` leads to. -/
def ofFinite (x : Finite) : Float :=
  Float.ofBits (UInt64.ofNat ((if x.negative then Nat.pow 2 63 else 0) + x.magnitude.bits))

/-- The number nearest to a whole number, ties to even. -/
def ofInt (n : Int) : Float := ofFinite ⟨decide (n < 0), nearest n.natAbs 1⟩

/-! ## What bits stand for -/

/-- What a floating-point number stands for. -/
inductive Meaning where
  | notANumber
  | infinite (negative : Bool)
  | finite (value : Finite)
deriving DecidableEq

/-- The meaning of 64 bits: a sign, eleven bits of exponent, and 52 bits of fraction behind a
leading one that is not written unless the exponent is the least. -/
def decodeBits (bits : Nat) : Meaning :=
  let negative := bits / Nat.pow 2 63 % 2 == 1
  let exponent : Nat := bits / Nat.pow 2 52 % 2048
  let fraction : Nat := bits % Nat.pow 2 52
  if exponent = 2047 then
    if fraction = 0 then .infinite negative else .notANumber
  else if exponent = 0 then .finite ⟨negative, fraction, leastExponent⟩
  else .finite ⟨negative, fraction + Nat.pow 2 52, exponent - 1 + leastExponent⟩

/-- The meaning of a floating-point number. -/
def decode (f : Float) : Meaning := decodeBits f.toBits.toNat

/-- Is it neither infinite nor undefined? -/
def isFinite (f : Float) : Bool :=
  match decode f with
  | .finite _ => true
  | _ => false

end OrderDesk.Binary64
