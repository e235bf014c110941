import OrderDesk.Number.Binary64

/-!
# The shortest decimal text of a floating-point number

Every decimal in the interval of real numbers that round to a floating-point number reads back as
that number.  `Shortest.decimal` finds the one with the fewest digits in the interval, and of two
with equally few digits the one nearer to the exact value; a `Tie` says which one is taken when both
are equally near.  The search compares whole numbers only:
a grid of decimals with `n` digits has a point in the interval if and only if one of the two grid
points next to the value lies in it, so these two are tested for `n = 1, 2, …, 17`.

`Shortest.text` writes the digits in positional notation, never with an exponent, and takes the
upper decimal on a tie.
-/

namespace OrderDesk.Shortest

/-- An interval of real numbers around a value, all over one denominator. -/
structure Interval where
  lower : Nat
  value : Nat
  upper : Nat
  denominator : Nat
  /-- Do the two ends belong to it? -/
  closed : Bool

/-- The real numbers that round to `mantissa · 2 ^ exponent`.  Its neighbour below is only half as
far away when the mantissa is the least one of its exponent. -/
def Interval.around (mantissa : Nat) (exponent : Int) : Interval :=
  let below := if mantissa = Nat.pow 2 52 ∧ -1074 < exponent then 1 else 2
  let factor := Nat.pow 2 (exponent - 2).toNat
  { lower := (4 * mantissa - below) * factor
    value := 4 * mantissa * factor
    upper := (4 * mantissa + 2) * factor
    denominator := Nat.pow 2 (2 - exponent).toNat
    closed := mantissa % 2 == 0 }

/-- Does the decimal `c · 10 ^ k` lie in the interval? -/
def Interval.holds (i : Interval) (c : Nat) (k : Int) : Bool :=
  let point := c * Nat.pow 10 k.toNat * i.denominator
  let scale := Nat.pow 10 (-k).toNat
  if i.closed then i.lower * scale ≤ point && point ≤ i.upper * scale
  else i.lower * scale < point && point < i.upper * scale

/-- The number of decimal digits of a whole number. -/
def digitCount (n : Nat) : Nat := (Nat.toDigits 10 n).length

/-- The power of ten of the first digit of the value. -/
def Interval.magnitude (i : Interval) : Int :=
  if i.denominator ≤ i.value then (digitCount (i.value / i.denominator) : Int) - 1
  else -(digitCount ((i.denominator - 1) / i.value) : Int)

/-- The multiple of `10 ^ k` in the interval that is nearest to the value, if there is one. -/
def Interval.onGrid (i : Interval) (tie : Number.Tie) (k : Int) : Option Nat :=
  let num := i.value * Nat.pow 10 (-k).toNat
  let den := i.denominator * Nat.pow 10 k.toNat
  let below := num / den
  match i.holds below k, i.holds (below + 1) k with
  | true, true =>
    let r := num % den
    if 2 * r < den then some below
    else if den < 2 * r then some (below + 1)
    else some (if tie = .toEven ∧ below % 2 = 0 then below else below + 1)
  | true, false => some below
  | false, true => some (below + 1)
  | false, false => none

/-- The first hit on grids that get finer, `fuel` of them at most. -/
def Interval.search (i : Interval) (tie : Number.Tie) : (fuel : Nat) → (k : Int) → Nat × Int
  | 0, k => (i.value * Nat.pow 10 (-k).toNat / (i.denominator * Nat.pow 10 k.toNat), k)
  | fuel + 1, k =>
    match i.onGrid tie k with
    | some c => (c, k)
    | none => i.search tie fuel (k - 1)

/-- The decimal `c · 10 ^ k` with the fewest digits that reads back as `mantissa · 2 ^ exponent`. -/
def decimal (tie : Number.Tie) (mantissa : Nat) (exponent : Int) : Nat × Int :=
  if mantissa = 0 then (0, 0)
  else
    let i := Interval.around mantissa exponent
    i.search tie 17 i.magnitude

/-- The digits of `c · 10 ^ k` in positional notation. -/
def positional (c : Nat) (k : Int) : List Char :=
  let digits := Nat.toDigits 10 c
  if 0 ≤ k then if c = 0 then ['0'] else digits ++ List.replicate k.toNat '0'
  else
    let places := (-k).toNat
    let padded := List.replicate (places + 1 - digits.length) '0' ++ digits
    let fraction := (padded.drop (padded.length - places)).reverse.dropWhile (· == '0')
    padded.take (padded.length - places) ++
      (if fraction.isEmpty then [] else '.' :: fraction.reverse)

/-- The shortest positional text that reads back as the number. -/
def chars (f : Float) : List Char :=
  match Binary64.decode f with
  | .notANumber => "NaN".toList
  | .infinite negative => if negative then "-inf".toList else "inf".toList
  | .finite ⟨negative, mantissa, exponent⟩ =>
    let (c, k) := decimal .up mantissa exponent
    (if negative then ['-'] else []) ++ positional c k

/-- The shortest positional text that reads back as the number. -/
def text (f : Float) : String := String.ofList (chars f)

end OrderDesk.Shortest
