import OrderDesk.Decimal.Text
import OrderDesk.Number.Shortest

/-!
# Decimals as floating-point numbers

Amounts travel as floating-point numbers.  `toFloat` splits a decimal at the point, adds the
fraction as a quotient, and rounds the sum to as many places as the decimal has, each step rounded
to a floating-point number (`binary`); `ofFloat?` reads the shortest text of a floating-point
number.
-/

namespace OrderDesk.Decimal

open Binary64

/-- The power of ten by repeated squaring, each product rounded to a floating-point number. -/
def powerOfTen (n : Nat) : Magnitude :=
  let rec go : (fuel n : Nat) → (result square : Magnitude) → Magnitude
    | 0, _, result, _ => result
    | fuel + 1, n, result, square =>
      let result := if n % 2 = 1 then result.times square else result
      if n / 2 = 0 then result else go fuel (n / 2) result (square.times square)
  go 64 n (nearest 1 1) (nearest 10 1)

/-- The magnitude of the floating-point number that an amount travels as. -/
def binary (d : Decimal) : Magnitude :=
  let m := d.magnitude
  if d.scale = 0 then nearest m 1
  else
    let p := Nat.pow 10 d.scale
    let whole := nearest (m / p) 1
    let fraction := (nearest (m % p) 1).dividedBy (nearest p 1)
    if m % p = 0 then whole
    else
      let q := powerOfTen d.scale
      ((whole.plus fraction).times q).rounded.dividedBy q

/-- The floating-point number that an amount travels as. -/
def toFloat (d : Decimal) : Float := ofFinite ⟨d.negative, d.binary⟩

/-- The decimal with the digits of the shortest text of a floating-point number. -/
def ofFloat? (f : Float) : Option Decimal :=
  if isFinite f then ofPlain? (Shortest.chars f) else none

end OrderDesk.Decimal
