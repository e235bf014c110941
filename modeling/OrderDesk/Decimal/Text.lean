import OrderDesk.Decimal.Arithmetic
import OrderDesk.Text.Digit

/-!
# Reading decimals

A decimal is written as an optional sign, digits with at most one point among them, and no blanks;
an underscore may follow a digit.  Places that do not fit are rounded by the first digit that is
left out, a five upwards.  A whole part that does not fit is refused.

A text that is no such decimal may still be one with an exponent of ten behind `e` or `E`, from -28
to 28.
-/

namespace OrderDesk.Decimal

/-- What has been read: the digits so far, and where the point stands. -/
structure Reading where
  magnitude : Nat
  scale : Nat
  /-- Was there a point? -/
  pointed : Bool
  /-- Was there a digit? -/
  started : Bool

/-- Rounds by the first digit of the places that are left out.  A carry out of the magnitude costs
one place. -/
def roundBy? (negative : Bool) (m scale : Nat) (places : List Char) : Option Decimal := do
  let digits ← (places.filter (· ≠ '_')).mapM Text.value?
  let rounded := if 5 ≤ digits.headD 0 then m + 1 else m
  if rounded < magnitudeLimit then ofParts? negative rounded scale
  else if scale = 0 then none
  else ofParts? negative ((rounded + 4) / 10) (scale - 1)

/-- Reads the rest of a number behind its sign. -/
def readFrom? (negative : Bool) (r : Reading) : List Char → Option Decimal
  | [] => if r.started then ofParts? negative r.magnitude r.scale else none
  | c :: rest =>
    if 28 ≤ r.scale then roundBy? negative r.magnitude r.scale (c :: rest)
    else
      match Text.value? c with
      | some d =>
        let m := 10 * r.magnitude + d
        if m < magnitudeLimit then
          readFrom? negative ⟨m, if r.pointed then r.scale + 1 else r.scale, r.pointed, true⟩ rest
        else if r.pointed then roundBy? negative r.magnitude r.scale (c :: rest)
        else none
      | none =>
        if c = '.' ∧ r.pointed = false then readFrom? negative { r with pointed := true } rest
        else if c = '_' ∧ r.started then readFrom? negative r rest
        else none

/-- A number in positional notation. -/
def ofPlain? (s : List Char) : Option Decimal :=
  let start : Reading := ⟨0, 0, false, false⟩
  match s with
  | '-' :: rest => readFrom? true start rest
  | '+' :: rest => readFrom? false start rest
  | _ => readFrom? false start s

/-- The largest number that an exponent may be. -/
def exponentLimit : Nat := 28

/-- A number with an exponent of ten. -/
def ofScientific? (s : List Char) : Option Decimal := do
  let isMark := fun c => c == 'e' || c == 'E'
  let base ← ofPlain? (s.takeWhile (fun c => !isMark c))
  match s.dropWhile (fun c => !isMark c) with
  | [] => none
  | _ :: exponent =>
    match exponent with
    | '-' :: digits => do
      let e ← Text.readNatSigned? digits
      if e ≤ exponentLimit then some (base.shiftRight e) else none
    | digits => do
      let e ← Text.readNatSigned? digits
      if e ≤ exponentLimit then base.shiftLeft? e else none

/-- The decimal that a text stands for. -/
def ofChars? (s : List Char) : Option Decimal := (ofPlain? s).orElse fun _ => ofScientific? s

/-- The decimal that a text stands for. -/
def ofText? (s : String) : Option Decimal := ofChars? s.toList

end OrderDesk.Decimal
