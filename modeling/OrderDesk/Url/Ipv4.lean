import OrderDesk.Text.Digit

/-!
# Hosts of four numbers

A host that ends in a number is an address of 32 bits.  It is given as one to four numbers between
dots, each in base ten, or in base eight or sixteen behind a zero or `0x`; the last one fills up
what the others leave.  It is written as four numbers of eight bits.
-/

namespace OrderDesk.Url.Ipv4

/-- A number in base ten, or in base eight or sixteen behind a zero or `0x`. -/
def number? (s : List Char) : Option Nat :=
  let inBase (base : Nat) (digits : List Char) : Option Nat :=
    (digits.mapM fun c => (Text.hexValue? c).bind fun d => if d < base then some d else none).map
      (Text.ofDigits base)
  match s with
  | [] => none
  | '0' :: 'x' :: digits => inBase 16 digits
  | '0' :: digits => inBase 8 digits
  | digits => inBase 10 digits

/-- The parts of a host, without an empty one at the end. -/
def parts (s : List Char) : List (List Char) :=
  match (s.splitOn '.').reverse with
  | [] :: part :: rest => (part :: rest).reverse
  | parts => parts.reverse

/-- Does a host end in a number? -/
def endsInNumber (s : List Char) : Bool :=
  match (parts s).getLast? with
  | some part =>
    !part.isEmpty && (part.all (fun c => (Text.value? c).isSome) || (number? part).isSome)
  | none => false

/-- The value of a host of one to four numbers. -/
def value? (s : List Char) : Option Nat := do
  let numbers ← (parts s).mapM number?
  let count := numbers.length
  let last ← numbers.getLast?
  if 4 < count then none
  else if numbers.dropLast.any (255 < ·) then none
  else if Nat.pow 256 (5 - count) ≤ last then none
  else some (Text.ofDigits 256 numbers.dropLast * Nat.pow 256 (5 - count) + last)

/-- Four numbers between dots. -/
def text (value : Nat) : String :=
  String.intercalate "." ((Text.toDigits 256 4 value).map toString)

end OrderDesk.Url.Ipv4
