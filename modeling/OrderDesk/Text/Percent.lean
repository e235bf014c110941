import OrderDesk.Text.Digit
import OrderDesk.Text.Utf8

/-!
# Percent escapes

In an address an octet may be written as a percent sign and two hexadecimal digits.  Reading
replaces escapes by their octets and leaves a percent sign alone that no two digits follow; the
octets are then read as UTF-8, with replacement characters where they are none.
-/

namespace OrderDesk.Percent

/-- The octets of a text, with the escapes that `chosen` picks replaced. -/
def unescape (chosen : Nat → Bool) : List Nat → List Nat
  | 0x25 :: a :: b :: rest =>
    match Text.hexValue? (Char.ofNat a), Text.hexValue? (Char.ofNat b) with
    | some x, some y =>
      if chosen (16 * x + y) then (16 * x + y) :: unescape chosen rest
      else 0x25 :: unescape chosen (a :: b :: rest)
    | _, _ => 0x25 :: unescape chosen (a :: b :: rest)
  | c :: rest => c :: unescape chosen rest
  | [] => []
termination_by s => s.length

/-- The octets of a text with all escapes replaced. -/
def octets (s : List Char) : List Nat := unescape (fun _ => true) (Utf8.encode s)

/-- The text with all escapes replaced. -/
def decode (s : List Char) : List Char := Utf8.decodeLossy (octets s)

/-- The text with all escapes replaced but those of octets that are `kept`. -/
def decodeExcept (kept : List Nat) (s : List Char) : List Char :=
  Utf8.decodeLossy (unescape (fun b => !kept.contains b) (Utf8.encode s))

/-- Escapes an octet, with digits in upper case. -/
def escapeOctet (b : Nat) : List Char :=
  '%' :: (Text.toDigits 16 2 b).map fun d => (Text.digit d).toUpper

/-- Escapes control characters, characters beyond ASCII, and those that are `special`. -/
def encode (special : Char → Bool) (s : List Char) : List Char :=
  s.flatMap fun c =>
    if c.toNat < 0x20 ∨ 0x7F ≤ c.toNat ∨ special c then (Utf8.encodeChar c).flatMap escapeOctet
    else [c]

end OrderDesk.Percent
