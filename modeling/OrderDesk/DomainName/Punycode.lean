/-!
# Text as letters, digits and hyphens

A label of a domain name may hold any character, but it travels as ASCII.  `Punycode.encode` writes
the ASCII characters of a text first, behind a hyphen the places of all others, in the order of
their code points: each place is the distance from the place before, counted through all places and
all code points in between.  A distance is a number with digits of varying weight, the least one
first; digits below a threshold end it, and the threshold follows the size of the last distance.
`Punycode.decode?` reads the text back.

Main statement: each digit is the value of its own character (`digitValue?_digit`).
-/

namespace OrderDesk.Punycode

/-! ## Digits and thresholds -/

/-- The character of a digit: letters first, then numerals. -/
def digit (n : Nat) : Char := if n < 26 then Char.ofNat (97 + n) else Char.ofNat (22 + n)

/-- The value of a digit. -/
def digitValue? (c : Char) : Option Nat :=
  if 'a' ≤ c ∧ c ≤ 'z' then some (c.toNat - 97)
  else if '0' ≤ c ∧ c ≤ '9' then some (c.toNat - 22)
  else none

/-- A digit is the value of its own character. -/
theorem digitValue?_digit {n : Nat} (h : n < 36) : digitValue? (digit n) = some n := by
  revert n
  decide

/-- The threshold of the digit at a place; `place` counts by 36. -/
def threshold (bias place : Nat) : Nat := min 26 (max 1 (place - bias))

/-- Divides by 35 until the number is at most 455; the result counts the divisions by 36. -/
def scaleDown (n count : Nat) : Nat × Nat :=
  if 455 < n then scaleDown (n / 35) (count + 36) else (n, count)
termination_by n
decreasing_by exact Nat.div_lt_self (by omega) (by decide)

/-- The bias after a distance to the place of one of `length` characters. -/
def adapt (distance length : Nat) (isFirst : Bool) : Nat :=
  let n := if isFirst then distance / 700 else distance / 2
  let (n, count) := scaleDown (n + n / length) 0
  count + 36 * n / (n + 38)

/-! ## Writing -/

/-- The digits of a distance. -/
def distance (bias : Nat) : (fuel n place : Nat) → List Char
  | 0, _, _ => []
  | fuel + 1, n, place =>
    let t := threshold bias place
    if n < t then [digit n]
    else digit (t + (n - t) % (36 - t)) :: distance bias fuel ((n - t) / (36 - t)) (place + 36)

/-- What has been written: the digits, the distance so far, the bias, and how many characters have
been dealt with. -/
structure Encoding where
  written : List Char
  distance : Nat
  bias : Nat
  length : Nat

/-- Passes a character on the way to the next place of the code point `code`. -/
def Encoding.pass (isFirst : Nat → Bool) (code : Nat) (s : Encoding) (c : Char) : Encoding :=
  if c.toNat < code then { s with distance := s.distance + 1 }
  else if c.toNat = code then
    { written := s.written ++ Punycode.distance s.bias (s.distance + 1) s.distance 36
      distance := 0
      bias := adapt s.distance (s.length + 1) (isFirst s.length)
      length := s.length + 1 }
  else s

/-- Writes the places of code points in rising order; `next` is the one that the distance counts
from. -/
def Encoding.places (text : List Char) (isFirst : Nat → Bool) :
    (next : Nat) → Encoding → List Nat → Encoding
  | _, s, [] => s
  | next, s, code :: codes =>
    let s := { s with distance := s.distance + (code - next) * (s.length + 1) }
    let s := text.foldl (Encoding.pass isFirst code) s
    Encoding.places text isFirst (code + 1) { s with distance := s.distance + 1 } codes

/-- Is a character one of the ASCII characters? -/
def isAscii (c : Char) : Bool := c.toNat < 0x80

/-- A text as letters, digits and hyphens. -/
def encode (s : List Char) : List Char :=
  let ascii := s.filter isAscii
  let codes := (((s.filter (!isAscii ·)).map Char.toNat).mergeSort (· ≤ ·)).eraseDups
  let start : Encoding := ⟨[], 0, 72, ascii.length⟩
  ascii ++ (if ascii.isEmpty then [] else ['-']) ++
    (Encoding.places s (· == ascii.length) 0x80 start codes).written

/-! ## Reading -/

/-- The largest number that distances and weights may reach. -/
def limit : Nat := 4294967295

/-- What has been read: the text so far, the code point and the place of the last character, and the
bias; of the distance that is being read, the place where it started, the weight of the next digit
and the place of that digit. -/
structure Decoding where
  text : List Char
  code : Nat
  position : Nat
  bias : Nat
  start : Nat
  weight : Nat
  place : Nat

/-- The character with a code point, if there is one. -/
def char? (code : Nat) : Option Char :=
  if code < 0xD800 ∨ 0xDFFF < code ∧ code < 0x110000 then some (Char.ofNat code) else none

/-- Puts in the character whose distance is complete. -/
def Decoding.insert? (s : Decoding) : Option Decoding := do
  let length := s.text.length + 1
  let code := s.code + s.position / length
  let position := s.position % length
  let c ← char? code
  some
    { text := s.text.take position ++ c :: s.text.drop position
      code
      position := position + 1
      bias := adapt (s.position - s.start) length (s.start == 0)
      start := position + 1
      weight := 1
      place := 36 }

/-- Reads a digit. -/
def Decoding.read? (s : Decoding) (c : Char) : Option Decoding := do
  let n ← digitValue? c
  let t := threshold s.bias s.place
  let position := s.position + n * s.weight
  if limit < position then none
  else if n < t then Decoding.insert? { s with position }
  else if limit < s.weight * (36 - t) then none
  else some { s with position, weight := s.weight * (36 - t), place := s.place + 36 }

/-- The text that letters, digits and hyphens stand for. -/
def decode? (s : List Char) : Option (List Char) := do
  let back := s.reverse
  let digits := (back.takeWhile (· ≠ '-')).reverse
  let ascii := (back.dropWhile (· ≠ '-')).drop 1 |>.reverse
  if ascii.isEmpty && s.contains '-' || !ascii.all isAscii then none
  else
    let last ← digits.foldlM Decoding.read? ⟨ascii, 0x80, 0, 72, 0, 1, 36⟩
    if last.weight = 1 then some last.text else none

end OrderDesk.Punycode
