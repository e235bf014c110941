/-!
# UTF-8

Text as octets and octets as text.  `Utf8.decodeLossy` reads any row of octets: where the octets are
no UTF-8, the longest beginning of a character that cannot be completed becomes one replacement
character, and so does every octet that cannot begin a character.
-/

namespace OrderDesk.Utf8

/-- The octets of a character. -/
def encodeChar (c : Char) : List Nat :=
  let n := c.toNat
  if n < 0x80 then [n]
  else if n < 0x800 then [0xC0 + n / 64, 0x80 + n % 64]
  else if n < 0x10000 then [0xE0 + n / 4096, 0x80 + n / 64 % 64, 0x80 + n % 64]
  else [0xF0 + n / 262144, 0x80 + n / 4096 % 64, 0x80 + n / 64 % 64, 0x80 + n % 64]

/-- The octets of a text. -/
def encode (s : List Char) : List Nat := s.flatMap encodeChar

/-- What stands for octets that are no text. -/
def replacement : Char := Char.ofNat 0xFFFD

/-- A character that has begun: the octets that it still needs, the range of the next of them, and
its bits so far. -/
structure Open where
  needed : Nat
  low : Nat
  high : Nat
  bits : Nat

/-- The character that an octet begins: it is complete, open, or there is none. -/
inductive Begin where
  | complete (c : Char)
  | opened (o : Open)
  | invalid

/-- The character that an octet begins. -/
def begins (b : Nat) : Begin :=
  if b < 0x80 then .complete (Char.ofNat b)
  else if 0xC2 ≤ b ∧ b ≤ 0xDF then .opened ⟨1, 0x80, 0xBF, b - 0xC0⟩
  else if b = 0xE0 then .opened ⟨2, 0xA0, 0xBF, 0⟩
  else if b = 0xED then .opened ⟨2, 0x80, 0x9F, 0xD⟩
  else if 0xE1 ≤ b ∧ b ≤ 0xEF then .opened ⟨2, 0x80, 0xBF, b - 0xE0⟩
  else if b = 0xF0 then .opened ⟨3, 0x90, 0xBF, 0⟩
  else if b = 0xF4 then .opened ⟨3, 0x80, 0x8F, 4⟩
  else if 0xF1 ≤ b ∧ b ≤ 0xF3 then .opened ⟨3, 0x80, 0xBF, b - 0xF0⟩
  else .invalid

/-- Reads an octet where a character begins: what is written, and the character that is open. -/
def start (b : Nat) : List Char × Option Open :=
  match begins b with
  | .complete c => ([c], none)
  | .opened o => ([], some o)
  | .invalid => ([replacement], none)

/-- Reads an octet. -/
def step (state : Option Open) (b : Nat) : List Char × Option Open :=
  match state with
  | none => start b
  | some o =>
    if o.low ≤ b ∧ b ≤ o.high then
      let bits := o.bits * 64 + (b - 0x80)
      if o.needed = 1 then ([Char.ofNat bits], none)
      else ([], some ⟨o.needed - 1, 0x80, 0xBF, bits⟩)
    else
      let (cs, next) := start b
      (replacement :: cs, next)

/-- Reads octets from a state on. -/
def decodeFrom (state : Option Open) : List Nat → List Char
  | [] => if state.isSome then [replacement] else []
  | b :: rest =>
    let (cs, next) := step state b
    cs ++ decodeFrom next rest

/-- The text that octets stand for. -/
def decodeLossy (bytes : List Nat) : List Char := decodeFrom none bytes

/-- Do octets stand for a text, without anything to replace? -/
def isText (bytes : List Nat) : Bool := encode (decodeLossy bytes) == bytes

end OrderDesk.Utf8
