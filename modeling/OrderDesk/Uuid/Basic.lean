import OrderDesk.Text.Digit

/-!
# Identifiers

Users, orders and products are addressed by identifiers of 128 bits.  An identifier is written as
32 hexadecimal digits in lower case, in groups of 8, 4, 4, 4 and 12 joined by hyphens (`Uuid.text`).
`Uuid.parse?` reads exactly this form with letters of either case, and nothing before or after it.
-/

namespace OrderDesk

/-- An identifier of 128 bits. -/
structure Uuid where
  bits : BitVec 128
deriving DecidableEq

namespace Uuid

/-- The identifier whose bits are all zero. -/
def nil : Uuid := ⟨BitVec.zero 128⟩

instance : Inhabited Uuid := ⟨nil⟩

/-- The identifier with the low 128 bits of a number. -/
def ofNat (n : Nat) : Uuid := ⟨BitVec.ofNat 128 n⟩

/-- The bits as a number. -/
def val (u : Uuid) : Nat := u.bits.toNat

/-- The identifier that random bits make: the fields for the version and the variant say that the
rest is random. -/
def ofRandom (n : Nat) : Uuid :=
  ⟨(BitVec.ofNat 128 n &&& 0xFFFFFFFFFFFF0FFF3FFFFFFFFFFFFFFF) |||
    0x00000000000040008000000000000000⟩

@[simp] theorem ofNat_val (u : Uuid) : ofNat u.val = u := by
  obtain ⟨bits⟩ := u
  simp only [ofNat, val, BitVec.ofNat_toNat, BitVec.setWidth_eq]

/-! ## The hyphenated form -/

/-- The sizes of the groups of digits in the hyphenated form. -/
def groups : List Nat := [8, 4, 4, 4, 12]

/-- Digits in groups of the given sizes, joined by hyphens. -/
def hyphenate : List Nat → List Char → List Char
  | [], _ => []
  | [n], ds => ds.take n
  | n :: ns, ds => ds.take n ++ '-' :: hyphenate ns (ds.drop n)

/-- The 32 digits of an identifier. -/
def digits (u : Uuid) : List Char := (Text.toDigits 16 32 u.val).map Text.digit

/-- The hyphenated form, in lower case. -/
def text (u : Uuid) : String := String.ofList (hyphenate groups u.digits)

/-- The values of exactly `n` hexadecimal digits, and the text after them. -/
def takeHex : Nat → List Char → Option (List Nat × List Char)
  | 0, s => some ([], s)
  | _ + 1, [] => none
  | n + 1, c :: s => do
    let d ← Text.hexValue? c
    let (ds, rest) ← takeHex n s
    some (d :: ds, rest)

/-- The values of groups of hexadecimal digits joined by hyphens, and the text after them. -/
def takeGroups : List Nat → List Char → Option (List Nat × List Char)
  | [], s => some ([], s)
  | [n], s => takeHex n s
  | n :: ns, s => do
    let (ds, rest) ← takeHex n s
    match rest with
    | '-' :: rest => do
      let (es, rest) ← takeGroups ns rest
      some (ds ++ es, rest)
    | _ => none

/-- The identifier that a text is the hyphenated form of, in either case. -/
def ofChars? (s : List Char) : Option Uuid :=
  match takeGroups groups s with
  | some (ds, []) => some (ofNat (Text.ofDigits 16 ds))
  | _ => none

/-- The identifier that a text is the hyphenated form of, in either case. -/
def parse? (s : String) : Option Uuid := ofChars? s.toList

/-- The 32 digits without hyphens. -/
def ofSimple? (s : List Char) : Option Uuid :=
  match takeHex 32 s with
  | some (ds, []) => some (ofNat (Text.ofDigits 16 ds))
  | _ => none

end Uuid

end OrderDesk
