import OrderDesk.Text.Digit

/-!
# Hosts of eight pieces

A host in square brackets is an address of eight pieces of sixteen bits, given in base sixteen
between colons.  Two colons in a row stand for as many pieces of zero as are missing, at least one,
and the last two pieces may be given as four numbers of eight bits between dots.  The address is
written with two colons for its longest row of zeros, if that has two pieces or more.
-/

namespace OrderDesk.Url.Ipv6

/-! ## Reading -/

/-- A piece of one to four digits. -/
def piece? (s : List Char) : Option Nat :=
  if s.isEmpty || 4 < s.length then none else (s.mapM Text.hexValue?).map (Text.ofDigits 16)

/-- A number of eight bits, without zeros in front. -/
def octet? (s : List Char) : Option Nat := do
  let n ← Text.readNat? s
  if 255 < n || 1 < s.length && s.head? == some '0' then none else some n

/-- The two pieces that four numbers between dots stand for. -/
def octets? (s : List Char) : Option (List Nat) := do
  match ← (s.splitOn '.').mapM octet? with
  | [a, b, c, d] => some [256 * a + b, 256 * c + d]
  | _ => none

/-- The pieces between colons; only the last ones may be given as numbers between dots. -/
def row? (isLast : Bool) (s : List Char) : Option (List Nat) :=
  if s.isEmpty then some []
  else do
    let words := s.splitOn ':'
    let pieces ← words.dropLast.mapM piece?
    let word ← words.getLast?
    let last ← if isLast && word.contains '.' then octets? word else (piece? word).map ([·])
    some (pieces ++ last)

/-- The text in front of the first two colons in a row, and the text behind them. -/
def splitAtGap? : List Char → Option (List Char × List Char)
  | ':' :: ':' :: rest => some ([], rest)
  | c :: rest => (splitAtGap? rest).map fun (before, after) => (c :: before, after)
  | [] => none

/-- The eight pieces of an address. -/
def pieces? (s : List Char) : Option (List Nat) :=
  match splitAtGap? s with
  | none => do
    let pieces ← row? true s
    if pieces.length = 8 then some pieces else none
  | some (before, after) => do
    let before ← row? false before
    let after ← row? true after
    let missing := 8 - before.length - after.length
    if missing = 0 then none else some (before ++ List.replicate missing 0 ++ after)

/-! ## Writing -/

/-- The first longest row of zeros: how many pieces stand in front of it, and its length. -/
def longestGap : List Nat → Nat × Nat
  | [] => (0, 0)
  | p :: rest =>
    let here := (p :: rest).takeWhile (· == 0)
    let (skipped, length) := longestGap rest
    if length ≤ here.length then (0, here.length) else (skipped + 1, length)

/-- Pieces between colons. -/
def rowText (pieces : List Nat) : String :=
  String.intercalate ":" (pieces.map fun p => String.ofList (Nat.toDigits 16 p))

/-- The address as text. -/
def text (pieces : List Nat) : String :=
  let (skipped, length) := longestGap pieces
  if length < 2 then rowText pieces
  else rowText (pieces.take skipped) ++ "::" ++ rowText (pieces.drop (skipped + length))

end OrderDesk.Url.Ipv6
