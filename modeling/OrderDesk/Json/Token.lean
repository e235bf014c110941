import OrderDesk.Json.Basic

/-!
# The tokens of a JSON text

A JSON text is a row of tokens with blanks between them: brackets, braces, commas, colons, the three
words, numbers and strings.  `Token.scan?` cuts a text into its tokens or finds that it has none.
Only four characters count as blank here.  A raw control character in a string is refused, and so
is an escape that JSON does not know; half a surrogate pair is a string without a text.
-/

namespace OrderDesk.Json

/-- A token of a JSON text. -/
inductive Token where
  | beginArray
  | endArray
  | beginObject
  | endObject
  | comma
  | colon
  | null
  | bool (b : Bool)
  | number (n : Numeral)
  | string (s : Json.StringValue)

namespace Token

/-- The blanks between tokens. -/
def isBlankChar (c : Char) : Bool := c == ' ' || c == '\t' || c == '\n' || c == '\r'

/-! ## Strings -/

/-- A piece of a string: a character, or half of a surrogate pair. -/
inductive Piece where
  | char (c : Char)
  | high (n : Nat)
  | low (n : Nat)

/-- The piece that an escaped code unit of sixteen bits stands for. -/
def Piece.ofUnit (n : Nat) : Piece :=
  if 0xD800 ≤ n ∧ n < 0xDC00 then .high n
  else if 0xDC00 ≤ n ∧ n < 0xE000 then .low n
  else .char (Char.ofNat n)

/-- Joins the halves of surrogate pairs that stand next to each other. -/
def joinPieces : List Piece → Option (List Char)
  | [] => some []
  | .char c :: rest => (joinPieces rest).map (c :: ·)
  | .high h :: .low l :: rest =>
    (joinPieces rest).map (Char.ofNat (0x10000 + (h - 0xD800) * 0x400 + (l - 0xDC00)) :: ·)
  | .high _ :: _ => none
  | .low _ :: _ => none

/-- The value of four hexadecimal digits. -/
def unit? (a b c d : Char) : Option Nat := do
  let a ← Text.hexValue? a
  let b ← Text.hexValue? b
  let c ← Text.hexValue? c
  let d ← Text.hexValue? d
  some (Text.ofDigits 16 [a, b, c, d])

/-- The character that stands for itself or for a control character behind a backslash. -/
def shortEscape? (c : Char) : Option Char :=
  if c = '"' ∨ c = '\\' ∨ c = '/' then some c
  else if c = 'b' then some (Char.ofNat 8)
  else if c = 'f' then some (Char.ofNat 12)
  else if c = 'n' then some '\n'
  else if c = 'r' then some '\r'
  else if c = 't' then some '\t'
  else none

/-- The pieces of a string behind its opening quote, last piece first in `done`, and the text after
the closing quote. -/
def pieces? (done : List Piece) : List Char → Option (List Piece × List Char)
  | [] => none
  | '"' :: rest => some (done.reverse, rest)
  | '\\' :: 'u' :: a :: b :: c :: d :: rest =>
    match unit? a b c d with
    | some n => pieces? (.ofUnit n :: done) rest
    | none => none
  | '\\' :: c :: rest =>
    match shortEscape? c with
    | some c => pieces? (.char c :: done) rest
    | none => none
  | c :: rest => if c.toNat < 0x20 ∨ c = '\\' then none else pieces? (.char c :: done) rest

/-- A string behind its opening quote, and the text after it. -/
def string? (s : List Char) : Option (Token × List Char) :=
  (pieces? [] s).map fun (ps, rest) => (.string ((joinPieces ps).map String.ofList), rest)

/-! ## Numbers -/

/-- Digits behind the sign of an exponent. -/
def exponentDigits? (negative : Bool) (s : List Char) :
    Option (Option (Bool × List Nat) × List Char) :=
  match Text.spanDigits s with
  | ([], _) => none
  | (ds, rest) => some (some (negative, ds), rest)

/-- An exponent, if there is one. -/
def exponent? : List Char → Option (Option (Bool × List Nat) × List Char)
  | [] => some (none, [])
  | c :: rest =>
    if c = 'e' ∨ c = 'E' then
      match rest with
      | '-' :: rest => exponentDigits? true rest
      | '+' :: rest => exponentDigits? false rest
      | rest => exponentDigits? false rest
    else some (none, c :: rest)

/-- A point and the digits behind it, if there are any. -/
def places? : List Char → Option (Option (List Nat) × List Char)
  | '.' :: rest =>
    match Text.spanDigits rest with
    | ([], _) => none
    | (ds, rest) => some (some ds, rest)
  | s => some (none, s)

/-- The digits in front of the point: a lone zero, or digits that do not start with zero. -/
def whole? (s : List Char) : Option (List Nat × List Char) :=
  match s with
  | '0' :: rest => some ([0], rest)
  | _ =>
    match Text.spanDigits s with
    | ([], _) => none
    | (ds, rest) => some (ds, rest)

/-- A number behind its sign, and the text after it. -/
def number? (negative : Bool) (s : List Char) : Option (Token × List Char) := do
  let (whole, rest) ← whole? s
  let (places, rest) ← places? rest
  let (exponent, rest) ← exponent? rest
  some (.number ⟨negative, whole, places, exponent⟩, rest)

/-! ## The row of tokens -/

/-- The first token of a text that does not start with a blank, and the text after it. -/
def next? : List Char → Option (Token × List Char)
  | [] => none
  | '[' :: rest => some (.beginArray, rest)
  | ']' :: rest => some (.endArray, rest)
  | '\x7b' :: rest => some (.beginObject, rest)
  | '\x7d' :: rest => some (.endObject, rest)
  | ',' :: rest => some (.comma, rest)
  | ':' :: rest => some (.colon, rest)
  | '"' :: rest => string? rest
  | '-' :: rest => number? true rest
  | 'n' :: 'u' :: 'l' :: 'l' :: rest => some (.null, rest)
  | 't' :: 'r' :: 'u' :: 'e' :: rest => some (.bool true, rest)
  | 'f' :: 'a' :: 'l' :: 's' :: 'e' :: rest => some (.bool false, rest)
  | s => number? false s

/-- Cuts a text into tokens, `fuel` of them at most, with the tokens found so far in `done`. -/
def scanFrom? : (fuel : Nat) → (done : List Token) → List Char → Option (List Token)
  | 0, done, s => if (s.dropWhile isBlankChar).isEmpty then some done.reverse else none
  | fuel + 1, done, s =>
    match s.dropWhile isBlankChar with
    | [] => some done.reverse
    | c :: rest =>
      match next? (c :: rest) with
      | some (t, rest) => scanFrom? fuel (t :: done) rest
      | none => none

/-- The tokens of a text.  Each of them has a character at least, so the length of the text bounds
their number. -/
def scan? (s : List Char) : Option (List Token) := scanFrom? s.length [] s

end Token

end OrderDesk.Json
