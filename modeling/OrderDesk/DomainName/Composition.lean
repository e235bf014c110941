import OrderDesk.DomainName.Classes
import OrderDesk.DomainName.Pairs

/-!
# Composed text

The same letter with its marks may be written in several ways.  `compose` picks one of them: all
characters are taken apart, the marks behind a letter are put in the order of their classes, and
then whatever can be one character is made one again.  A mark joins a letter unless another mark of
its class, or of a higher one, stands between them.
-/

namespace OrderDesk.DomainName

/-! ## Syllables of Hangul

A syllable is a leading consonant, a vowel, and possibly a trailing consonant; each combination has
a character, in regular order. -/

namespace Hangul

/-- The first syllable, and the code points in front of which the three kinds of letters begin. -/
def syllables : Nat := 0xAC00

/-- The first leading consonant. -/
def leading : Nat := 0x1100

/-- The first vowel. -/
def vowels : Nat := 0x1161

/-- The code point in front of the first trailing consonant. -/
def trailing : Nat := 0x11A7

/-- The letters of a syllable. -/
def letters? (c : Char) : Option (List Char) :=
  let n := c.toNat - syllables
  if syllables ≤ c.toNat ∧ n < 11172 then
    let ending := if n % 28 = 0 then [] else [Char.ofNat (trailing + n % 28)]
    some (Char.ofNat (leading + n / 588) :: Char.ofNat (vowels + n % 588 / 28) :: ending)
  else none

/-- The syllable of a consonant and a vowel, or of a syllable and a trailing consonant. -/
def pair? (a b : Char) : Option Char :=
  let l := a.toNat - leading
  let v := b.toNat - vowels
  let s := a.toNat - syllables
  let t := b.toNat - trailing
  if leading ≤ a.toNat ∧ l < 19 ∧ vowels ≤ b.toNat ∧ v < 21 then
    some (Char.ofNat (syllables + (l * 21 + v) * 28))
  else if syllables ≤ a.toNat ∧ s < 11172 ∧ s % 28 = 0 ∧ trailing < b.toNat ∧ t < 28 then
    some (Char.ofNat (a.toNat + t))
  else none

end Hangul

/-! ## Taking apart and putting in order -/

/-- The parts of a character; a whole has at most `fuel` marks on one letter. -/
def partsOf : (fuel : Nat) → Char → List Char
  | 0, c => [c]
  | fuel + 1, c =>
    match composites.find? (·.whole == c) with
    | some p => partsOf fuel p.first ++ [p.second]
    | none => (Hangul.letters? c).getD [c]

/-- The parts of the characters of a text. -/
def decompose (s : List Char) : List Char :=
  s.flatMap fun c => if c.toNat < 0x80 then [c] else partsOf 4 c

/-- Puts a mark behind the text so far, last character first, in front of marks of a higher
class. -/
def insertMark (c : Char) : List Char → List Char
  | [] => [c]
  | d :: back =>
    if combiningClass c ≠ 0 ∧ combiningClass c < combiningClass d then d :: insertMark c back
    else c :: d :: back

/-- The text with the marks behind each letter in the order of their classes. -/
def orderMarks (s : List Char) : List Char :=
  (s.foldl (fun back c => insertMark c back) []).reverse

/-! ## Putting together -/

/-- The character for a pair. -/
def pair? (a b : Char) : Option Char :=
  match composites.find? fun p => p.first == a && p.second == b with
  | some p => some p.whole
  | none => Hangul.pair? a b

/-- A text on the way to its composed form: what is settled, the last letter, and the marks behind
it that did not join it; text and marks have the last character first. -/
structure Composing where
  settled : List Char
  letter : Option Char
  marks : List Char

namespace Composing

/-- Adds a character. -/
def add (s : Composing) (c : Char) : Composing :=
  let cls := combiningClass c
  match s.letter with
  | none => if cls = 0 then { s with letter := some c } else { s with settled := c :: s.settled }
  | some a =>
    let isBlocked := match s.marks with
      | [] => false
      | m :: _ => decide (cls ≤ combiningClass m)
    match if isBlocked then none else pair? a c with
    | some whole => { s with letter := some whole }
    | none =>
      if cls = 0 then ⟨s.marks ++ a :: s.settled, some c, []⟩
      else { s with marks := c :: s.marks }

/-- The text that has come together. -/
def text (s : Composing) : List Char := (s.marks ++ s.letter.toList ++ s.settled).reverse

end Composing

/-- The composed form of a text. -/
def compose (s : List Char) : List Char :=
  ((orderMarks (decompose s)).foldl Composing.add ⟨[], none, []⟩).text

end OrderDesk.DomainName
