import OrderDesk.Text.Digit

/-!
# Sets of characters

Properties of characters are tables of code points.  A table is a text of words in base sixteen:
`61-7A` is a range of code points, `AD` a single one.  Some tables say something about each range
behind an equals sign, such as `300-314=E6`.
-/

namespace OrderDesk.DomainName

/-- A range of code points, both ends included. -/
structure Range where
  first : Nat
  last : Nat
deriving DecidableEq

/-- A set of characters. -/
abbrev CharSet := List Range

namespace Table

/-- The words of a text. -/
def words (s : String) : List (List Char) :=
  (s.toList.splitOnP fun c => c == ' ' || c == '\n').filter (!·.isEmpty)

/-- The number that digits in base sixteen stand for. -/
def number (s : List Char) : Nat := Text.ofDigits 16 (s.filterMap Text.hexValue?)

/-- A text in front of the first of some separators, and the text behind it. -/
def cut (isSeparator : Char → Bool) (s : List Char) : List Char × List Char :=
  (s.takeWhile (!isSeparator ·), (s.dropWhile (!isSeparator ·)).drop 1)

/-- The range of a word; a single code point is a range of one. -/
def range (word : List Char) : Range :=
  let (first, last) := cut (fun c => c == '-' || c == '~') word
  ⟨number first, number (if last.isEmpty then first else last)⟩

end Table

namespace Range

/-- Is a character in the range? -/
def contains (r : Range) (c : Char) : Bool := r.first ≤ c.toNat && c.toNat ≤ r.last

end Range

namespace CharSet

/-- The set that a table describes. -/
def ofText (s : String) : CharSet := (Table.words s).map Table.range

/-- Is a character in the set? -/
def contains (s : CharSet) (c : Char) : Bool := s.any (·.contains c)

end CharSet

end OrderDesk.DomainName
