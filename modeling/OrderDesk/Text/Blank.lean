/-!
# Blank characters

The characters that count as blank are those with the White_Space property of Unicode.  The control
characters U+001C to U+001F, the zero-width space and the byte order mark are not among them.
`trim` takes blanks off both ends of a text, and `IsBlank` texts are those that it leaves empty.
-/

namespace OrderDesk.Text

/-- The White_Space property. -/
def isBlankChar (c : Char) : Bool :=
  let n := c.toNat
  (0x09 ≤ n && n ≤ 0x0D) || n == 0x20 || n == 0x85 || n == 0xA0 || n == 0x1680 ||
    (0x2000 ≤ n && n ≤ 0x200A) || n == 0x2028 || n == 0x2029 || n == 0x202F || n == 0x205F ||
    n == 0x3000

/-- Without the blanks at the front. -/
def trimStart (s : List Char) : List Char := s.dropWhile isBlankChar

/-- Without the blanks at the front and at the back. -/
def trimChars (s : List Char) : List Char := (trimStart (trimStart s).reverse).reverse

/-- Without the blanks at the front and at the back. -/
def trim (s : String) : String := String.ofList (trimChars s.toList)

/-- Is there nothing in the text but blanks? -/
def isBlank (s : String) : Bool := s.toList.all isBlankChar

theorem isBlank_iff {s : String} : isBlank s = true ↔ ∀ c ∈ s.toList, isBlankChar c = true := by
  simp [isBlank]

theorem isBlankChar_of_isWhitespace {c : Char} (h : c.isWhitespace = true) :
    isBlankChar c = true := by
  simp only [Char.isWhitespace, Bool.or_eq_true, decide_eq_true_eq] at h
  rcases h with ((h | h) | h) | h <;> subst h <;> decide

end OrderDesk.Text
