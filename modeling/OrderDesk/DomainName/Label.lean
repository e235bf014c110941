import OrderDesk.DomainName.Composition
import OrderDesk.DomainName.Joining
import OrderDesk.DomainName.Known
import OrderDesk.DomainName.Punycode
import OrderDesk.DomainName.Replacements

/-!
# Labels

A domain name is a row of labels between dots.  A label that is not plain ASCII is written in ASCII
behind the mark `xn--`; one that comes with this mark has to stand for a text that needs it.
-/

namespace OrderDesk.DomainName

/-- What a character becomes in a domain name, if it may be given in one: capital letters become
small ones, and other forms of characters the plain form. -/
def normal? (c : Char) : Option (List Char) :=
  if c.toNat < 0x80 then some [c.toLower]
  else
    match replacements.findSome? (·.targets? c) with
    | some cs => some cs
    | none => if known.contains c then some [c] else none

/-- The normal form of a text, if all its characters may be given in a domain name. -/
def normalForm? (s : List Char) : Option (List Char) := do
  let parts ← s.mapM normal?
  some (compose parts.flatten)

/-- A label of a domain name. -/
structure Label where
  /-- The label in ASCII. -/
  written : List Char
  /-- The text that it stands for. -/
  text : List Char

namespace Label

/-- The mark of a label that stands for other text. -/
def mark : List Char := ['x', 'n', '-', '-']

/-- The largest number of characters beyond which no label is written in ASCII. -/
def textLimit : Nat := 1000

/-- The largest number of characters beyond which no label is read from ASCII. -/
def writtenLimit : Nat := 2000

/-- May a text beyond ASCII be a label?  It does not begin with a mark of a letter that is not
there, and its joiners stand where they may. -/
def isFit (text : List Char) : Bool :=
  !((text.head?.map isMark).getD false) && joinersFit [] text

/-- The label whose text is written behind the mark.  The text has to be in its normal form. -/
def ofMarked? (written code : List Char) : Option Label := do
  if code.isEmpty || code.getLast? == some '-' || writtenLimit < code.length then none
  let text ← Punycode.decode? code
  if normalForm? text = some text ∧ isFit text then some ⟨written, text⟩ else none

/-- The label with a text in its normal form. -/
def ofText? (text : List Char) : Option Label :=
  if mark.isPrefixOf text then ofMarked? text (text.drop mark.length)
  else if text.all Punycode.isAscii then some ⟨text, text⟩
  else if isFit text && text.length ≤ textLimit then
    some ⟨mark ++ Punycode.encode text, text⟩
  else none

end Label

end OrderDesk.DomainName
