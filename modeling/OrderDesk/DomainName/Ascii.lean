import OrderDesk.DomainName.Direction
import OrderDesk.DomainName.Label

/-!
# Domain names in ASCII

Domain names may be given in any script.  `toAscii?` brings a name into its normal form, takes it
apart into labels and writes each label in ASCII.  Where the direction of writing matters, all
labels have to keep to theirs.  Which ASCII characters may stand in a name is not asked here.
-/

namespace OrderDesk.DomainName

/-- May labels stand side by side, as far as the direction of writing is concerned? -/
def directionsFit (labels : List Label) : Bool :=
  !(labels.any fun l => l.text.any Direction.matters) || labels.all fun l => Direction.keeps l.text

/-- A domain name in ASCII. -/
def toAscii? (name : List Char) : Option (List Char) := do
  let text ← normalForm? name
  let labels ← (text.splitOn '.').mapM Label.ofText?
  if directionsFit labels then some (['.'].intercalate (labels.map Label.written)) else none

end OrderDesk.DomainName
