import OrderDesk.Uuid.Basic

/-!
# Other spellings of identifiers

Stored records may spell an identifier in four ways: the hyphenated form, its 32 digits without
hyphens, the hyphenated form in braces, and the hyphenated form behind `urn:uuid:`.  Letters of
either case are good in each of them, but the words in front are in lower case.
-/

namespace OrderDesk.Uuid

/-- What stands in front of the hyphenated form in a uniform resource name. -/
def urnScheme : List Char := "urn:uuid:".toList

/-- An identifier in any of its four spellings. -/
def ofAnySpelling? (s : String) : Option Uuid :=
  let cs := s.toList
  match cs.length with
  | 32 => ofSimple? cs
  | 36 => ofChars? cs
  | 38 =>
    match cs.head?, cs.getLast? with
    | some '\x7b', some '\x7d' => ofChars? (cs.drop 1).dropLast
    | _, _ => none
  | 45 => if cs.take 9 = urnScheme then ofChars? (cs.drop 9) else none
  | _ => none

end OrderDesk.Uuid
