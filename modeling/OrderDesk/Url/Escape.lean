import OrderDesk.Text.Percent

/-!
# Escapes in the parts of an address

Control characters and characters beyond ASCII are escaped everywhere in an address.  Which others
are depends on the part they stand in.
-/

namespace OrderDesk.Url

/-- Is a character escaped in a fragment? -/
def isEscapedInFragment (c : Char) : Bool :=
  c == ' ' || c == '"' || c == '<' || c == '>' || c == Char.ofNat 96

/-- Is a character escaped in a query?  Some layouts also escape apostrophes. -/
def isEscapedInQuery (withApostrophe : Bool) (c : Char) : Bool :=
  c == ' ' || c == '"' || c == '#' || c == '<' || c == '>' || withApostrophe && c == '\''

/-- Is a character escaped in a path? -/
def isEscapedInPath (c : Char) : Bool :=
  isEscapedInFragment c || c == '#' || c == '?' || c == '\x7b' || c == '\x7d'

/-- Is a character escaped in the name or the password of whoever asks? -/
def isEscapedInCredentials (c : Char) : Bool :=
  isEscapedInPath c || "/:;=@[\\]^|".toList.contains c

/-- A part of an address with its escapes. -/
def escaped (isEscaped : Char → Bool) (s : List Char) : String :=
  String.ofList (Percent.encode isEscaped s)

end OrderDesk.Url
