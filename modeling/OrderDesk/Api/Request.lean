import OrderDesk.Text.Percent

/-!
# Requests

A request has a method, a target, headers and a body.  The target is split into a path and a query,
and a fragment in it is passed over.

* Names of headers are compared without regard to case, and of several headers with a name the first
  one counts.
* Escapes in the path are replaced, but not those of a slash, a plus sign and a percent sign, which
  would change how the path is split or be read twice.
* A query is a list of fields; in their names and values a plus sign stands for a blank.
* A body is a text, so one whose bytes are not UTF-8 is the body of no request here.
-/

namespace OrderDesk

/-- A request. -/
structure ApiRequest where
  method : String
  target : String
  headers : List (String × String)
  body : String
deriving DecidableEq

namespace ApiRequest

/-- The value of the first header with a name, which is given in lower case. -/
def header? (r : ApiRequest) (name : String) : Option String :=
  (r.headers.find? fun h => h.1.toLower == name).map (·.2)

/-- Is the text made of printable ASCII characters and tabs? -/
def isVisible (s : String) : Bool :=
  s.toList.all fun c => (0x20 ≤ c.toNat && c.toNat < 0x7F) || c == '\t'

/-- The value of a header as text; one with other characters than printable ones reads as empty. -/
def headerText? (r : ApiRequest) (name : String) : Option String :=
  (r.header? name).map fun value => if isVisible value then value else ""

/-! ## The target -/

/-- The target without its fragment. -/
def location (r : ApiRequest) : List Char := r.target.toList.takeWhile (· ≠ '#')

/-- The octets whose escapes stay in a path: those of the percent sign, the slash and the plus
sign. -/
def keptEscapes : List Nat := [0x25, 0x2F, 0x2B]

/-- The path that is compared with routes. -/
def path (r : ApiRequest) : List Char :=
  Percent.decodeExcept keptEscapes (r.location.takeWhile (· ≠ '?'))

/-- The query as it is written. -/
def query (r : ApiRequest) : List Char := (r.location.dropWhile (· ≠ '?')).drop 1

/-- A name or a value of a query. -/
def formDecode (s : List Char) : String :=
  String.ofList (Percent.decode (s.map fun c => if c = '+' then ' ' else c))

/-- The fields of the query; one without an equals sign has an empty value. -/
def fields (r : ApiRequest) : List (String × String) :=
  (r.query.splitOn '&').filterMap fun field =>
    if field.isEmpty then none
    else
      some (formDecode (field.takeWhile (· ≠ '=')),
        formDecode ((field.dropWhile (· ≠ '=')).drop 1))

end ApiRequest

end OrderDesk
