/-!
# Media types

A media type such as `application/problem+json; q=1` has a type, a subtype, possibly a suffix behind
the last plus sign, and parameters.  Parameters have to be well formed but are not kept.
`MediaType.isJson` picks the media types whose content is JSON.
-/

namespace OrderDesk

/-- A media type without its parameters. -/
structure MediaType where
  type : String
  subtype : String
  suffix : Option String
deriving DecidableEq

namespace MediaType

/-- May a character stand in a name, or in a value without quotes? -/
def isTokenChar (c : Char) : Bool :=
  c.isAlphanum || "!#$%&'*+-.^_|~".toList.contains c || c == Char.ofNat 96

/-- May a character stand between quotes? -/
def isQuotable (c : Char) : Bool := 0x1F < c.toNat && c.toNat != 0x7F

/-! ## Parameters -/

/-- Where reading stands in a list of parameters. -/
inductive Position where
  /-- Before the name of a parameter. -/
  | before
  | name
  /-- Right behind the equals sign. -/
  | valueStart
  | value
  /-- Right behind an opening quote; another quote does not close it here. -/
  | quoteStart
  | quoted
  /-- Behind a closing quote. -/
  | behindQuote
deriving DecidableEq

/-- Reads one character. -/
def step (p : Position) (c : Char) : Option Position :=
  match p with
  | .before => if c = ' ' then some .before else if isTokenChar c then some .name else none
  | .name => if c = '=' then some .valueStart else if isTokenChar c then some .name else none
  | .valueStart =>
    if c = '"' then some .quoteStart else if isTokenChar c then some .value else none
  | .value => if c = ';' then some .before else if isTokenChar c then some .value else none
  | .quoteStart => if isQuotable c then some .quoted else none
  | .quoted => if c = '"' then some .behindQuote else if isQuotable c then some .quoted else none
  | .behindQuote => if c = ' ' then some .behindQuote else if c = ';' then some .before else none

/-- May a list of parameters end here? -/
def isEnd : Position → Bool
  | .name => false
  | .quoteStart => false
  | .quoted => false
  | _ => true

/-- Are these well-formed parameters?  The text starts behind a semicolon. -/
def areParameters (s : List Char) : Bool := (s.foldlM step .before).any isEnd

/-! ## Whole media types -/

/-- A media type; a plus sign that nothing stands before does not start a suffix. -/
def ofNames (type subtype : List Char) : MediaType :=
  let back := subtype.reverse
  let main := ((back.dropWhile (· ≠ '+')).drop 1).reverse
  if main.isEmpty then ⟨String.ofList type, String.ofList subtype, none⟩
  else
    ⟨String.ofList type, String.ofList main,
      some (String.ofList (back.takeWhile (· ≠ '+')).reverse)⟩

/-- Reads a media type. -/
def parse? (text : String) : Option MediaType :=
  let s := text.toList
  let type := s.takeWhile isTokenChar
  match s.dropWhile isTokenChar with
  | '/' :: rest =>
    let subtype := rest.takeWhile isTokenChar
    match rest.dropWhile isTokenChar with
    | [] => if type.isEmpty then none else some (ofNames type subtype)
    | ';' :: parameters =>
      if type.isEmpty || subtype.isEmpty || !areParameters parameters then none
      else some (ofNames type subtype)
    | _ => none
  | _ => none

/-- Is the content JSON?  Names are compared without regard to case. -/
def isJson (m : MediaType) : Bool :=
  m.subtype.toLower == "json" || m.suffix.any (·.toLower == "json")

end MediaType

end OrderDesk
