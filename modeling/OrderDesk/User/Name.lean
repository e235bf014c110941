import OrderDesk.Text.Blank
import OrderDesk.User.Error

/-!
# User names and email addresses

A user name has 3 to 30 characters that are not all blank.  An email address is a local part, an at
sign and a domain that ends in a dot and two letters or more, all in ASCII.  Both types hold their
rule, so every value of them obeys it; `Username.parse` and `Email.parse` keep the text as it is.
-/

namespace OrderDesk

/-! ## User names -/

/-- The least number of characters of a user name. -/
def Username.minLength : Nat := 3

/-- The largest number of characters of a user name. -/
def Username.maxLength : Nat := 30

/-- A name that a user logs in with. -/
structure Username where
  text : String
  notBlank : Text.isBlank text = false
  min_le : Username.minLength ≤ text.length
  le_max : text.length ≤ Username.maxLength
deriving DecidableEq

/-- The user name that a text is. -/
def Username.parse (text : String) : Except UserError Username :=
  if hb : Text.isBlank text = true then .error (.fieldMissing .username)
  else if h : Username.minLength ≤ text.length ∧ text.length ≤ Username.maxLength then
    .ok ⟨text, by simpa using hb, h.1, h.2⟩
  else .error (.usernameLength text.length)

/-! ## Email addresses -/

namespace Email

/-- An ASCII letter. -/
def isLetter (c : Char) : Bool := ('a' ≤ c && c ≤ 'z') || ('A' ≤ c && c ≤ 'Z')

/-- A character of a domain. -/
def isDomainChar (c : Char) : Bool :=
  isLetter c || ('0' ≤ c && c ≤ '9') || c == '.' || c == '-'

/-- A character in front of the at sign. -/
def isLocalChar (c : Char) : Bool := isDomainChar c || c == '_' || c == '%' || c == '+'

/-- Does a domain end in a dot and at least two letters, with something in front of the dot? -/
def hasTopLevel (domain : List Char) : Bool :=
  let back := domain.reverse
  2 ≤ (back.takeWhile isLetter).length &&
    match back.dropWhile isLetter with
    | '.' :: rest => !rest.isEmpty
    | _ => false

/-- Is the text a local part, an at sign and a domain? -/
def isAddress (s : List Char) : Bool :=
  !(s.takeWhile isLocalChar).isEmpty &&
    match s.dropWhile isLocalChar with
    | '@' :: domain => domain.all isDomainChar && hasTopLevel domain
    | _ => false

end Email

/-- An email address. -/
structure Email where
  text : String
  wellFormed : Email.isAddress text.toList = true
deriving DecidableEq

/-- The email address that a text is. -/
def Email.parse (text : String) : Except UserError Email :=
  if Text.isBlank text then .error (.fieldMissing .email)
  else if h : Email.isAddress text.toList = true then .ok ⟨text, h⟩
  else .error (.invalidEmail text)

end OrderDesk
