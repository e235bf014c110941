import OrderDesk.Text.Percent
import OrderDesk.Url.Host

/-!
# Addresses

An address has a scheme, mostly a host and a port, a path, and possibly a query and a fragment.
`Url.text` writes it.
-/

namespace OrderDesk

namespace Url

/-- Whoever asks, as named in front of a host, with escapes. -/
structure Credentials where
  name : String
  password : Option String
deriving DecidableEq

/-- What stands behind the two slashes of an address; the name of a host may be empty. -/
structure Authority where
  credentials : Option Credentials
  host : Host
  port : Option Nat
deriving DecidableEq

end Url

/-- An absolute address in its normal form. -/
structure Url where
  scheme : String
  authority : Option Url.Authority
  path : String
  query : Option String
  fragment : Option String
deriving DecidableEq

namespace Url

/-- The credentials as text. -/
def Credentials.text (c : Credentials) : String :=
  c.name ++
    (match c.password with
      | some password => ":" ++ password
      | none => "") ++ "@"

/-- The authority as text. -/
def Authority.text (a : Authority) : String :=
  (match a.credentials with
    | some credentials => credentials.text
    | none => "") ++ a.host.text ++
    (match a.port with
      | some port => ":" ++ toString port
      | none => "")

/-- The path and the query. -/
def target (u : Url) : String :=
  u.path ++
    (match u.query with
      | some query => "?" ++ query
      | none => "")

/-- The address as text.  A path that begins with two slashes gets a dot in front, lest its first
step be taken for a host. -/
def text (u : Url) : String :=
  u.scheme ++ ":" ++
    (match u.authority with
      | some a => "//" ++ a.text
      | none => if u.path.startsWith "//" then "/." else "") ++ u.target ++
    (match u.fragment with
      | some fragment => "#" ++ fragment
      | none => "")

/-- The host, if there is one. -/
def host? (u : Url) : Option Host :=
  (u.authority.map Authority.host).filter (· ≠ .name "")

/-- The port, if one is given that the scheme does not imply. -/
def port? (u : Url) : Option Nat := u.authority.bind Authority.port

/-- Can credentials be told apart from the address?  The escapes in a name have to stand for text,
and there has to be a name, or a password whose escapes stand for text. -/
def Credentials.areReadable (c : Credentials) : Bool :=
  let isText := fun s : String => Utf8.isText (Percent.octets s.toList)
  isText c.name && (c.name ≠ "" || (c.password.map isText).getD false)

/-- The address without credentials that can be told apart from it. -/
def withoutCredentials (u : Url) : Url :=
  { u with authority := u.authority.map fun a =>
      { a with credentials := a.credentials.filter (!·.areReadable) } }

end Url

end OrderDesk
