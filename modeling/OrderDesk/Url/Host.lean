import OrderDesk.DomainName.Ascii
import OrderDesk.Text.Percent
import OrderDesk.Url.Ipv4
import OrderDesk.Url.Ipv6

/-!
# Hosts

A host is a name, four numbers, or eight pieces in square brackets.  Where the layout of the address
knows domain names, a name may be given with escapes and in any script, and one that ends in a
number stands for four numbers; elsewhere a name is taken as it is.
-/

namespace OrderDesk.Url

/-- A host. -/
inductive Host where
  | name (text : String)
  | ipv4 (value : Nat)
  | ipv6 (pieces : List Nat)
deriving DecidableEq

namespace Host

/-- The host as text. -/
def text : Host → String
  | name s => s
  | ipv4 value => Ipv4.text value
  | ipv6 pieces => "[" ++ Ipv6.text pieces ++ "]"

/-- The host in square brackets, if a text begins with one. -/
def bracketed? (s : List Char) : Option Host :=
  if s.getLast? = some ']' then (Ipv6.pieces? ((s.drop 1).dropLast)).map .ipv6 else none

/-- May a character not stand in a name that is taken as it is? -/
def isForbidden (c : Char) : Bool :=
  c.toNat == 0 || "\t\n\r #/:<>?@[\\]^|".toList.contains c

/-- May a character not stand in a domain name? -/
def isForbiddenInDomain (c : Char) : Bool :=
  isForbidden c || c.toNat < 0x20 || c.toNat == 0x7F || c == '%'

/-- The host that a domain name stands for. -/
def ofDomain? (s : List Char) : Option Host :=
  if s.head? = some '[' then bracketed? s
  else do
    let name ← DomainName.toAscii? (Percent.decode s)
    if name.isEmpty || name.any isForbiddenInDomain then none
    else if Ipv4.endsInNumber name then (Ipv4.value? name).map .ipv4
    else some (.name (String.ofList name))

/-- The host with a name that is taken as it is. -/
def ofText? (s : List Char) : Option Host :=
  if s.head? = some '[' then bracketed? s
  else if s.any isForbidden then none
  else some (.name (String.ofList (Percent.encode (fun _ => false) s)))

end Host

end OrderDesk.Url
