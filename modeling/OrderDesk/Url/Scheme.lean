/-!
# Schemes

How the rest of an address is read depends on its scheme.  Addresses of some schemes always name a
host, and addresses of files may; in both a backslash counts as a slash.  All other addresses are
read as they are.
-/

namespace OrderDesk.Url

/-- How the addresses of a scheme are read. -/
inductive Layout where
  /-- There is a host, however many slashes stand in front of it. -/
  | hosted
  /-- There may be a host, and the path may begin with a drive. -/
  | file
  /-- There is a host behind two slashes. -/
  | free
deriving DecidableEq

/-- The port that a scheme implies. -/
def impliedPort? (scheme : String) : Option Nat :=
  if scheme = "http" ∨ scheme = "ws" then some 80
  else if scheme = "https" ∨ scheme = "wss" then some 443
  else if scheme = "ftp" then some 21
  else none

/-- How the addresses of a scheme are read. -/
def Layout.ofScheme (scheme : String) : Layout :=
  if (impliedPort? scheme).isSome then .hosted
  else if scheme = "file" then .file
  else .free

/-- Does a character part the steps of a path? -/
def Layout.isSlash (l : Layout) (c : Char) : Bool := c == '/' || l != .free && c == '\\'

end OrderDesk.Url
