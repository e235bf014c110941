import OrderDesk.Url.Basic
import OrderDesk.Url.Path

/-!
# Reading addresses

`Url.parse?` reads an absolute address and brings it into its normal form: the scheme in lower case,
the host as `Host` describes it, no port that the scheme implies anyway, no dots as steps of the
path, and everything escaped that may not stand in an address.
-/

namespace OrderDesk.Url

/-- Without control characters and blanks at both ends, and without tabs and line ends. -/
def clean (s : List Char) : List Char :=
  let edge := fun c : Char => c.toNat ≤ 0x20
  ((s.dropWhile edge).reverse.dropWhile edge).reverse.filter
    fun c => c ≠ '\t' && c ≠ '\n' && c ≠ '\r'

/-- The scheme of an address in lower case, and what stands behind its colon. -/
def scheme? (s : List Char) : Option (String × List Char) :=
  let isSchemeChar := fun c : Char => c.isAlphanum || c == '+' || c == '-' || c == '.'
  match s.dropWhile isSchemeChar with
  | ':' :: rest =>
    let name := s.takeWhile isSchemeChar
    match name with
    | c :: _ => if c.isAlpha then some (String.ofList (name.map Char.toLower), rest) else none
    | [] => none
  | _ => none

/-! ## Authorities -/

/-- The credentials in front of a host, if neither part of them is missing altogether. -/
def credentials? (s : List Char) : Option Credentials :=
  let part := escaped isEscapedInCredentials
  let name := s.takeWhile (· ≠ ':')
  let password := (s.dropWhile (· ≠ ':')).drop 1
  if name.isEmpty && password.isEmpty then none
  else some ⟨part name, if password.isEmpty then none else some (part password)⟩

/-- A text in front of the first colon outside square brackets, and the rest of it. -/
def spanHost (isInside : Bool) : List Char → List Char × List Char
  | [] => ([], [])
  | c :: rest =>
    if c = ':' ∧ isInside = false then ([], c :: rest)
    else
      let inside := c = '[' || (isInside && c ≠ ']')
      let (host, rest) := spanHost inside rest
      (c :: host, rest)

/-- The port behind a host; an empty one and the implied one count as none. -/
def readPort? (scheme : String) (s : List Char) : Option (Option Nat) :=
  if s.isEmpty then some none
  else do
    let port ← Text.readNat? s
    if 65535 < port then none
    else some (if impliedPort? scheme = some port then none else some port)

/-- The authority at the beginning of a text, and the path behind it.  A host may be missing only
where none is asked for, and then neither credentials nor a port may be there. -/
def authority? (scheme : String) (layout : Layout) (s : List Char) :
    Option (Authority × List Char) := do
  let whole := s.takeWhile (!layout.isSlash ·)
  let path := s.dropWhile (!layout.isSlash ·)
  let back := whole.reverse
  let asked := whole.contains '@'
  let credentials :=
    if asked then credentials? ((back.dropWhile (· ≠ '@')).drop 1).reverse else none
  let (host, port) := spanHost false (back.takeWhile (· ≠ '@')).reverse
  -- where a backslash is no slash, it still ends a port
  let digits := port.drop 1 |>.takeWhile (· ≠ '\\')
  let path := (port.drop 1).dropWhile (· ≠ '\\') ++ path
  if host.isEmpty && (layout == .hosted || !port.isEmpty || credentials.isSome || whole == ['@'])
  then none
  else
    let host ← if layout = .free then Host.ofText? host else Host.ofDomain? host
    let port ← readPort? scheme digits
    some (⟨credentials, host, port⟩, path)

/-! ## Addresses by layout -/

/-- The authority and the path of an address. -/
abbrev Place := Option Authority × String

/-- An address that always names a host. -/
def hosted? (scheme : String) (s : List Char) : Option Place := do
  let (authority, path) ← authority? scheme .hosted (s.dropWhile (Layout.isSlash .hosted))
  some (some authority, Path.text (Path.steps .hosted (path.drop 1)))

/-- An address that is read as it is. -/
def free? (scheme : String) (s : List Char) : Option Place :=
  match s with
  | '/' :: '/' :: rest => do
    let (authority, path) ← authority? scheme .free rest
    match path with
    | [] => some (some authority, "")
    | '/' :: path => some (some authority, Path.text (Path.steps .free path))
    | path => some (some authority, Path.text (Path.steps .free path))
  | '/' :: path => some (none, Path.text (Path.steps .free path))
  | _ => some (none, escaped (fun _ => false) s)

/-- An address of a file with or without a host.  A path that begins with a drive names no host, and
no path begins with two slashes. -/
def fileAt (host : Option Host) (steps : List (List Char)) : Place :=
  let host := if (steps.head?.map Path.isDrive).getD false then none else host
  let steps := match steps.dropWhile List.isEmpty with
    | [] => [[]]
    | steps => steps
  (some ⟨none, host.getD (.name ""), none⟩, Path.text steps)

/-- An address of a file. -/
def file? (s : List Char) : Option Place :=
  let isSlash := Layout.isSlash .file
  let steps := Path.steps .file
  match s with
  | a :: b :: rest =>
    if isSlash a && isSlash b then
      let host := rest.takeWhile (!isSlash ·)
      let path := rest.dropWhile (!isSlash ·)
      if Path.isDrive host then some (fileAt none (steps rest))
      else if host.isEmpty then some (fileAt none (steps path))
      else do
        let host ← Host.ofDomain? host
        if host = .name "localhost" then some (fileAt none (steps path))
        else some (fileAt (some host) (steps (path.drop 1)))
    else some (fileAt none (steps (if isSlash a then s.drop 1 else s)))
  | _ => some (fileAt none (steps (s.dropWhile isSlash)))

/-- The absolute address that a text is. -/
def parse? (s : String) : Option Url := do
  let (scheme, rest) ← scheme? (clean s.toList)
  let layout := Layout.ofScheme scheme
  let fragment :=
    match rest.dropWhile (· ≠ '#') with
    | _ :: f => some (escaped isEscapedInFragment f)
    | [] => none
  let rest := rest.takeWhile (· ≠ '#')
  let query :=
    match rest.dropWhile (· ≠ '?') with
    | _ :: q => some (escaped (isEscapedInQuery (layout != .free)) q)
    | [] => none
  let rest := rest.takeWhile (· ≠ '?')
  let (authority, path) ← match layout with
    | .hosted => hosted? scheme rest
    | .file => file? rest
    | .free => free? scheme rest
  some ⟨scheme, authority, path, query, fragment⟩

end OrderDesk.Url
