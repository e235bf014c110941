import OrderDesk.Url.Escape
import OrderDesk.Url.Scheme

/-!
# Paths

A path is a row of steps.  A step that is a dot leads nowhere and two dots lead back; a drive, which
is a letter and a colon, is never left that way.  `Path.resolve` brings the steps of a path into
their normal form.
-/

namespace OrderDesk.Url.Path

/-- Is a step a dot? -/
def isDot (s : List Char) : Bool :=
  let s := s.map Char.toLower
  s == ['.'] || s == "%2e".toList

/-- Is a step two dots? -/
def isDoubleDot (s : List Char) : Bool :=
  let s := s.map Char.toLower
  s == "..".toList || s == ".%2e".toList || s == "%2e.".toList || s == "%2e%2e".toList

/-- Is a step a drive?  A bar may stand for the colon. -/
def isDrive : List Char → Bool
  | [c, d] => c.isAlpha && (d == ':' || d == '|')
  | _ => false

/-- A drive with a colon. -/
def withColon (s : List Char) : List Char := s.take 1 ++ [':']

/-- The steps behind the one that two dots lead back from, the last one first. -/
def stepBack : List (List Char) → List (List Char)
  | [] => []
  | s :: done => if isDrive s then s :: done else done

/-- The steps of a path in their normal form; `done` holds the steps so far, the last one first.
The first step of a path to a file may be a drive. -/
def resolve (layout : Layout) (done : List (List Char)) : List (List Char) → List (List Char)
  | [] => done.reverse
  | s :: rest =>
    if isDoubleDot s then
      let done := stepBack done
      resolve layout (if rest.isEmpty then [] :: done else done) rest
    else if isDot s then resolve layout (if rest.isEmpty then [] :: done else done) rest
    else
      let s := if layout = .file ∧ done.isEmpty ∧ isDrive s then withColon s else s
      resolve layout (s :: done) rest

/-- The steps of a path that is given without its first slash. -/
def steps (layout : Layout) (s : List Char) : List (List Char) :=
  resolve layout [] (s.splitOnP layout.isSlash)

/-- A path as text. -/
def text (steps : List (List Char)) : String :=
  escaped isEscapedInPath (steps.flatMap fun step => '/' :: step)

end OrderDesk.Url.Path
