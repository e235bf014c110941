/-!
# Kinds of failure

Every failure of the order desk, whatever part it comes from, is of one of four kinds, so that an
answer can be chosen without looking at the wording.  A type of failures says for each failure its
kind, a code that never changes, and a message for people (`Failure`).
-/

namespace OrderDesk

/-- What sort of failure it is. -/
inductive FailureKind where
  /-- The request itself is wrong. -/
  | validation
  /-- The order, user or product that it names does not exist. -/
  | notFound
  /-- The request goes against a rule in the present state. -/
  | conflict
  /-- The product catalog could not answer. -/
  | dependencyUnavailable
deriving DecidableEq

namespace FailureKind

/-- The name of the kind. -/
def label : FailureKind → String
  | .validation => "validation"
  | .notFound => "not_found"
  | .conflict => "conflict"
  | .dependencyUnavailable => "dependency_unavailable"

end FailureKind

/-- A type of failures. -/
class Failure (ε : Type) where
  kind : ε → FailureKind
  /-- The code by which programs tell failures apart. -/
  code : ε → String
  /-- The wording for people. -/
  message : ε → String

end OrderDesk
