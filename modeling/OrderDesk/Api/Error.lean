import OrderDesk.Failure
import OrderDesk.Json.Basic

/-!
# Failures as answers

A failure is answered with a status of the protocol and a body that holds its code, its message and
possibly details.  The kind of a failure alone decides on the status.
-/

namespace OrderDesk

/-- The status of the answer to a failure. -/
def FailureKind.status : FailureKind → Nat
  | .validation => 400
  | .notFound => 404
  | .conflict => 409
  | .dependencyUnavailable => 503

/-- A failure as it is answered. -/
structure ApiError where
  status : Nat
  code : String
  message : String
  details : Option String
deriving DecidableEq

namespace ApiError

/-- A failure of any part of the service. -/
def ofFailure {ε : Type} [Failure ε] (e : ε) : ApiError :=
  ⟨(Failure.kind e).status, Failure.code e, Failure.message e, none⟩

/-- The request is wrong. -/
def badRequest (code message : String) : ApiError := ⟨400, code, message, none⟩

/-- The request does not say who it comes from. -/
def unauthorized (code message : String) : ApiError := ⟨401, code, message, none⟩

/-- The failure with other details. -/
def explain (e : ApiError) (details : String) : ApiError := { e with details := some details }

/-- The failure on one line. -/
def text (e : ApiError) : String := e.code ++ ": " ++ e.message

/-- The body of the answer. -/
def toJson (e : ApiError) : Json :=
  .obj ([("code", .str e.code), ("message", .str e.message)] ++
    match e.details with
    | some details => [("details", .str details)]
    | none => [])

end ApiError

end OrderDesk
