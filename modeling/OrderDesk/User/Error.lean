import OrderDesk.Failure
import OrderDesk.Number.Bounded
import OrderDesk.Uuid.Kind

/-!
# What can go wrong with users
-/

namespace OrderDesk

/-- The fields of a registration, in the order in which they are checked. -/
inductive UserField where
  | username
  | email
  | firstname
  | lastname
deriving DecidableEq

namespace UserField

/-- The name of the field. -/
def label : UserField → String
  | .username => "username"
  | .email => "email"
  | .firstname => "firstname"
  | .lastname => "lastname"

end UserField

/-- A failure of an operation on users. -/
inductive UserError where
  | fieldMissing (field : UserField)
  | usernameLength (length : Nat)
  | invalidEmail (text : String)
  | duplicateUsername (text : String)
  | duplicateEmail (text : String)
  | malformedId (text : String)
  | notFound (id : UserId)
  | invalidAmount (points : Signed64)
  | insufficientPoints (requested available : Unsigned64)
deriving DecidableEq

namespace UserError

/-- The kind of a failure. -/
def kind : UserError → FailureKind
  | .fieldMissing _ | .usernameLength _ | .invalidEmail _ | .malformedId _ | .invalidAmount _ =>
    .validation
  | .notFound _ => .notFound
  | .duplicateUsername _ | .duplicateEmail _ | .insufficientPoints _ _ => .conflict

/-- The code of a failure. -/
def code : UserError → String
  | .fieldMissing _ | .usernameLength _ | .invalidEmail _ => "INVALID_INPUT"
  | .duplicateUsername _ => "USERNAME_TAKEN"
  | .duplicateEmail _ => "EMAIL_TAKEN"
  | .malformedId _ => IdKind.user.invalidCode
  | .notFound _ => "USER_NOT_FOUND"
  | .invalidAmount _ => "INVALID_POINTS"
  | .insufficientPoints _ _ => "INSUFFICIENT_POINTS"

/-- The wording of a failure. -/
def message : UserError → String
  | .fieldMissing field => field.label ++ " is required"
  | .usernameLength length =>
    "Username must be between 3 and 30 characters (got " ++ toString length ++ ")"
  | .invalidEmail text => "Invalid email format: " ++ text
  | .duplicateUsername text => "Username '" ++ text ++ "' already exists"
  | .duplicateEmail text => "Email '" ++ text ++ "' already exists"
  | .malformedId text => IdKind.user.invalidMessage text
  | .notFound id => "User " ++ id.text ++ " not found"
  | .invalidAmount points => "Points to redeem must be at least 1 (got " ++ points.text ++ ")"
  | .insufficientPoints requested available =>
    "Insufficient loyalty points: requested " ++ requested.text ++ ", available " ++ available.text

instance : Failure UserError := ⟨kind, code, message⟩

end UserError

/-- The user identifier that a request names. -/
def UserId.parse (text : String) : Except UserError UserId :=
  match Uuid.parse? text with
  | some id => .ok id
  | none => .error (.malformedId text)

end OrderDesk
