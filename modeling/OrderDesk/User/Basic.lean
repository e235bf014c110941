import OrderDesk.Timestamp.Basic
import OrderDesk.User.Name

/-!
# Users

A user has a name, an email address and a balance of loyalty points.  A registration is checked
field by field: first that every field is there, then the user name, then the email address.

The balance changes by commands.  A command is first held against the present state (`User.decide`),
which gives the event that will have happened or a failure, and only an event changes the user
(`User.apply`).  Awards stop at the largest balance; redeeming needs at least one point and at most
the balance.
-/

namespace OrderDesk

/-- What a newcomer fills in. -/
structure Registration where
  username : String
  email : String
  firstname : String
  lastname : String
deriving DecidableEq

/-- A registered user. -/
structure User where
  id : UserId
  username : Username
  email : Email
  firstname : String
  lastname : String
  points : Unsigned64
  createdAt : Timestamp
  updatedAt : Timestamp
deriving DecidableEq

/-- What may be asked of a balance. -/
inductive UserCommand where
  | award (points : Unsigned64)
  | redeem (points : Signed64)
deriving DecidableEq

/-- What happened to a balance, with the balance after it. -/
inductive UserEvent where
  | awarded (points balance : Unsigned64)
  | redeemed (points balance : Unsigned64)
deriving DecidableEq

/-- The balance after the event. -/
def UserEvent.balance : UserEvent → Unsigned64
  | .awarded _ balance => balance
  | .redeemed _ balance => balance

namespace User

/-- A field has to hold more than blanks. -/
def requireField (field : UserField) (text : String) : Except UserError Unit :=
  if Text.isBlank text then .error (.fieldMissing field) else .ok ()

/-- A new user with no points. -/
def register (id : UserId) (now : Timestamp) (r : Registration) : Except UserError User := do
  requireField .username r.username
  requireField .email r.email
  requireField .firstname r.firstname
  requireField .lastname r.lastname
  let username ← Username.parse r.username
  let email ← Email.parse r.email
  return ⟨id, username, email, r.firstname, r.lastname, .zero, now, now⟩

/-- The amount of points that may be redeemed. -/
def amount? (points : Signed64) : Option Unsigned64 :=
  if points.val < 1 then none else Bounded.ofInt? points.val

/-- What a command would do, or why it may not. -/
def decide (u : User) : UserCommand → Except UserError UserEvent
  | .award points => .ok (.awarded points (u.points.addSaturating points))
  | .redeem points =>
    match amount? points with
    | none => .error (.invalidAmount points)
    | some amount =>
      match u.points.sub? amount with
      | none => .error (.insufficientPoints amount u.points)
      | some balance => .ok (.redeemed amount balance)

/-- The user after an event. -/
def apply (u : User) (now : Timestamp) (e : UserEvent) : User :=
  { u with points := e.balance, updatedAt := now }

/-- Carries out a command. -/
def execute (u : User) (now : Timestamp) (c : UserCommand) :
    Except UserError (User × UserEvent) := do
  let e ← u.decide c
  return (u.apply now e, e)

end User

end OrderDesk
