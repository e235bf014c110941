import OrderDesk.Store.Table
import OrderDesk.User.Basic

/-!
# Accounts

Each user is kept together with the identifiers of the orders that were placed for them, the oldest
first.  No two users may have the same name or the same email address when they register.
-/

namespace OrderDesk

/-- A user and the orders placed for them. -/
structure Account where
  user : User
  orders : List OrderId

/-- The users of the desk. -/
abbrev Accounts := Table Account

namespace Accounts

/-- A user that has just registered, unless the name or the address is taken. -/
def register (s : Accounts) (id : UserId) (now : Timestamp) (r : Registration) :
    Except UserError (User × Accounts) := do
  let user ← User.register id now r
  if s.values.any (·.user.username = user.username) then
    .error (.duplicateUsername user.username.text)
  else if s.values.any (·.user.email = user.email) then .error (.duplicateEmail user.email.text)
  else return (user, s.insert id ⟨user, []⟩)

/-- The user with an identifier. -/
def user? (s : Accounts) (id : UserId) : Option User := (s.get? id).map (·.user)

/-- The user with an identifier, who has to exist. -/
def user (s : Accounts) (id : UserId) : Except UserError User :=
  match s.user? id with
  | some u => .ok u
  | none => .error (.notFound id)

/-- The orders placed for a user. -/
def notedOrders? (s : Accounts) (id : UserId) : Option (List OrderId) := (s.get? id).map (·.orders)

/-- Notes that an order was placed for a user. -/
def noteOrder? (s : Accounts) (id : UserId) (order : OrderId) : Option Accounts :=
  match s.get? id with
  | some account => some (s.insert id { account with orders := account.orders ++ [order] })
  | none => none

/-- Carries out a command on a balance. -/
def execute (s : Accounts) (id : UserId) (now : Timestamp) (c : UserCommand) :
    Except UserError (Unsigned64 × Accounts) :=
  match s.get? id with
  | none => .error (.notFound id)
  | some account => do
    let (user, event) ← account.user.execute now c
    return (event.balance, s.insert id { account with user })

/-- Credits points, and gives the new balance. -/
def award (s : Accounts) (id : UserId) (now : Timestamp) (points : Unsigned64) :
    Except UserError (Unsigned64 × Accounts) := s.execute id now (.award points)

/-- Takes points off a balance, and gives the new balance. -/
def redeem (s : Accounts) (id : UserId) (now : Timestamp) (points : Signed64) :
    Except UserError (Unsigned64 × Accounts) := s.execute id now (.redeem points)

end Accounts

end OrderDesk
