import OrderDesk.Store.OrderBook
import OrderDesk.Store.Accounts

/-!
# The service

The state of the service is its orders and its users.  Every operation gives the state after it and
a result; whenever the result is a failure the state is the one before the operation.
-/

namespace OrderDesk

/-- The state of the service. -/
structure Service where
  orders : OrderBook
  users : Accounts

/-- A user together with their orders. -/
structure UserOverview where
  user : User
  orders : List Order

namespace Service

/-- A service without orders and users. -/
def empty : Service := ⟨.empty, .empty⟩

/-! ## Orders -/

/-- The order with an identifier. -/
def order (s : Service) (id : OrderId) : Except OrderError Order :=
  match s.orders.get? id with
  | some o => .ok o
  | none => .error (.notFound id)

/-- The orders placed for a user, the oldest first. -/
def ordersOf (s : Service) (id : UserId) : Except OrderError (List Order) :=
  match s.users.notedOrders? id with
  | some ids => .ok (s.orders.getAll ids)
  | none => .error (.ownerNotFound id)

/-- Takes in an order, and notes it with its owner, who has to exist. -/
def insertOrder (s : Service) (o : Order) : Service × Except OrderError Order :=
  match o.owner with
  | none => ({ s with orders := s.orders.insert o }, .ok o)
  | some owner =>
    match s.users.noteOrder? owner o.id with
    | none => (s, .error (.ownerNotFound owner))
    | some users => (⟨s.orders.insert o, users⟩, .ok o)

/-- Submits the order in a slot, and credits its owner, who has to exist. -/
def submitSlot (s : Service) (slot : Nat) (o : Order) (now : Timestamp) :
    Service × Except OrderError Order :=
  match o.decide .submit with
  | .error e => (s, .error e)
  | .ok event =>
    let o' := o.apply event
    match o.owner with
    | none => ({ s with orders := s.orders.put slot o' }, .ok o')
    | some owner =>
      match s.users.award owner now o'.accrued with
      | .error _ => (s, .error (.ownerNotFound owner))
      | .ok (_, users) => (⟨s.orders.put slot o', users⟩, .ok o')

/-- Cancels the order in a slot. -/
def cancelSlot (s : Service) (slot : Nat) (o : Order) : Service × Except OrderError Order :=
  match o.execute .cancel with
  | .error e => (s, .error e)
  | .ok (o', _) => ({ s with orders := s.orders.put slot o' }, .ok o')

/-- Changes the status of the order in a slot. -/
def actOnSlot (s : Service) (slot : Nat) (action : OrderAction) (o : Order) (now : Timestamp) :
    Service × Except OrderError Order :=
  match action with
  | .submit => s.submitSlot slot o now
  | .cancel => s.cancelSlot slot o

/-- Changes the status of an order. -/
def act (s : Service) (id : OrderId) (action : OrderAction) (now : Timestamp) :
    Service × Except OrderError Order :=
  match s.orders.slot? id with
  | none => (s, .error (.notFound id))
  | some slot =>
    match s.orders.atSlot? slot with
    | none => (s, .error (.notFound id))
    | some o => s.actOnSlot slot action o now

/-! ## Users -/

/-- Registers a user. -/
def register (s : Service) (id : UserId) (now : Timestamp) (r : Registration) :
    Service × Except UserError User :=
  match s.users.register id now r with
  | .ok (user, users) => ({ s with users }, .ok user)
  | .error e => (s, .error e)

/-- A user together with their orders. -/
def overview (s : Service) (id : UserId) : Except UserError UserOverview :=
  match s.users.get? id with
  | some account => .ok ⟨account.user, s.orders.getAll account.orders⟩
  | none => .error (.notFound id)

/-- The balance of a user. -/
def points (s : Service) (id : UserId) : Except UserError Unsigned64 :=
  (s.users.user id).map (·.points)

/-- Credits points, and gives the new balance. -/
def award (s : Service) (id : UserId) (now : Timestamp) (points : Unsigned64) :
    Service × Except UserError Unsigned64 :=
  match s.users.award id now points with
  | .ok (balance, users) => ({ s with users }, .ok balance)
  | .error e => (s, .error e)

/-- Takes points off a balance, and gives the new balance. -/
def redeem (s : Service) (id : UserId) (now : Timestamp) (points : Signed64) :
    Service × Except UserError Unsigned64 :=
  match s.users.redeem id now points with
  | .ok (balance, users) => ({ s with users }, .ok balance)
  | .error e => (s, .error e)

/-- Removes a user, and gives the orders that were placed for them. -/
def removeUser (s : Service) (id : UserId) : Service × Except UserError (List OrderId) :=
  match s.users.notedOrders? id with
  | none => (s, .error (.notFound id))
  | some ids => ({ s with users := s.users.erase id }, .ok ids)

/-- Cancels those of the given orders that are pending, and names them. -/
def cancelAmong (s : Service) (ids : List OrderId) : Service × List OrderId :=
  let (orders, cancelled) := s.orders.cancelAmong ids
  ({ s with orders }, cancelled)

/-- Removes a user and then cancels their pending orders, and names these. -/
def deleteUser (s : Service) (id : UserId) : Service × Except UserError (List OrderId) :=
  match s.removeUser id with
  | (s, .error e) => (s, .error e)
  | (s, .ok ids) =>
    let (s, cancelled) := s.cancelAmong ids
    (s, .ok cancelled)

end Service

end OrderDesk
