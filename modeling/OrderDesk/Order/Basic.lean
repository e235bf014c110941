import OrderDesk.Decimal.Arithmetic
import OrderDesk.Order.Revision
import OrderDesk.Timestamp.Basic

/-!
# Orders

An order has lines, a total, a status and possibly an owner.  It changes by commands, and only while
it is pending: its lines and total may be replaced, it may be submitted, which fixes the loyalty
points that it earns, or cancelled.  A command is first held against the present state
(`Order.decide`), which gives the event that will have happened or a failure, and only an event
changes the order (`Order.apply`).
-/

namespace OrderDesk

/-- An order. -/
structure Order where
  id : OrderId
  items : List LineItem
  total : Decimal
  status : OrderStatus
  /-- The loyalty points that the order earned when it was submitted. -/
  accrued : Unsigned64
  placedAt : Timestamp
  owner : Option UserId
deriving DecidableEq

/-- What may be asked of an order. -/
inductive OrderCommand where
  | replaceItems (items : List LineItem) (total : Decimal)
  | submit
  | cancel
deriving DecidableEq

/-- What happened to an order. -/
inductive OrderEvent where
  | itemsReplaced (items : List LineItem) (total : Decimal)
  | submitted (accrued : Unsigned64)
  | cancelled
deriving DecidableEq

/-- The changes of status that a request can name. -/
inductive OrderAction where
  | submit
  | cancel
deriving DecidableEq

/-- The change of status with a name. -/
def OrderAction.parse (text : String) : Except OrderError OrderAction :=
  if text = "SUBMIT" then .ok .submit
  else if text = "CANCEL" then .ok .cancel
  else .error (.invalidAction text)

/-- The loyalty points for a total: one for each whole ten. -/
def loyaltyPoints (total : Decimal) : Unsigned64 :=
  if total.isNegative then .zero
  else Unsigned64.ofNatSaturating total.tenth.floor.toNat

namespace Order

/-- A new order. -/
def place (id : OrderId) (now : Timestamp) (owner : Option UserId) (items : List LineItem)
    (total : Decimal) : Order :=
  ⟨id, items, total, .pending, .zero, now, owner⟩

/-- Commands are for pending orders only. -/
def requirePending (o : Order) : Except OrderError Unit :=
  if o.status = .pending then .ok () else .error (.notPending o.id o.status)

/-- The quantity of a product on the order. -/
def quantity? (o : Order) (product : ProductId) : Option Quantity :=
  LineItem.quantityIn? o.items product

/-- The lines that the order would have after changes. -/
def revise (o : Order) (deltas : List Delta) : Except OrderError Revision :=
  LineItem.revise o.items deltas

/-- What a command would do, or why it may not. -/
def decide (o : Order) (c : OrderCommand) : Except OrderError OrderEvent := do
  o.requirePending
  match c with
  | .replaceItems items total =>
    match items.find? (fun item => item.quantity.val ≤ 0) with
    | some bad => .error (.invalidQuantity bad.product (LineItem.wide bad.quantity))
    | none => .ok (.itemsReplaced items total)
  | .submit => .ok (.submitted (loyaltyPoints o.total))
  | .cancel => .ok .cancelled

/-- The order after an event. -/
def apply (o : Order) : OrderEvent → Order
  | .itemsReplaced items total => { o with items, total }
  | .submitted accrued => { o with status := .processing, accrued }
  | .cancelled => { o with status := .cancelled }

/-- Carries out a command. -/
def execute (o : Order) (c : OrderCommand) : Except OrderError (Order × OrderEvent) := do
  let e ← o.decide c
  return (o.apply e, e)

@[simp] theorem apply_id (o : Order) (e : OrderEvent) : (o.apply e).id = o.id := by
  cases e <;> rfl

end Order

end OrderDesk
