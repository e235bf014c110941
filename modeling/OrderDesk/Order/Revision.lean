import OrderDesk.Order.Items

/-!
# Revising the lines of an order

`LineItem.revise` applies changes to the lines of an order, one after the other.  A change of zero
does nothing, and so does taking away from a product that is not on the order.  A line whose
quantity falls to zero or below disappears, and a product that is new gets a line at the end.
-/

namespace OrderDesk

/-- The lines that an order would have after changes. -/
structure Revision where
  items : List LineItem
  /-- The products that were not on the order. -/
  added : List ProductId
deriving DecidableEq

namespace LineItem

/-- A quantity of 32 bits as one of 64 bits. -/
def wide (q : Quantity) : Signed64 :=
  ⟨q.val, Int.le_trans (by decide) q.lo_le, Int.le_trans q.le_hi (by decide)⟩

/-- The quantity of a product on a list of lines. -/
def quantityIn? (items : List LineItem) (product : ProductId) : Option Quantity :=
  (items.find? (·.product = product)).map (·.quantity)

/-- The first line of a product with a changed quantity, or without the line if nothing is left. -/
def adjust (product : ProductId) (amount : Signed64) :
    List LineItem → Except OrderError (List LineItem)
  | [] => .ok []
  | item :: rest =>
    if item.product = product then
      match (wide item.quantity).add? amount with
      | none => .error (.invalidQuantity product amount)
      | some sum =>
        if sum.val ≤ 0 then .ok rest
        else
          match (Bounded.ofInt? sum.val : Option Quantity) with
          | some quantity => .ok (⟨product, quantity⟩ :: rest)
          | none => .error (.invalidQuantity product sum)
    else do
      let rest ← adjust product amount rest
      return item :: rest

/-- Applies one change more. -/
def reviseStep (r : Revision) (d : Delta) : Except OrderError Revision :=
  if d.amount.val = 0 then .ok r
  else if r.items.any (·.product = d.product) then do
    let items ← adjust d.product d.amount r.items
    return { r with items }
  else if 0 < d.amount.val then do
    let item ← d.toItem
    return ⟨r.items ++ [item], r.added ++ [d.product]⟩
  else .ok r

/-- Applies changes to the lines of an order. -/
def revise (items : List LineItem) (deltas : List Delta) : Except OrderError Revision :=
  deltas.foldlM reviseStep ⟨items, []⟩

end LineItem

end OrderDesk
