import OrderDesk.Order.Error
import OrderDesk.Text.Blank

/-!
# What is ordered

A request lists products with quantities as they were typed.  Two readings of such a list are made:

* `LineItem.ofInputs`, for a new order: every identifier is well-formed, every quantity positive,
  and lines for one product are added up;
* `Delta.ofInputs`, for a change: quantities may be negative, and lines for one product are added
  up.

Both keep the products in the order of their first appearance.  Sums are taken in 64 bits from left
to right; a line that would leave 64 bits is refused with its own quantity.
-/

namespace OrderDesk

/-- A quantity on an order. -/
abbrev Quantity := Signed32

/-- A line of an order: a product and how many of it. -/
structure LineItem where
  product : ProductId
  quantity : Quantity
deriving DecidableEq

/-- A line of a request, before its product identifier has been read. -/
structure LineInput where
  product : String
  quantity : Signed64
deriving DecidableEq

/-- A change of the quantity of one product. -/
structure Delta where
  product : ProductId
  amount : Signed64
deriving DecidableEq

/-- A request for a new order. -/
structure OrderRequest where
  owner : Option String
  products : List LineInput
deriving DecidableEq

/-- The identifier of a product that a line names. -/
def ProductId.parse (text : String) : Except OrderError ProductId :=
  match Uuid.parse? text with
  | some id => .ok id
  | none => .error (.malformedId .product text)

/-- The owner that a request names; nothing but blanks names nobody. -/
def UserId.parseOwner (raw : Option String) : Except OrderError (Option UserId) :=
  match raw.map Text.trim with
  | none => .ok none
  | some text =>
    if text = "" then .ok none
    else
      match Uuid.parse? text with
      | some id => .ok (some id)
      | none => .error (.malformedId .user text)

namespace Delta

/-- Adds an amount to the line of a product, or a line at the end if there is none. -/
def merge (product : ProductId) (amount : Signed64) : List Delta → Except OrderError (List Delta)
  | [] => .ok [⟨product, amount⟩]
  | d :: rest =>
    if d.product = product then
      match d.amount.add? amount with
      | some sum => .ok (⟨product, sum⟩ :: rest)
      | none => .error (.invalidQuantity product amount)
    else do
      let rest ← merge product amount rest
      return d :: rest

/-- Adds one line of a change to the sums of the lines before it. -/
def addInput (sums : List Delta) (input : LineInput) : Except OrderError (List Delta) := do
  let product ← ProductId.parse input.product
  merge product input.quantity sums

/-- The change of each product in a request. -/
def ofInputs (inputs : List LineInput) : Except OrderError (List Delta) :=
  if inputs.isEmpty then .error .emptyItems else inputs.foldlM addInput []

/-- A line with a quantity that orders can hold. -/
def toItem (d : Delta) : Except OrderError LineItem :=
  match (Bounded.ofInt? d.amount.val : Option Quantity) with
  | some quantity => .ok ⟨d.product, quantity⟩
  | none => .error (.invalidQuantity d.product d.amount)

end Delta

namespace LineItem

/-- Adds one line of a new order, whose quantity has to be positive, to the sums of the lines before
it. -/
def addInput (sums : List Delta) (input : LineInput) : Except OrderError (List Delta) := do
  let product ← ProductId.parse input.product
  if input.quantity.val ≤ 0 then .error (.invalidQuantity product input.quantity)
  else Delta.merge product input.quantity sums

/-- The lines of a new order. -/
def ofInputs (inputs : List LineInput) : Except OrderError (List LineItem) :=
  if inputs.isEmpty then .error .emptyItems
  else do
    let sums ← inputs.foldlM addInput []
    sums.mapM Delta.toItem

end LineItem

end OrderDesk
