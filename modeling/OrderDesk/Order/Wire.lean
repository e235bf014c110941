import OrderDesk.Json.Decode
import OrderDesk.Order.Basic
import OrderDesk.Timestamp.Text

/-!
# Orders as JSON

What orders look like when they are shown, and how orders and requests about them are read.
-/

namespace OrderDesk

namespace LineItem

/-- A line as it is shown. -/
def toJson (i : LineItem) : Json :=
  .obj [("productId", .str i.product.text), ("quantity", .int i.quantity.val)]

/-- Reads a line. -/
def ofJson? (j : Json) : Option LineItem := do
  let [product, quantity] ← j.record? [["productId"], ["quantity"]] | none
  return ⟨← Json.required? Json.uuid? product, ← Json.required? Json.bounded? quantity⟩

end LineItem

namespace OrderStatus

/-- Reads a status: its name, or an object with the name and nothing in it. -/
def ofJson? : Json → Option OrderStatus
  | .string (some s) => ofLabel? s
  | .object [(some s, .null)] => ofLabel? s
  | _ => none

end OrderStatus

namespace Order

/-- The fields of an order, in the order in which an array lists them. -/
def fields : List (List String) :=
  [["id"], ["products"], ["totalPrice"], ["status"], ["accruedLoyaltyPoints"], ["orderDate"],
    ["userId"]]

/-- An order as it is shown; an order of nobody has no owner field. -/
def toJson (o : Order) : Json :=
  .obj ([("id", .str o.id.text), ("products", .array (o.items.map LineItem.toJson)),
    ("totalPrice", .float o.total.toFloat), ("status", .str o.status.label),
    ("accruedLoyaltyPoints", .int o.accrued.val), ("orderDate", .str o.placedAt.text)] ++
    match o.owner with
    | some owner => [("userId", .str owner.text)]
    | none => [])

/-- Reads an order. -/
def ofJson? (j : Json) : Option Order := do
  let [id, items, total, status, accrued, placedAt, owner] ← j.record? fields | none
  return {
    id := ← Json.required? Json.uuid? id
    items := ← Json.required? (Json.list? LineItem.ofJson?) items
    total := ← Json.required? Json.decimal? total
    status := ← Json.required? OrderStatus.ofJson? status
    accrued := ← Json.required? Json.bounded? accrued
    placedAt := ← Json.required? (fun j => j.str?.bind Timestamp.ofText?) placedAt
    owner := ← Json.withDefault? none (Json.nullable? Json.uuid?) owner }

end Order

namespace LineInput

/-- Reads a line of a request; the product may be missing, the quantity may not. -/
def ofJson? (j : Json) : Option LineInput := do
  let [product, quantity] ← j.record? [["productId"], ["quantity"]] | none
  return ⟨← Json.withDefault? "" Json.str? product, ← Json.required? Json.bounded? quantity⟩

end LineInput

namespace OrderRequest

/-- Reads a request for a new order. -/
def ofJson? (j : Json) : Option OrderRequest := do
  let [owner, products] ← j.record? [["userId"], ["products"]] | none
  return ⟨← Json.withDefault? none (Json.nullable? Json.str?) owner,
    ← Json.withDefault? [] (Json.list? LineInput.ofJson?) products⟩

end OrderRequest

/-- Reads the lines of a request to change an order. -/
def revisionOfJson? (j : Json) : Option (List LineInput) := do
  let [products] ← j.record? [["products"]] | none
  Json.withDefault? [] (Json.list? LineInput.ofJson?) products

/-- Reads the name of the action in a request to change the status of an order. -/
def actionOfJson? (j : Json) : Option String := do
  let [action] ← j.record? [["action"]] | none
  Json.withDefault? "" Json.str? action

end OrderDesk
