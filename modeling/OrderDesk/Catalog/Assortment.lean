import OrderDesk.Catalog.Product
import OrderDesk.Health

/-!
# The built-in catalog

A fixed list of products.  It is listed in its own order; when two products share an identifier the
later one is found.  It always answers, so it is always healthy.
-/

namespace OrderDesk

/-- A catalog inside the service. -/
structure Assortment where
  products : List Product

namespace Assortment

/-- A catalog without products. -/
def empty : Assortment := ⟨[]⟩

/-- The product with an identifier. -/
def get? (c : Assortment) (id : ProductId) : Option Product :=
  c.products.reverse.find? (·.id = id)

/-- What the catalog says about a product. -/
def answer (c : Assortment) (id : ProductId) : Answer :=
  match c.get? id with
  | some p => .ok p
  | none => .error (.notFound id)

/-- The first products, `limit` of them at most. -/
def list (c : Assortment) (limit : Nat) : List Product := c.products.take limit

/-- The number of products. -/
def size (c : Assortment) : Nat := c.products.length

/-- The health of the catalog, with the number of its products. -/
def health (c : Assortment) (now : Timestamp) : ComponentHealth :=
  ⟨"catalog", .healthy, now, some (toString c.size ++ " products loaded")⟩

/-- The milliseconds that a question may take unless something else is asked for. -/
def timeout : Nat := 5000

/-! ## The products for sale -/

/-- The identifiers of the built-in products share all digits but the last. -/
def productId (n : Nat) : ProductId := Uuid.ofNat (0x550e8400e29b41d4a716446655440000 + n)

/-- A built-in product; its price is given in hundredths. -/
def product (n : Nat) (name description : String) (cents : UInt32) (category : String)
    (available : Bool) : Product where
  id := productId n
  name := name
  description := some description
  price := .ofHundredths cents
  category := some category
  available := available

/-- The built-in products. -/
def builtIn : Assortment where
  products := [
    product 0 "Laptop" "High-performance laptop for professionals" 129999 "Electronics" true,
    product 1 "Wireless Mouse" "Ergonomic wireless mouse with precision tracking" 2999 "Electronics"
      true,
    product 2 "Desk Lamp" "LED desk lamp with adjustable brightness" 4999 "Office" false,
    product 3 "Notebook" "Premium leather-bound notebook" 1999 "Office" true,
    product 4 "Coffee Maker" "Programmable coffee maker with timer" 7999 "Kitchen" true]

end Assortment

end OrderDesk
