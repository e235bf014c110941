import OrderDesk.Catalog.Product
import OrderDesk.Order.Basic

/-!
# Judging and pricing lines

Questions to the catalog are asked about all products of a phase at once, and only then are the
answers judged, in the order of the questions.

* `judge` checks that everything can be bought.  A catalog that cannot be asked weighs most, then
  products that do not exist, then products that are not for sale; all products of the deciding kind
  are named.
* `price` adds up lines from left to right.  Any answer but a product counts as a catalog that
  cannot be asked, and so does a price that takes the total out of range.
-/

namespace OrderDesk

/-- What is wrong with the answers about some products. -/
structure Complaints where
  /-- The first reason why the catalog could not be asked. -/
  unavailable : Option String
  missing : List ProductId
  notForSale : List ProductId

namespace Complaints

/-- Notes one answer. -/
def note (c : Complaints) (q : ProductId × Answer) : Complaints :=
  match q.2 with
  | .ok _ => c
  | .error (.notFound _) => { c with missing := c.missing ++ [q.1] }
  | .error (.notPurchasable _ _) => { c with notForSale := c.notForSale ++ [q.1] }
  | .error (.unavailable reason) => { c with unavailable := c.unavailable.or (some reason) }

/-- What is wrong with all answers together. -/
def ofAnswers (qs : List (ProductId × Answer)) : Complaints := qs.foldl note ⟨none, [], []⟩

/-- The failure that the complaints amount to. -/
def failure? (c : Complaints) : Option OrderError :=
  match c.unavailable with
  | some reason => some (.catalogUnavailable reason)
  | none =>
    if c.missing ≠ [] then some (.invalidProducts c.missing)
    else if c.notForSale ≠ [] then some (.notPurchasable c.notForSale)
    else none

end Complaints

/-- The products that were asked about, if all of them can be bought. -/
def judge (ids : List ProductId) (answers : List Answer) :
    Except OrderError (List (ProductId × Product)) :=
  let judged := List.zipWith (fun id a => (id, Answer.forSale id a)) ids answers
  match (Complaints.ofAnswers judged).failure? with
  | some e => .error e
  | none => .ok (judged.filterMap fun (id, a) => a.toOption.map fun p => (id, p))

/-- The total with one line more. -/
def charge (total : Decimal) (p : Product) (quantity : Quantity) : Except OrderError Decimal :=
  let sum? := do
    let n ← Decimal.ofInt? quantity.val
    let line ← p.price.mul? n
    total.add? line
  match sum? with
  | some total => .ok total
  | none =>
    .error (.catalogUnavailable ("price of product " ++ p.id.text ++ " overflows the order total"))

/-- The total of lines whose products are known; a line of an unknown product counts nothing. -/
def totalOf (products : List (ProductId × Product)) (items : List LineItem) :
    Except OrderError Decimal :=
  items.foldlM (fun total item =>
    match products.lookup item.product with
    | some p => charge total p item.quantity
    | none => .ok total) Decimal.zero

/-- The total with a line more, for which the catalog gave an answer. -/
def chargeAnswer (total : Decimal) (line : LineItem × Answer) : Except OrderError Decimal :=
  match line.2 with
  | .ok p => charge total p line.1.quantity
  | .error (.unavailable reason) => .error (.catalogUnavailable reason)
  | .error e => .error (.catalogUnavailable e.message)

/-- The total of lines, with an answer for each of them. -/
def price (items : List LineItem) (answers : List Answer) : Except OrderError Decimal :=
  (items.zip answers).foldlM chargeAnswer Decimal.zero

end OrderDesk
