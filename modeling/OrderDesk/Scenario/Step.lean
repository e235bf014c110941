import OrderDesk.Catalog.Product
import OrderDesk.Service.Basic

/-!
# The steps of a scenario

A scenario plays a script against the service.  A step is an operation of the service or a change
of the scripted catalog.  Scripts are kept in a raw form `ρ` and read one step at a time, because
what a step means may depend on the orders and users created before it.
-/

namespace OrderDesk.Scenario

/-- One step of a scenario. -/
inductive Step (ρ : Type) where
  /-- The catalog changes a price. -/
  | setPrice (id : ProductId) (price : Decimal)
  /-- The catalog offers a product or withdraws it. -/
  | setAvailable (id : ProductId) (available : Bool)
  /-- The catalog takes in a product. -/
  | putProduct (p : Product)
  /-- The catalog forgets a product. -/
  | dropProduct (id : ProductId)
  /-- Questions about a product fail from now on. -/
  | down (id : ProductId) (reason : String)
  /-- Questions about a product no longer fail. -/
  | up (id : ProductId)
  /-- Questions about a product take a number of milliseconds. -/
  | slow (id : ProductId) (ms : Nat)
  /-- The next question about a product plays a script before it is answered. -/
  | hook (id : ProductId) (script : List ρ)
  | register (r : Registration)
  | loadUser (id : UserId) (r : Registration) (points : Unsigned64) (orders : List OrderId)
  | user (id : UserId)
  | overview (id : UserId)
  | points (id : UserId)
  | redeem (id : UserId) (points : Signed64)
  | award (id : UserId) (points : Unsigned64)
  | deleteUser (id : UserId)
  | countUsers
  /-- Notes an order with a user. -/
  | noteOrder (id : UserId) (order : OrderId)
  /-- The orders noted with a user. -/
  | notedOrders (id : UserId)
  /-- Credits points, if there is such a user. -/
  | credit (id : UserId) (points : Unsigned64)
  | createOrder (r : OrderRequest) (auth : Option String)
  | order (id : OrderId)
  | listOrders
  | ordersOf (id : UserId)
  | revise (id : OrderId) (inputs : List LineInput) (auth : Option String)
  | act (id : OrderId) (action : OrderAction)
  | insertOrder (o : Order)
  | loadOrder (o : Order)
  /-- An order as it is kept, if it is. -/
  | findOrder (id : OrderId)
  | countOrders
  | cancelAmong (ids : List OrderId)
  | ordersAmong (ids : List OrderId)
  | loadDemo

/-- The result of a step. -/
inductive Result where
  | done
  | user (r : Except UserError User)
  | overview (r : Except UserError UserOverview)
  | points (r : Except UserError Unsigned64)
  | deleted (r : Except UserError (List OrderId))
  | count (n : Nat)
  | flag (b : Bool)
  | ids? (ids : Option (List OrderId))
  | balance? (points : Option Unsigned64)
  | order (r : Except OrderError Order)
  | listed (orders : List Order)
  | ordersOf (r : Except OrderError (List Order))
  | found (o : Option Order)
  | total (n : Nat)
  | cancelled (ids : List OrderId)
  | orders (os : List Order)
  | demo (users orders : Nat)

end OrderDesk.Scenario
