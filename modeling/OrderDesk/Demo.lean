import OrderDesk.Catalog.Assortment
import OrderDesk.Service.Basic

/-!
# Demo data

Three users and three orders that the service may start with.  The orders are for built-in products
and belong to the users.
-/

namespace OrderDesk.Demo

/-- The identifiers of demo users share all digits but the last. -/
def userId (n : Nat) : UserId := Uuid.ofNat (0x750e8400e29b41d4a716446655440000 + n)

/-- The identifiers of demo orders share all digits but the last. -/
def orderId (n : Nat) : OrderId := Uuid.ofNat (0x650e8400e29b41d4a716446655440000 + n)

/-- A demo order; its total is given in hundredths. -/
def order (now : Timestamp) (n owner : Nat) (status : OrderStatus)
    (items : List (Nat × Nat)) (cents : UInt32) (daysAgo : Nat) : Order where
  id := orderId n
  items := items.filterMap fun (product, quantity) =>
    (Bounded.ofInt? quantity).map fun q => ⟨Assortment.productId product, q⟩
  total := .ofHundredths cents
  status := status
  accrued := .zero
  placedAt := now.minusDays daysAgo
  owner := some (userId owner)

/-- The demo orders. -/
def orders (now : Timestamp) : List Order :=
  [order now 0 0 .pending [(0, 1), (1, 2)] 135997 5,
    order now 1 0 .shipped [(2, 3)] 14997 3,
    order now 2 1 .processing [(3, 5), (4, 1)] 17994 1]

/-- The registrations of the demo users, with their points. -/
def registrations : List (Nat × Registration × Nat) :=
  [(0, ⟨"johndoe", "john.doe@example.com", "John", "Doe"⟩, 1500),
    (1, ⟨"janedoe", "jane.doe@example.com", "Jane", "Doe"⟩, 2300),
    (2, ⟨"bobsmith", "bob.smith@example.com", "Bob", "Smith"⟩, 500)]

/-- A demo user together with the demo orders placed for them. -/
def account (now : Timestamp) (n : Nat) (r : Registration) (points : Nat) :
    Except UserError Account := do
  let user ← User.register (userId n) now r
  let owned := (orders now).filter fun o => o.owner = some (userId n)
  return ⟨{ user with points := Unsigned64.ofNatSaturating points }, owned.map (·.id)⟩

/-- The demo users. -/
def accounts (now : Timestamp) : Except UserError (List Account) :=
  registrations.mapM fun (n, r, points) => account now n r points

/-- Loads the demo users, each in the place of a user with the same identifier, and the demo orders
that are not there yet. -/
def load (now : Timestamp) (s : Service) : Except UserError Service := do
  let accounts ← accounts now
  return {
    users := accounts.foldl (fun users a => users.insert a.user.id a) s.users
    orders := (orders now).foldl (fun book o => book.load o) s.orders }

/-- The demo data can be loaded, whatever the date is. -/
theorem exists_load (now : Timestamp) : ∃ s, load now .empty = .ok s := by
  have hok : (load now .empty).isOk := rfl
  cases h : load now .empty with
  | error e => cases h ▸ hok
  | ok s => exact ⟨s, rfl⟩

end OrderDesk.Demo
