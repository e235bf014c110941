import OrderDesk.Api.Desk
import OrderDesk.Catalog.Remote

/-!
# Where products come from

The desk asks the built-in catalog or a product service elsewhere.
-/

namespace OrderDesk

namespace Supplier

/-- Asks the built-in catalog, which asks nobody and changes nothing. -/
def builtIn : Supplier Assortment where
  ask _ state ids := (state, ids.map state.1.answer)
  health c now := c.health now

/-- Asks a product service elsewhere at a time given in milliseconds.  What changes is the circuit
breaker in front of the service. -/
def remote (c : RemoteConfig) (exchange : RemoteRequest → Reply) (time : Nat) :
    Supplier Breaker where
  ask caller state ids :=
    let (s, answers) := Remote.lookUp c exchange caller time ⟨state.1, state.2⟩ ids
    ((s.breaker, s.metrics), answers)
  health b now := Remote.health c b now

end Supplier

end OrderDesk
