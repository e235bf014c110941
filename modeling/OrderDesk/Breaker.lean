/-!
# The circuit breaker

A circuit breaker stands between the service and something that may be down.  While the circuit is
closed calls go through, and enough failures in a row open it.  While it is open calls are turned
away until a cooldown has passed; then the circuit is half open, calls go through as probes, enough
successes close it, and one failure opens it again.

A call has two moments: it is let through or turned away (`Breaker.enter`), and its outcome is
recorded (`Breaker.record`), possibly after other calls have come and gone.  An outcome counts
against the state that it finds.
-/

namespace OrderDesk

/-- Where the circuit stands. -/
inductive CircuitState where
  | closed
  | opened
  | halfOpen
deriving DecidableEq

namespace CircuitState

/-- The number that a gauge shows for the state. -/
def gauge : CircuitState → Nat
  | .closed => 0
  | .opened => 1
  | .halfOpen => 2

/-- The name of the state. -/
def label : CircuitState → String
  | .closed => "closed"
  | .opened => "open"
  | .halfOpen => "half_open"

end CircuitState

/-- When a circuit opens and closes. -/
structure BreakerConfig where
  /-- The failures in a row that open the circuit. -/
  failureThreshold : Nat
  /-- The milliseconds that it stays open. -/
  cooldown : Nat
  /-- The successful probes that close it. -/
  successThreshold : Nat
deriving DecidableEq

/-- Five failures, thirty seconds, two successes. -/
def BreakerConfig.standard : BreakerConfig := ⟨5, 30000, 2⟩

/-- A circuit breaker. -/
structure Breaker where
  state : CircuitState
  failures : Nat
  successes : Nat
  /-- When the circuit last opened, unless it has closed since. -/
  openedAt : Option Nat
deriving DecidableEq

/-- How a call ended, as far as the circuit is concerned. -/
inductive Outcome where
  | success
  | failure
deriving DecidableEq

namespace Breaker

/-- A closed circuit. -/
def closed : Breaker := ⟨.closed, 0, 0, none⟩

/-- Has the cooldown passed? -/
def cooledDown (c : BreakerConfig) (now : Nat) (b : Breaker) : Bool :=
  match b.openedAt with
  | some t => decide (c.cooldown ≤ now - t)
  | none => false

/-- Lets a call through, or turns it away. -/
def enter (c : BreakerConfig) (now : Nat) (b : Breaker) : Option Breaker :=
  if b.state ≠ .opened then some b
  else if b.cooledDown c now then some { b with state := .halfOpen, successes := 0 }
  else none

/-- A call ended well. -/
def succeed (c : BreakerConfig) (b : Breaker) : Breaker :=
  match b.state with
  | .halfOpen =>
    if c.successThreshold ≤ b.successes + 1 then closed else { b with successes := b.successes + 1 }
  | .closed => { b with failures := 0 }
  | .opened => b

/-- A call failed. -/
def fail (c : BreakerConfig) (now : Nat) (b : Breaker) : Breaker :=
  let b := { b with failures := b.failures + 1 }
  match b.state with
  | .closed =>
    if c.failureThreshold ≤ b.failures then { b with state := .opened, openedAt := some now } else b
  | .halfOpen => { b with state := .opened, successes := 0, openedAt := some now }
  | .opened => b

/-- Records how a call ended. -/
def record (c : BreakerConfig) (now : Nat) (b : Breaker) : Outcome → Breaker
  | .success => b.succeed c
  | .failure => b.fail c now

end Breaker

end OrderDesk
