import OrderDesk.Demo
import OrderDesk.Scenario.Step
import OrderDesk.Service.Flow

/-!
# The world of a scenario

Besides the service a scenario has a catalog that does as it is told, a clock that only moves when
nothing else can, and the locks of orders that are held.  `World` also keeps what a script may refer
to (the orders and users created so far) and what an answer shows (the questions asked and the
results of hooks).
-/

namespace OrderDesk.Scenario

/-- A catalog that does as it is told. -/
structure ScriptedCatalog (ρ : Type) where
  products : Table Product
  /-- The products that cannot be asked about, and why. -/
  down : Table String
  /-- How many milliseconds a question takes. -/
  delays : Table Nat
  /-- What is played inside the next question. -/
  hooks : Table (List ρ)

namespace ScriptedCatalog

variable {ρ : Type}

/-- A catalog with the given products. -/
def ofProducts (products : List Product) : ScriptedCatalog ρ :=
  ⟨products.foldl (fun t p => t.insert p.id p) .empty, .empty, .empty, .empty⟩

/-- The answer to a question. -/
def answer (c : ScriptedCatalog ρ) (id : ProductId) : Answer :=
  match c.down.get? id with
  | some reason => .error (.unavailable reason)
  | none =>
    match c.products.get? id with
    | some p => .ok p
    | none => .error (.notFound id)

/-- The answer to a question that may take a number of milliseconds. -/
def answerWithin (timeout : Nat) (c : ScriptedCatalog ρ) (id : ProductId) : Answer :=
  if timeout < (c.delays.get? id).getD 0 then .timedOut else c.answer id

end ScriptedCatalog

/-- The orders and users that a script may refer to, the oldest first. -/
structure Created where
  orders : List OrderId
  users : List UserId

/-- What stays the same during a scenario. -/
structure Settings (ρ : Type) where
  /-- Reads a step. -/
  read : Created → ρ → Step ρ
  /-- The milliseconds that a question may take. -/
  timeout : Nat
  /-- When the scenario starts, in nanoseconds since the first of January 1970. -/
  origin : Int
  /-- The identifiers that new orders and users get. -/
  fresh : Nat → Uuid

/-- A question to the catalog, with the authorization that came with it. -/
structure Question where
  product : ProductId
  authorization : Option String

/-- Everything that changes during a scenario. -/
structure World (ρ : Type) where
  service : Service
  catalog : ScriptedCatalog ρ
  /-- Milliseconds since the start. -/
  clock : Nat
  /-- Counts what has happened, so that no two things happen at the same instant. -/
  ticks : Nat
  /-- The slots of the orders that are held. -/
  held : List Nat
  created : Created
  /-- The users created or loaded, the oldest first. -/
  known : List UserId
  /-- How many identifiers have been given out. -/
  given : Nat
  /-- The questions asked during the present step. -/
  questions : List Question
  /-- The results of hooks during the present step. -/
  hooked : List Result

namespace World

variable {ρ : Type}

/-- A world before anything happens. -/
def start (catalog : ScriptedCatalog ρ) : World ρ where
  service := .empty
  catalog := catalog
  clock := 0
  ticks := 0
  held := []
  created := ⟨[], []⟩
  known := []
  given := 0
  questions := []
  hooked := []

/-- The instant of the present moment. -/
def now (w : World ρ) (s : Settings ρ) : Timestamp :=
  .ofNanoseconds (s.origin + w.clock * 1000000 + w.ticks)

/-- Something happens. -/
def tick (w : World ρ) : World ρ := { w with ticks := w.ticks + 1 }

/-- A new state of the service. -/
def withService (w : World ρ) (service : Service) : World ρ := { w with service }

/-- A new state of the catalog. -/
def withCatalog (w : World ρ) (catalog : ScriptedCatalog ρ) : World ρ := { w with catalog }

/-- A user has been created or loaded. -/
def know (w : World ρ) (id : UserId) : World ρ :=
  if w.known.contains id then w else { w with known := w.known ++ [id] }

/-- An order is held from now on. -/
def hold (w : World ρ) (slot : Option Nat) : World ρ := { w with held := slot.toList ++ w.held }

/-- Orders are no longer held. -/
def release (w : World ρ) (slots : List Nat) : World ρ :=
  { w with held := w.held.filter fun slot => !slots.contains slot }

/-- A question is asked; what is to be played inside it is taken off the catalog. -/
def ask (w : World ρ) (q : Question) : World ρ × List ρ :=
  let script := (w.catalog.hooks.get? q.product).getD []
  ({ w with
      questions := w.questions ++ [q]
      catalog := { w.catalog with hooks := w.catalog.hooks.erase q.product } }, script)

end World

end OrderDesk.Scenario
