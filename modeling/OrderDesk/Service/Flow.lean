import OrderDesk.Service.Basic
import OrderDesk.Service.Pricing

/-!
# Operations that ask the catalog

Creating and changing an order need answers from the catalog, and other operations may take place
while the answers are under way.  Such an operation therefore goes through stages.  At each stage it
has questions (`Stage.questions`); with the answers it either comes to an end or goes on to the next
stage (`Stage.resume`).

A new order has one stage.  A change has up to three: the products that it would add are asked for
without holding the order; then the order is held, the change is planned again on what the order has
become, products that are new only now are asked for, and at last all lines are priced.  The state
of the service changes only at the end of an operation, and only if it succeeds.
-/

namespace OrderDesk

/-- Where an order is kept. -/
structure OrderRef where
  id : OrderId
  slot : Nat
deriving DecidableEq

/-- An operation that waits for answers. -/
inductive Stage where
  /-- A new order. -/
  | creating (owner : Option UserId) (items : List LineItem)
  /-- A change of an order that is not held yet. -/
  | validating (ref : OrderRef) (deltas : List Delta) (candidates : List ProductId)
  /-- A change that adds products which nobody asked for so far; the order is held. -/
  | confirming (ref : OrderRef) (revision : Revision) (late : List ProductId)
  /-- A change whose lines are being priced; the order is held. -/
  | pricing (ref : OrderRef) (revision : Revision)

/-- What has become of an operation. -/
inductive Progress where
  /-- It has ended, with a state of the service and a result. -/
  | finished (service : Service) (result : Except OrderError Order)
  /-- It waits for answers again. -/
  | waiting (stage : Stage)

namespace Stage

/-- The products that answers are needed for, in order. -/
def questions : Stage → List ProductId
  | .creating _ items => items.map (·.product)
  | .validating _ _ candidates => candidates
  | .confirming _ _ late => late
  | .pricing _ revision => revision.items.map (·.product)

/-- The slot of the order that is held. -/
def held? : Stage → Option Nat
  | .creating _ _ => none
  | .validating _ _ _ => none
  | .confirming ref _ _ => some ref.slot
  | .pricing ref _ => some ref.slot

/-- How many stages can still come. -/
def rank : Stage → Nat
  | .creating _ _ => 0
  | .validating _ _ _ => 2
  | .confirming _ _ _ => 1
  | .pricing _ _ => 0

/-! ## The stages of a change -/

/-- Looks at the order for the first time: it has to be pending, and the change has to make
sense. -/
def ofOrder (ref : OrderRef) (deltas : List Delta) (o : Order) : Except OrderError Stage := do
  o.requirePending
  let revision ← o.revise deltas
  return .validating ref deltas revision.added

/-- Looks at the order again once it is held, and revises what it has become. -/
def ofHeld (ref : OrderRef) (deltas : List Delta) (validated : List ProductId) (o : Order) :
    Except OrderError Stage := do
  o.requirePending
  let revision ← o.revise deltas
  let late := revision.added.filter fun id => !validated.contains id
  return if late.isEmpty then .pricing ref revision else .confirming ref revision late

/-- Gives the order its new lines and total. -/
def commit (s : Service) (ref : OrderRef) (revision : Revision) (total : Decimal) (o : Order) :
    Service × Except OrderError Order :=
  match o.execute (.replaceItems revision.items total) with
  | .error e => (s, .error e)
  | .ok (o, _) => ({ s with orders := s.orders.put ref.slot o }, .ok o)

/-- Ends an operation with a result that leaves the service alone. -/
def fail (s : Service) (e : OrderError) : Progress := .finished s (.error e)

/-- The slot that has to be free before the answers can be used. -/
def needs? (stage : Stage) (answers : List Answer) : Option Nat :=
  match stage with
  | .validating ref _ candidates =>
    match judge candidates answers with
    | .ok _ => some ref.slot
    | .error _ => none
  | _ => none

/-- Goes on with the answers to the questions of a stage.  A new order gets the identifier `fresh`
and the date `now`. -/
def resume (fresh : OrderId) (now : Timestamp) (s : Service) (answers : List Answer) :
    Stage → Progress
  | .creating owner items =>
    match judge (items.map (·.product)) answers with
    | .error e => fail s e
    | .ok products =>
      match totalOf products items with
      | .error e => fail s e
      | .ok total =>
        let (s, result) := s.insertOrder (.place fresh now owner items total)
        .finished s result
  | .validating ref deltas candidates =>
    match judge candidates answers with
    | .error e => fail s e
    | .ok _ =>
      match s.orders.atSlot? ref.slot with
      | none => fail s (.notFound ref.id)
      | some o =>
        match ofHeld ref deltas candidates o with
        | .error e => fail s e
        | .ok stage => .waiting stage
  | .confirming ref revision late =>
    match judge late answers with
    | .error e => fail s e
    | .ok _ => .waiting (.pricing ref revision)
  | .pricing ref revision =>
    match price revision.items answers with
    | .error e => fail s e
    | .ok total =>
      match s.orders.atSlot? ref.slot with
      | none => fail s (.notFound ref.id)
      | some o =>
        let (s, result) := commit s ref revision total o
        .finished s result

/-- Each stage is nearer to the end than the one before it. -/
theorem rank_lt_of_resume {fresh : OrderId} {now : Timestamp} {s : Service} {answers : List Answer}
    {stage next : Stage} (h : resume fresh now s answers stage = .waiting next) :
    next.rank < stage.rank := by
  cases stage with
  | creating owner items =>
    simp only [resume, fail] at h
    split at h
    · cases h
    · split at h <;> cases h
  | validating ref deltas candidates =>
    simp only [resume, fail] at h
    split at h
    · cases h
    · split at h
      · cases h
      · next o _ =>
        split at h
        · cases h
        · next stage hs =>
          cases h
          simp only [ofHeld, bind, Except.bind, pure, Except.pure] at hs
          split at hs
          · cases hs
          · split at hs
            · cases hs
            · cases hs
              split <;> simp [rank]
  | confirming ref revision late =>
    simp only [resume, fail] at h
    split at h
    · cases h
    · cases h
      simp [rank]
  | pricing ref revision =>
    simp only [resume, fail] at h
    split at h
    · cases h
    · split at h <;> cases h

end Stage

namespace Service

/-- Starts a new order. -/
def beginCreate (r : OrderRequest) : Except OrderError Stage := do
  let owner ← UserId.parseOwner r.owner
  let items ← LineItem.ofInputs r.products
  return .creating owner items

/-- The order and the change that a request to change an order is about. -/
def revisionTarget (s : Service) (id : OrderId) (inputs : List LineInput) :
    Except OrderError (OrderRef × List Delta) := do
  let deltas ← Delta.ofInputs inputs
  match s.orders.slot? id with
  | some slot => return (⟨id, slot⟩, deltas)
  | none => .error (.notFound id)

/-- Looks at an order for the first time. -/
def beginRevisionAt (s : Service) (ref : OrderRef) (deltas : List Delta) :
    Except OrderError Stage :=
  match s.orders.atSlot? ref.slot with
  | some o => Stage.ofOrder ref deltas o
  | none => .error (.notFound ref.id)

/-- Starts a change of an order. -/
def beginRevision (s : Service) (id : OrderId) (inputs : List LineInput) :
    Except OrderError Stage := do
  let (ref, deltas) ← s.revisionTarget id inputs
  s.beginRevisionAt ref deltas

/-! ## Operations from start to end -/

/-- Goes through all stages of an operation, with nothing else happening meanwhile.  `ask` gets the
answers for a list of products from a catalog, and may change the catalog. -/
def settle {κ : Type} (ask : κ → List ProductId → κ × List Answer) (fresh : OrderId)
    (now : Timestamp) (catalog : κ) (s : Service) (stage : Stage) :
    κ × Service × Except OrderError Order :=
  let asked := ask catalog stage.questions
  match _h : stage.resume fresh now s asked.2 with
  | .finished s result => (asked.1, s, result)
  | .waiting next => settle ask fresh now asked.1 s next
termination_by stage.rank
decreasing_by exact Stage.rank_lt_of_resume _h

/-- Goes through an operation that may fail at once. -/
def run {κ : Type} (ask : κ → List ProductId → κ × List Answer) (fresh : OrderId) (now : Timestamp)
    (catalog : κ) (s : Service) (start : Except OrderError Stage) :
    κ × Service × Except OrderError Order :=
  match start with
  | .error e => (catalog, s, .error e)
  | .ok stage => s.settle ask fresh now catalog stage

/-- Creates an order. -/
def createOrder {κ : Type} (ask : κ → List ProductId → κ × List Answer) (fresh : OrderId)
    (now : Timestamp) (catalog : κ) (s : Service) (r : OrderRequest) :
    κ × Service × Except OrderError Order :=
  s.run ask fresh now catalog (beginCreate r)

/-- Changes the lines of an order. -/
def reviseOrder {κ : Type} (ask : κ → List ProductId → κ × List Answer) (now : Timestamp)
    (catalog : κ) (s : Service) (id : OrderId) (inputs : List LineInput) :
    κ × Service × Except OrderError Order :=
  s.run ask .nil now catalog (s.beginRevision id inputs)

end Service

end OrderDesk
