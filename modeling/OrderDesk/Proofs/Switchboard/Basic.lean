import OrderDesk.Service.Flow

/-!
# Calls that are under way at the same time

Many callers use the service at once.  Each call goes through the service in steps; between two
steps of one call, steps of other calls may take place, in any order.  A `Switchboard` is the state
of the service together with the calls that have begun, and `Switchboard.step` lets one call begin
or go one step further.

A step never blocks: it is possible or it is not.  It is not possible while an order that it needs
is held by another call, and a call that waits for answers of the catalog goes on only with an
answer to each of its questions.  What the catalog answers, which identifiers are given out, what
time it is and which call comes next is all up to the list of events, so that a statement about
every run (`Switchboard.run`) is one about every catalog, every clock and every order of steps.

* A change of an order looks at the order, asks the catalog, looks again and only then holds it.
* A change of status finds its order first and waits until it is free.
* A deletion removes the user, and afterwards goes through the orders noted for the user one by one,
  each time waiting until the order is free.
* Every other call is over in the step in which it begins.

Calls that only read are left out: they change nothing.
-/

namespace OrderDesk

/-- Calls are told apart by identifiers. -/
abbrev CallId := Uuid

/-- What a caller may ask for. -/
inductive Request where
  | create (r : OrderRequest)
  | revise (id : OrderId) (inputs : List LineInput)
  | act (id : OrderId) (action : OrderAction)
  | register (r : Registration)
  | redeem (id : UserId) (points : Signed64)
  | award (id : UserId) (points : Unsigned64)
  | deleteUser (id : UserId)

/-- What a caller gets. -/
inductive CallResult where
  | order (r : Except OrderError Order)
  | user (r : Except UserError User)
  | points (r : Except UserError Unsigned64)
  | deleted (r : Except UserError (List OrderId))

/-- Is it a failure? -/
def CallResult.isFailure : CallResult → Bool
  | .order r => !r.isOk
  | .user r => !r.isOk
  | .points r => !r.isOk
  | .deleted r => !r.isOk

/-- How far a call has come. -/
inductive Call where
  /-- A change that has found its order and will look at it. -/
  | looking (ref : OrderRef) (deltas : List Delta)
  /-- An operation that waits for answers. -/
  | asking (stage : Stage)
  /-- A change of status that has found its order. -/
  | acting (ref : OrderRef) (action : OrderAction)
  /-- A deletion that has yet to look for the orders `rest`, and has cancelled the orders `done`. -/
  | cascading (rest done : List OrderId)
  /-- A deletion that has found the next of its orders. -/
  | cancelling (ref : OrderRef) (rest done : List OrderId)
  /-- A call that is over. -/
  | ended (result : CallResult)

namespace Request

/-- A call that is over in its first step. -/
def atOnce {ε α : Type} (result : Except ε α → CallResult) (r : Service × Except ε α) :
    Service × Call :=
  (r.1, .ended (result r.2))

/-- The first step of a call.  A new user gets the identifier `fresh`. -/
def start (fresh : Uuid) (now : Timestamp) (s : Service) : Request → Service × Call
  | .create r =>
    match Service.beginCreate r with
    | .ok stage => (s, .asking stage)
    | .error e => (s, .ended (.order (.error e)))
  | .revise id inputs =>
    match s.revisionTarget id inputs with
    | .ok (ref, deltas) => (s, .looking ref deltas)
    | .error e => (s, .ended (.order (.error e)))
  | .act id action =>
    match s.orders.slot? id with
    | some slot => (s, .acting ⟨id, slot⟩ action)
    | none => (s, .ended (.order (.error (.notFound id))))
  | .register r => atOnce .user (s.register fresh now r)
  | .redeem id points => atOnce .points (s.redeem id now points)
  | .award id points => atOnce .points (s.award id now points)
  | .deleteUser id =>
    match s.removeUser id with
    | (s, .ok ids) => (s, .cascading ids [])
    | (s, .error e) => (s, .ended (.deleted (.error e)))

end Request

namespace Call

/-- The result of a call that is over. -/
def result? : Call → Option CallResult
  | .ended result => some result
  | _ => none

theorem result?_eq_some_iff {c : Call} {result : CallResult} :
    c.result? = some result ↔ c = .ended result := by
  cases c <;> simp [result?]

/-- The products that answers are needed for, in order. -/
def questions : Call → List ProductId
  | .asking stage => stage.questions
  | _ => []

/-- The slot of the order that is held. -/
def held? : Call → Option Nat
  | .asking stage => stage.held?
  | _ => none

/-- The slot of the order that has to be free for the next step. -/
def needs? (answers : List Answer) : Call → Option Nat
  | .looking ref _ => some ref.slot
  | .asking stage => stage.needs? answers
  | .acting ref _ => some ref.slot
  | .cancelling ref _ _ => some ref.slot
  | .cascading _ _ => none
  | .ended _ => none

/-- The next step of a call, with answers to its questions.  A new order gets the identifier
`fresh`. -/
def advance (fresh : Uuid) (now : Timestamp) (answers : List Answer) (s : Service) :
    Call → Service × Call
  | .looking ref deltas =>
    match s.beginRevisionAt ref deltas with
    | .ok stage => (s, .asking stage)
    | .error e => (s, .ended (.order (.error e)))
  | .asking stage =>
    match stage.resume fresh now s answers with
    | .finished s result => (s, .ended (.order result))
    | .waiting next => (s, .asking next)
  | .acting ref action =>
    match s.orders.atSlot? ref.slot with
    | none => (s, .ended (.order (.error (.notFound ref.id))))
    | some o => Request.atOnce .order (s.actOnSlot ref.slot action o now)
  | .cascading [] done => (s, .ended (.deleted (.ok done)))
  | .cascading (id :: rest) done =>
    match s.orders.slot? id with
    | none => (s, .cascading rest done)
    | some slot => (s, .cancelling ⟨id, slot⟩ rest done)
  | .cancelling ref rest done =>
    let (orders, cancelled) := s.orders.cancelSlot ref.slot
    ({ s with orders }, .cascading rest (if cancelled then done ++ [ref.id] else done))
  | .ended result => (s, .ended result)

end Call

/-- A request and how far its call has come. -/
structure Switchboard.Entry where
  request : Request
  call : Call

/-- The service and the calls that have begun. -/
structure Switchboard where
  service : Service
  calls : Table Switchboard.Entry

/-- Something that happens: a call begins, or goes on with answers to its questions. -/
inductive Switchboard.Event where
  | start (id : CallId) (request : Request) (fresh : Uuid) (now : Timestamp)
  | advance (id : CallId) (answers : List Answer) (fresh : Uuid) (now : Timestamp)

/-- The call to which it happens. -/
def Switchboard.Event.call : Switchboard.Event → CallId
  | .start id _ _ _ => id
  | .advance id _ _ _ => id

namespace Switchboard

/-- The service before the first call. -/
def ofService (s : Service) : Switchboard := ⟨s, .empty⟩

/-- No call holds the order in a slot. -/
def Free (b : Switchboard) (slot : Nat) : Prop := ∀ e ∈ b.calls.values, e.call.held? ≠ some slot

instance (b : Switchboard) (slot : Nat) : Decidable (b.Free slot) :=
  inferInstanceAs (Decidable (∀ e ∈ b.calls.values, e.call.held? ≠ some slot))

/-- A call can go on with these answers. -/
def Ready (b : Switchboard) (c : Call) (answers : List Answer) : Prop :=
  c.result?.isNone ∧ answers.length = c.questions.length ∧ ∀ slot ∈ c.needs? answers, b.Free slot

instance (b : Switchboard) (c : Call) (answers : List Answer) : Decidable (b.Ready c answers) :=
  inferInstanceAs (Decidable (_ ∧ _ ∧ ∀ slot ∈ c.needs? answers, b.Free slot))

/-- The state after an event, if the event is possible. -/
def step (b : Switchboard) : Event → Option Switchboard
  | .start id request fresh now =>
    if b.calls.contains id then none
    else
      let (service, call) := request.start fresh now b.service
      some ⟨service, b.calls.insert id ⟨request, call⟩⟩
  | .advance id answers fresh now =>
    match b.calls.get? id with
    | none => none
    | some e =>
      if b.Ready e.call answers then
        let (service, call) := e.call.advance fresh now answers b.service
        some ⟨service, b.calls.insert id ⟨e.request, call⟩⟩
      else none

/-- The state after events, if all of them are possible. -/
def run (b : Switchboard) : List Event → Option Switchboard
  | [] => some b
  | e :: es => (b.step e).bind fun b => b.run es

/-! ## Small facts -/

variable {b b' b'' : Switchboard} {e : Event} {es : List Event}

theorem step_start_eq_some_iff {id : CallId} {request : Request} {fresh : Uuid} {now : Timestamp} :
    b.step (.start id request fresh now) = some b' ↔
      b.calls.get? id = none ∧ b' = ⟨(request.start fresh now b.service).1,
        b.calls.insert id ⟨request, (request.start fresh now b.service).2⟩⟩ := by
  rw [step]
  split
  · next hcontains =>
    have hsome : (b.calls.get? id).isSome := hcontains
    constructor
    · intro h
      cases h
    · rintro ⟨hnone, -⟩
      rw [hnone] at hsome
      cases hsome
  · next hcontains =>
    have hnone : b.calls.get? id = none := by simpa [Table.contains] using hcontains
    exact ⟨fun h => ⟨hnone, (Option.some.inj h).symm⟩, fun h => congrArg some h.2.symm⟩

theorem step_advance_eq_some_iff {id : CallId} {answers : List Answer} {fresh : Uuid}
    {now : Timestamp} :
    b.step (.advance id answers fresh now) = some b' ↔
      ∃ entry, b.calls.get? id = some entry ∧ b.Ready entry.call answers ∧
        b' = ⟨(entry.call.advance fresh now answers b.service).1,
          b.calls.insert id
            ⟨entry.request, (entry.call.advance fresh now answers b.service).2⟩⟩ := by
  rw [step]
  cases b.calls.get? id with
  | none =>
    constructor
    · intro h
      cases h
    · rintro ⟨entry, hentry, -⟩
      cases hentry
  | some entry =>
    dsimp only
    by_cases hready : b.Ready entry.call answers
    · rw [if_pos hready]
      constructor
      · intro h
        exact ⟨entry, rfl, hready, (Option.some.inj h).symm⟩
      · rintro ⟨entry', hentry', -, rfl⟩
        cases hentry'
        rfl
    · rw [if_neg hready]
      constructor
      · intro h
        cases h
      · rintro ⟨entry', hentry', hready', -⟩
        cases hentry'
        exact absurd hready' hready

theorem run_cons_eq_some_iff :
    b.run (e :: es) = some b'' ↔ ∃ b', b.step e = some b' ∧ b'.run es = some b'' := by
  rw [run, Option.bind_eq_some_iff]

theorem run_append (es es' : List Event) :
    b.run (es ++ es') = (b.run es).bind fun b => b.run es' := by
  induction es generalizing b with
  | nil => rfl
  | cons e es ih =>
    rw [List.cons_append, run, run, Option.bind_assoc]
    simp only [ih]

/-! ## A rehearsal

Tea is ordered, and two callers want more of it at the same time. -/

namespace Rehearsal

def midnight : Timestamp := ⟨0, 0, 0⟩

def tea : Product := ⟨.ofNat 7, "Tea", none, .ofHundredths 250, none, true⟩

def line (quantity : Signed64) : LineInput := ⟨"00000000-0000-0000-0000-000000000007", quantity⟩

def one : Signed64 := ⟨1, by decide, by decide⟩

def two : Signed64 := ⟨2, by decide, by decide⟩

def call (n : Nat) : CallId := .ofNat n

def order (n : Nat) : OrderId := .ofNat n

/-- One tea is ordered. -/
def ordering : List Event :=
  [.start (call 1) (.create ⟨none, [line one]⟩) .nil midnight,
    .advance (call 1) [.ok tea] (order 1) midnight]

/-- One caller wants one tea more and another one two more; both look at the order. -/
def looking : List Event :=
  [.start (call 2) (.revise (order 1) [line one]) .nil midnight,
    .start (call 3) (.revise (order 1) [line two]) .nil midnight,
    .advance (call 2) [] .nil midnight, .advance (call 3) [] .nil midnight]

/-- The later caller comes first. -/
def overtaking : List Event :=
  [.advance (call 3) [] .nil midnight, .advance (call 3) [.ok tea] .nil midnight,
    .advance (call 2) [] .nil midnight, .advance (call 2) [.ok tea] .nil midnight]

/-- While a caller waits to change the order, another one cancels it. -/
def cancelling : List Event :=
  [.start (call 4) (.revise (order 1) [line one]) .nil midnight,
    .advance (call 4) [] .nil midnight, .start (call 5) (.act (order 1) .cancel) .nil midnight,
    .advance (call 5) [] .nil midnight, .advance (call 4) [] .nil midnight]

example : ((ofService .empty).run (ordering ++ looking ++ overtaking)).map
    (fun b => b.service.orders.orders.map fun o => o.items.map (·.quantity.val)) =
      some [[4]] := by decide

end Rehearsal

end Switchboard

end OrderDesk
