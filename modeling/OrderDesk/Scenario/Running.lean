import OrderDesk.Scenario.World

/-!
# Steps that are under way

A step may have to wait: for an order that is held, or for answers of the catalog.  A question takes
as long as the catalog says, may play a script before it is answered, and is given up when its time
is over; whatever was going on inside it then stops where it is, and the orders held there are free
again.

`Running.poll` lets a step do all it can at the present moment; the questions of a stage take turns
in the order of their products.
-/

namespace OrderDesk.Scenario

/-- Where an order to be read is found. -/
inductive Target where
  | id (id : OrderId)
  | slot (slot : Nat)

/-- What becomes of orders that have been read. -/
inductive ReadPurpose where
  | order (id : OrderId)
  | found
  | listed
  | ordersOf
  | overview (user : User)
  | orders

/-- Orders that are read one after the other. -/
structure Reading where
  rest : List Target
  done : List Order
  purpose : ReadPurpose

/-- What becomes of the identifiers of orders that have been cancelled. -/
inductive CancelPurpose where
  | deleted
  | cancelled

/-- Orders that are cancelled one after the other. -/
structure Cancelling where
  rest : List OrderId
  done : List OrderId
  purpose : CancelPurpose

/-- What happens as soon as an order is free. -/
inductive Act where
  | revise (ref : OrderRef) (deltas : List Delta) (auth : Option String)
  | resume (stage : Stage) (auth : Option String) (answers : List Answer)
  | change (ref : OrderRef) (action : OrderAction)
  | read (r : Reading)
  | cancel (id : OrderId) (c : Cancelling)

mutual

/-- A step that is under way. -/
inductive Running (ρ : Type) where
  | done (r : Result)
  /-- It waits for the order in a slot. -/
  | blocked (slot : Nat) (act : Act)
  /-- It waits for answers. -/
  | asking (stage : Stage) (auth : Option String) (lookups : List (Lookup ρ))

/-- A question that is under way. -/
inductive Lookup (ρ : Type) where
  | unasked (id : ProductId)
  /-- A script is played inside it. -/
  | hooked (id : ProductId) (deadline : Nat) (current : Running ρ) (rest : List ρ)
  /-- The answer comes at a certain time. -/
  | delayed (id : ProductId) (deadline wake : Nat)
  | answered (a : Answer)

end

variable {ρ : Type}

/-! ## What is under way -/

mutual

/-- The orders that a step holds. -/
def Running.holds : Running ρ → List Nat
  | .done _ => []
  | .blocked _ _ => []
  | .asking stage _ lookups => stage.held?.toList ++ holdsAll lookups

/-- The orders that a question holds. -/
def Lookup.holds : Lookup ρ → List Nat
  | .hooked _ _ current _ => current.holds
  | .unasked _ => []
  | .delayed _ _ _ => []
  | .answered _ => []

/-- The orders that questions hold. -/
def holdsAll : List (Lookup ρ) → List Nat
  | [] => []
  | l :: rest => l.holds ++ holdsAll rest

end

mutual

/-- The times at which something will happen to a step by itself. -/
def Running.timers : Running ρ → List Nat
  | .done _ => []
  | .blocked _ _ => []
  | .asking _ _ lookups => timersAll lookups

/-- The times at which something will happen to a question by itself. -/
def Lookup.timers : Lookup ρ → List Nat
  | .hooked _ deadline current _ => deadline :: current.timers
  | .delayed _ deadline wake => [deadline, wake]
  | .unasked _ => []
  | .answered _ => []

/-- The times at which something will happen to questions by themselves. -/
def timersAll : List (Lookup ρ) → List Nat
  | [] => []
  | l :: rest => l.timers ++ timersAll rest

end

/-- The answers to questions, if all of them are answered. -/
def answers? : List (Lookup ρ) → Option (List Answer)
  | [] => some []
  | .answered a :: rest => (answers? rest).map (a :: ·)
  | _ :: _ => none

/-! ## Reading and cancelling -/

/-- The result of a reading. -/
def Reading.result (r : Reading) : Result :=
  match r.purpose with
  | .order id =>
    .order (match r.done with
      | o :: _ => .ok o
      | [] => .error (.notFound id))
  | .found => .found r.done.head?
  | .listed => .listed r.done
  | .ordersOf => .ordersOf (.ok r.done)
  | .overview user => .overview (.ok ⟨user, r.done⟩)
  | .orders => .orders r.done

/-- Reads orders until one is held. -/
def readAll (w : World ρ) (purpose : ReadPurpose) (done : List Order) : List Target → Running ρ
  | [] => .done (Reading.result ⟨[], done, purpose⟩)
  | t :: rest =>
    let slot? :=
      match t with
      | .id id => w.service.orders.slot? id
      | .slot slot => some slot
    match slot? with
    | none => readAll w purpose done rest
    | some slot =>
      if w.held.contains slot then .blocked slot (.read ⟨.slot slot :: rest, done, purpose⟩)
      else readAll w purpose (done ++ (w.service.orders.atSlot? slot).toList) rest

/-- The result of cancelling. -/
def Cancelling.result (c : Cancelling) : Result :=
  match c.purpose with
  | .deleted => .deleted (.ok c.done)
  | .cancelled => .cancelled c.done

/-- Cancels an order that is free, and notes it if it was pending. -/
def cancelAt (w : World ρ) (slot : Nat) (id : OrderId) (done : List OrderId) :
    World ρ × List OrderId :=
  let (orders, cancelled) := w.service.orders.cancelSlot slot
  (w.withService { w.service with orders }, if cancelled then done ++ [id] else done)

/-- Cancels orders until one is held. -/
def cancelAll (w : World ρ) (purpose : CancelPurpose) (done : List OrderId) :
    List OrderId → World ρ × Running ρ
  | [] => (w, .done (Cancelling.result ⟨[], done, purpose⟩))
  | id :: rest =>
    match w.service.orders.slot? id with
    | none => cancelAll w purpose done rest
    | some slot =>
      if w.held.contains slot then (w, .blocked slot (.cancel id ⟨rest, done, purpose⟩))
      else
        let (w, done) := cancelAt w slot id done
        cancelAll w purpose done rest

/-! ## Operations that ask the catalog -/

/-- A stage whose questions have not been asked yet. -/
def askAbout (stage : Stage) (auth : Option String) : Running ρ :=
  .asking stage auth (stage.questions.map .unasked)

/-- An operation that may have failed at once. -/
def ofStart (auth : Option String) : Except OrderError Stage → Running ρ
  | .ok stage => askAbout stage auth
  | .error e => .done (.order (.error e))

/-- Notes the identifier of a new order. -/
def noteCreated (w : World ρ) (stage : Stage) (result : Except OrderError Order) : World ρ :=
  match stage, result with
  | .creating _ _, .ok o =>
    { w with created := { w.created with orders := w.created.orders ++ [o.id] } }
  | _, _ => w

/-- Goes on with the answers of a stage. -/
def resumeStage (s : Settings ρ) (w : World ρ) (stage : Stage) (auth : Option String)
    (answers : List Answer) : World ρ × Running ρ :=
  match stage.resume (s.fresh (w.given + 1)) (w.now s) w.service answers with
  | .finished service result =>
    let w := { w.withService service with given := w.given + 1 }
    ((noteCreated w stage result).release stage.held?.toList, .done (.order result))
  | .waiting next => ((w.release stage.held?.toList).hold next.held?, askAbout next auth)

/-- Goes on with the answers of a stage as soon as the order that it needs is free. -/
def proceed (s : Settings ρ) (w : World ρ) (stage : Stage) (auth : Option String)
    (answers : List Answer) : World ρ × Running ρ :=
  match stage.needs? answers with
  | some slot =>
    if w.held.contains slot then (w, .blocked slot (.resume stage auth answers))
    else resumeStage s w stage auth answers
  | none => resumeStage s w stage auth answers

/-- Does what was to happen when an order in a slot is free. -/
def perform (s : Settings ρ) (w : World ρ) (slot : Nat) : Act → World ρ × Running ρ
  | .revise ref deltas auth => (w, ofStart auth (w.service.beginRevisionAt ref deltas))
  | .resume stage auth answers => resumeStage s w stage auth answers
  | .change ref action =>
    match w.service.orders.atSlot? ref.slot with
    | none => (w, .done (.order (.error (.notFound ref.id))))
    | some o =>
      let (service, result) := w.service.actOnSlot ref.slot action o (w.now s)
      (w.withService service, .done (.order result))
  | .read r => (w, readAll w r.purpose r.done r.rest)
  | .cancel id c =>
    let (w, done) := cancelAt w slot id c.done
    cancelAll w c.purpose done c.rest

/-- Does something with an order now or as soon as it is free. -/
def whenFree (s : Settings ρ) (w : World ρ) (slot : Nat) (act : Act) : World ρ × Running ρ :=
  if w.held.contains slot then (w, .blocked slot act) else perform s w slot act

/-! ## Starting steps -/

/-- Loads a user with a balance, unless the registration is not good. -/
def loadUser (s : Settings ρ) (w : World ρ) (id : UserId) (r : Registration) (points : Unsigned64)
    (orders : List OrderId) : World ρ × Running ρ :=
  match User.register id (w.now s) r with
  | .error e => (w, .done (.user (.error e)))
  | .ok user =>
    let users := w.service.users.insert id ⟨{ user with points }, orders⟩
    ((w.withService { w.service with users }).know id, .done .done)

/-- A step that asks or changes users. -/
def beginUserStep (s : Settings ρ) (w : World ρ) : Step ρ → Option (World ρ × Running ρ)
  | .register r =>
    let id := s.fresh (w.given + 1)
    let (service, result) := w.service.register id (w.now s) r
    let w := { w.withService service with given := w.given + 1 }
    let w :=
      match result with
      | .ok _ => { w with created := { w.created with users := w.created.users ++ [id] } }.know id
      | .error _ => w
    some (w, .done (.user result))
  | .loadUser id r points orders => some (loadUser s w id r points orders)
  | .user id => some (w, .done (.user (w.service.users.user id)))
  | .overview id =>
    match w.service.users.get? id with
    | none => some (w, .done (.overview (.error (.notFound id))))
    | some account =>
      some (w, readAll w (.overview account.user) [] (account.orders.map .id))
  | .points id => some (w, .done (.points (w.service.points id)))
  | .redeem id points =>
    let (service, result) := w.service.redeem id (w.now s) points
    some (w.withService service, .done (.points result))
  | .award id points =>
    let (service, result) := w.service.award id (w.now s) points
    some (w.withService service, .done (.points result))
  | .deleteUser id =>
    match w.service.removeUser id with
    | (_, .error e) => some (w, .done (.deleted (.error e)))
    | (service, .ok ids) => some (cancelAll (w.withService service) .deleted [] ids)
  | .countUsers => some (w, .done (.count w.service.users.size))
  | .noteOrder id order =>
    match w.service.users.noteOrder? id order with
    | some users => some (w.withService { w.service with users }, .done (.flag true))
    | none => some (w, .done (.flag false))
  | .notedOrders id => some (w, .done (.ids? (w.service.users.notedOrders? id)))
  | .credit id points =>
    match w.service.users.award id (w.now s) points with
    | .ok (balance, users) =>
      some (w.withService { w.service with users }, .done (.balance? (some balance)))
    | .error _ => some (w, .done (.balance? none))
  | _ => none

/-- A step that asks or changes orders. -/
def beginOrderStep (s : Settings ρ) (w : World ρ) : Step ρ → Option (World ρ × Running ρ)
  | .createOrder r auth => some (w, ofStart auth (Service.beginCreate r))
  | .order id => some (w, readAll w (.order id) [] [.id id])
  | .listOrders => some (w, readAll w .listed [] (w.service.orders.listedSlots.map .slot))
  | .ordersOf id =>
    match w.service.users.notedOrders? id with
    | none => some (w, .done (.ordersOf (.error (.ownerNotFound id))))
    | some ids => some (w, readAll w .ordersOf [] (ids.map .id))
  | .revise id inputs auth =>
    match w.service.revisionTarget id inputs with
    | .error e => some (w, .done (.order (.error e)))
    | .ok (ref, deltas) => some (whenFree s w ref.slot (.revise ref deltas auth))
  | .act id action =>
    match w.service.orders.slot? id with
    | none => some (w, .done (.order (.error (.notFound id))))
    | some slot => some (whenFree s w slot (.change ⟨id, slot⟩ action))
  | .insertOrder o =>
    let (service, result) := w.service.insertOrder o
    some (w.withService service, .done (.order result))
  | .loadOrder o =>
    some (w.withService { w.service with orders := w.service.orders.load o }, .done .done)
  | .findOrder id => some (w, readAll w .found [] [.id id])
  | .countOrders => some (w, .done (.total w.service.orders.size))
  | .cancelAmong ids => some (cancelAll w .cancelled [] ids)
  | .ordersAmong ids => some (w, readAll w .orders [] (ids.map .id))
  | .loadDemo =>
    match Demo.load (w.now s) w.service with
    | .error _ => some (w, .done .done)
    | .ok service =>
      let w := (w.withService service).know (Demo.userId 0) |>.know (Demo.userId 1)
        |>.know (Demo.userId 2)
      some (w, .done (.demo 3 3))
  | _ => none

/-- The catalog after a step that changes it. -/
def catalogStep (c : ScriptedCatalog ρ) : Step ρ → ScriptedCatalog ρ
  | .setPrice id price => { c with products := c.products.modify id ({ · with price }) }
  | .setAvailable id available => { c with products := c.products.modify id ({ · with available }) }
  | .putProduct p => { c with products := c.products.insert p.id p }
  | .dropProduct id => { c with products := c.products.erase id }
  | .down id reason => { c with down := c.down.insert id reason }
  | .up id => { c with down := c.down.erase id }
  | .slow id ms => { c with delays := c.delays.insert id ms }
  | .hook id script => { c with hooks := c.hooks.insert id script }
  | _ => c

/-- Starts a step. -/
def beginStep (s : Settings ρ) (w : World ρ) (raw : ρ) : World ρ × Running ρ :=
  let step := s.read w.created raw
  let w := w.tick
  match beginUserStep s w step with
  | some started => started
  | none =>
    match beginOrderStep s w step with
    | some started => started
    | none => (w.withCatalog (catalogStep w.catalog step), .done .done)

/-! ## Taking turns -/

/-- A question about a product behind whatever is played inside it. -/
def delay (w : World ρ) (id : ProductId) (deadline : Nat) : Lookup ρ :=
  .delayed id deadline (w.clock + (w.catalog.delays.get? id).getD 0)

mutual

/-- Lets a step do all it can at the present moment. -/
def Running.poll (s : Settings ρ) : (fuel : Nat) → World ρ → Running ρ → World ρ × Running ρ
  | 0, w, r => (w, r)
  | fuel + 1, w, r =>
    match r with
    | .done r => (w, .done r)
    | .blocked slot act =>
      if w.held.contains slot then (w, .blocked slot act)
      else
        let (w, r) := perform s w.tick slot act
        r.poll s fuel w
    | .asking stage auth lookups =>
      let (w, lookups) := lookups.foldl (fun (w, done) l =>
        let (w, l) := l.poll s auth fuel w
        (w, done ++ [l])) (w, [])
      match answers? lookups with
      | none => (w, .asking stage auth lookups)
      | some answers =>
        let (w, r) := proceed s w.tick stage auth answers
        r.poll s fuel w

/-- Lets a question do all it can at the present moment. -/
def Lookup.poll (s : Settings ρ) (auth : Option String) :
    (fuel : Nat) → World ρ → Lookup ρ → World ρ × Lookup ρ
  | 0, w, l => (w, l)
  | fuel + 1, w, l =>
    match l with
    | .answered a => (w, .answered a)
    | .unasked id =>
      let deadline := w.clock + s.timeout
      let (w, script) := w.tick.ask ⟨id, auth⟩
      match script with
      | [] => (delay w id deadline).poll s auth fuel w
      | raw :: rest =>
        let (w, current) := beginStep s w raw
        (Lookup.hooked id deadline current rest).poll s auth fuel w
    | .hooked id deadline current rest =>
      let (w, current) := current.poll s fuel w
      match current with
      | .done r =>
        let w := { w.tick with hooked := w.hooked ++ [r] }
        match rest with
        | [] => (delay w id deadline).poll s auth fuel w
        | raw :: rest =>
          let (w, current) := beginStep s w raw
          (Lookup.hooked id deadline current rest).poll s auth fuel w
      | current =>
        if deadline ≤ w.clock then (w.tick.release current.holds, .answered .timedOut)
        else (w, .hooked id deadline current rest)
    | .delayed id deadline wake =>
      if wake ≤ w.clock then (w.tick, .answered (w.catalog.answer id))
      else if deadline ≤ w.clock then (w.tick, .answered .timedOut)
      else (w, .delayed id deadline wake)

end

end OrderDesk.Scenario
