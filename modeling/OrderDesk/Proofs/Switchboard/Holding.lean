import OrderDesk.Proofs.Switchboard.Steps

/-!
# Orders that are held

A change of an order is planned while the order is held, and committed only after two more rounds of
questions.  In between the plan has to stay true.  `Coherent` says that it does: every call is one
that its request leads to (`Serves`), what a call that holds an order has planned is what the order
standing in its slot gives now, and no two calls hold one order.

* `Advances.writes` — what a step can do to the orders: nothing, place a new one, replace the lines
  of the order that the call holds, or change the status of an order that is free.
* `Advances.frame` — an order that a step has no right to is left alone.
* `coherent_step`, `coherent_run` — every event keeps a switchboard coherent, and so does every run.
-/

namespace OrderDesk

/-! ## What a step does to the orders -/

theorem Starts.orders_eq {fresh : Uuid} {now : Timestamp} {s s' : Service} {r : Request} {c : Call}
    (h : Starts fresh now s r s' c) : s'.orders = s.orders := by
  cases h <;> rfl

theorem Starts.held_eq_none {fresh : Uuid} {now : Timestamp} {s s' : Service} {r : Request}
    {c : Call} (h : Starts fresh now s r s' c) : c.held? = none := by
  cases h <;> rfl

namespace Advances

variable {fresh : Uuid} {now : Timestamp} {answers : List Answer} {s s' : Service} {c c' : Call}

/-- A step leaves the orders alone, places a new one, replaces the lines of an order that is held,
or changes the status of an order that has to be free. -/
theorem writes (h : Advances fresh now answers s c s' c') :
    s'.orders = s.orders ∨
      (∃ owner items total, c = .asking (.creating owner items) ∧
        s'.orders = s.orders.insert (.place fresh now owner items total)) ∨
      (∃ ref revision total o, c = .asking (.pricing ref revision) ∧
        s.orders.atSlot? ref.slot = some o ∧
        s'.orders = s.orders.put ref.slot (o.apply (.itemsReplaced revision.items total))) ∨
      ∃ slot o o', c.needs? answers = some slot ∧ s.orders.atSlot? slot = some o ∧
        s'.orders = s.orders.put slot o' ∧ o'.id = o.id ∧ o'.items = o.items ∧
        o'.total = o.total := by
  cases h with
  | looked | lookFailed | held | confirmed | askFailed | actFailed | finished | passedOver | found
  | spared => exact Or.inl rfl
  | revised _ hslot _ => exact Or.inr (Or.inr (Or.inl ⟨_, _, _, _, rfl, hslot, rfl⟩))
  | placed _ _ horders _ => exact Or.inr (Or.inl ⟨_, _, _, rfl, horders⟩)
  | submitted hslot _ horders _ =>
    exact Or.inr (Or.inr (Or.inr ⟨_, _, _, rfl, hslot, horders, rfl, rfl, rfl⟩))
  | cancelled hslot _ => exact Or.inr (Or.inr (Or.inr ⟨_, _, _, rfl, hslot, rfl, rfl, rfl, rfl⟩))
  | swept hslot _ => exact Or.inr (Or.inr (Or.inr ⟨_, _, _, rfl, hslot, rfl, rfl, rfl, rfl⟩))

/-- An order stays as it is, unless the step is one of a call that holds it or needs it. -/
theorem frame (h : Advances fresh now answers s c s' c') {slot : Nat} {o : Order}
    (hslot : s.orders.atSlot? slot = some o) (hheld : c.held? ≠ some slot)
    (hneeds : c.needs? answers ≠ some slot) : s'.orders.atSlot? slot = some o := by
  rcases h.writes with horders | ⟨owner, items, total, rfl, horders⟩ |
    ⟨ref, revision, total, o₁, rfl, hslot₁, horders⟩ |
    ⟨slot₁, o₁, o₂, hneeds₁, hslot₁, horders, -⟩
  · rw [horders, hslot]
  · rw [horders]
    exact OrderBook.atSlot?_insert_of_some _ hslot
  · have hne : ref.slot ≠ slot := fun heq => hheld (congrArg some heq)
    rw [horders, OrderBook.atSlot?_put_of_ne _ _ hne, hslot]
  · have hne : slot₁ ≠ slot := fun heq => hneeds (heq ▸ hneeds₁)
    rw [horders, OrderBook.atSlot?_put_of_ne _ _ hne, hslot]

/-- An order never leaves its slot, and keeps its identifier. -/
theorem keeps_id (h : Advances fresh now answers s c s' c') {slot : Nat} {o : Order}
    (hslot : s.orders.atSlot? slot = some o) :
    ∃ o', s'.orders.atSlot? slot = some o' ∧ o'.id = o.id := by
  rcases h.writes with horders | ⟨owner, items, total, rfl, horders⟩ |
    ⟨ref, revision, total, o₁, rfl, hslot₁, horders⟩ |
    ⟨slot₁, o₁, o₂, hneeds₁, hslot₁, horders, hid, -⟩
  · exact ⟨o, by rw [horders, hslot], rfl⟩
  · exact ⟨o, by rw [horders, OrderBook.atSlot?_insert_of_some _ hslot], rfl⟩
  · by_cases heq : ref.slot = slot
    · subst heq
      cases hslot₁.symm.trans hslot
      exact ⟨_, by rw [horders, OrderBook.atSlot?_put_self _ hslot], Order.apply_id ..⟩
    · exact ⟨o, by rw [horders, OrderBook.atSlot?_put_of_ne _ _ heq, hslot], rfl⟩
  · by_cases heq : slot₁ = slot
    · subst heq
      cases hslot₁.symm.trans hslot
      exact ⟨o₂, by rw [horders, OrderBook.atSlot?_put_self _ hslot], hid⟩
    · exact ⟨o, by rw [horders, OrderBook.atSlot?_put_of_ne _ _ heq, hslot], rfl⟩

/-- An order that is held after a step was held before it, or had to be free for it. -/
theorem held_or_needed (h : Advances fresh now answers s c s' c') {slot : Nat}
    (hslot : c'.held? = some slot) : c.held? = some slot ∨ c.needs? answers = some slot := by
  cases h with
  | @held ref deltas candidates products o revision hjudge _ _ _ =>
    right
    have hplanned : (Stage.planned ref candidates revision).held? = some ref.slot := by
      unfold Stage.planned
      dsimp only
      split <;> rfl
    show Stage.needs? (.validating ref deltas candidates) answers = some slot
    rw [Stage.needs?, hjudge]
    exact hplanned.symm.trans hslot
  | confirmed _ => exact Or.inl hslot
  | looked | lookFailed | revised | placed | askFailed | submitted | cancelled | actFailed
  | finished | passedOver | found | swept | spared => cases hslot

end Advances

/-! ## What a call owes its request -/

/-- What the change in a request would make of the order that a call holds. -/
def Plans (book : OrderBook) (ref : OrderRef) (inputs : List LineInput) (revision : Revision) :
    Prop :=
  ∃ deltas o, Delta.ofInputs inputs = .ok deltas ∧ book.atSlot? ref.slot = some o ∧
    o.id = ref.id ∧ o.status = .pending ∧ o.revise deltas = .ok revision

/-- A call is one that its request leads to, with the orders as they are. -/
inductive Serves (book : OrderBook) : Request → Call → Prop
  | creating {r : OrderRequest} {owner : Option UserId} {items : List LineItem} :
      LineItem.ofInputs r.products = .ok items →
      Serves book (.create r) (.asking (.creating owner items))
  | looking {ref : OrderRef} {inputs : List LineInput} {deltas : List Delta} {o : Order} :
      Delta.ofInputs inputs = .ok deltas → book.atSlot? ref.slot = some o → o.id = ref.id →
      Serves book (.revise ref.id inputs) (.looking ref deltas)
  | validating {ref : OrderRef} {inputs : List LineInput} {deltas : List Delta} {o : Order}
      {candidates : List ProductId} :
      Delta.ofInputs inputs = .ok deltas → book.atSlot? ref.slot = some o → o.id = ref.id →
      Serves book (.revise ref.id inputs) (.asking (.validating ref deltas candidates))
  | confirming {ref : OrderRef} {inputs : List LineInput} {revision : Revision}
      {late : List ProductId} : Plans book ref inputs revision →
      Serves book (.revise ref.id inputs) (.asking (.confirming ref revision late))
  | pricing {ref : OrderRef} {inputs : List LineInput} {revision : Revision} :
      Plans book ref inputs revision →
      Serves book (.revise ref.id inputs) (.asking (.pricing ref revision))
  | acting {ref : OrderRef} {action : OrderAction} :
      Serves book (.act ref.id action) (.acting ref action)
  | cascading {id : UserId} {rest done : List OrderId} :
      Serves book (.deleteUser id) (.cascading rest done)
  | cancelling {id : UserId} {ref : OrderRef} {rest done : List OrderId} :
      Serves book (.deleteUser id) (.cancelling ref rest done)
  | ended {r : Request} {result : CallResult} : Serves book r (.ended result)

/-- A call keeps serving its request when others change the orders: the order it is about keeps its
identifier, and if the call holds the order, the order stays as it is. -/
theorem Serves.frame {book book' : OrderBook} {r : Request} {c : Call} (h : Serves book r c)
    (hid : ∀ slot o, book.atSlot? slot = some o →
      ∃ o', book'.atSlot? slot = some o' ∧ o'.id = o.id)
    (hheld : ∀ slot o, c.held? = some slot → book.atSlot? slot = some o →
      book'.atSlot? slot = some o) : Serves book' r c := by
  cases h with
  | creating hitems => exact .creating hitems
  | @looking ref inputs deltas o hdeltas hslot ho =>
    obtain ⟨o', hslot', ho'⟩ := hid _ _ hslot
    exact .looking hdeltas hslot' (ho'.trans ho)
  | @validating ref inputs deltas o candidates hdeltas hslot ho =>
    obtain ⟨o', hslot', ho'⟩ := hid _ _ hslot
    exact .validating hdeltas hslot' (ho'.trans ho)
  | confirming hplan =>
    obtain ⟨deltas, o, hdeltas, hslot, hrest⟩ := hplan
    exact .confirming ⟨deltas, o, hdeltas, hheld _ _ rfl hslot, hrest⟩
  | pricing hplan =>
    obtain ⟨deltas, o, hdeltas, hslot, hrest⟩ := hplan
    exact .pricing ⟨deltas, o, hdeltas, hheld _ _ rfl hslot, hrest⟩
  | acting => exact .acting
  | cascading => exact .cascading
  | cancelling => exact .cancelling
  | ended => exact .ended

/-- A call that begins is one that its request leads to. -/
theorem Starts.serves {fresh : Uuid} {now : Timestamp} {s s' : Service} {r : Request} {c : Call}
    (h : Starts fresh now s r s' c) : Serves s'.orders r c := by
  cases h with
  | creating _ hitems => exact .creating hitems
  | @looking id inputs deltas slot hdeltas hslot =>
    obtain ⟨o, ho, hid⟩ := OrderBook.exists_of_slot? hslot
    let ref : OrderRef := ⟨id, slot⟩
    show Serves s.orders (.revise ref.id inputs) (.looking ref deltas)
    exact .looking hdeltas ho hid
  | @acting id action slot _ =>
    let ref : OrderRef := ⟨id, slot⟩
    show Serves s.orders (.act ref.id action) (.acting ref action)
    exact .acting
  | removed _ => exact .cascading
  | createFailed | reviseFailed | actFailed | registered | registerFailed | redeemed | redeemFailed
  | awarded | awardFailed | removeFailed => exact .ended

/-- A call that goes on stays one that its request leads to. -/
theorem Advances.serves {fresh : Uuid} {now : Timestamp} {answers : List Answer} {s s' : Service}
    {c c' : Call} {r : Request} (h : Advances fresh now answers s c s' c')
    (hc : Serves s.orders r c) : Serves s'.orders r c' := by
  cases h with
  | looked _ _ _ =>
    cases hc with
    | looking hdeltas hslot hid => exact .validating hdeltas hslot hid
  | @held ref deltas candidates products o revision _ hslot hpending hrevise =>
    cases hc with
    | @validating _ inputs _ o₁ _ hdeltas hslot₁ hid =>
      cases hslot.symm.trans hslot₁
      have hplan : Plans s.orders ref inputs revision :=
        ⟨deltas, o, hdeltas, hslot, hid, hpending, hrevise⟩
      unfold Stage.planned
      dsimp only
      split
      · exact .pricing hplan
      · exact .confirming hplan
  | confirmed _ =>
    cases hc with
    | confirming hplan => exact .pricing hplan
  | passedOver _ =>
    cases hc with
    | cascading => exact .cascading
  | found _ =>
    cases hc with
    | cascading => exact .cancelling
  | swept _ _ =>
    cases hc with
    | cancelling => exact .cascading
  | spared _ =>
    cases hc with
    | cancelling => exact .cascading
  | lookFailed | revised | placed | askFailed | submitted | cancelled | actFailed | finished =>
    exact .ended

/-! ## Coherence -/

namespace Switchboard

/-- Every call is one that its request leads to, and no two calls hold one order. -/
structure Coherent (b : Switchboard) : Prop where
  serves : ∀ id e, b.calls.get? id = some e → Serves b.service.orders e.request e.call
  exclusive : ∀ id₁ id₂ e₁ e₂ slot, b.calls.get? id₁ = some e₁ → b.calls.get? id₂ = some e₂ →
    e₁.call.held? = some slot → e₂.call.held? = some slot → id₁ = id₂

theorem coherent_ofService (s : Service) : Coherent (ofService s) where
  serves := by
    intro id e h
    cases h
  exclusive := by
    intro id₁ id₂ e₁ e₂ slot h₁
    cases h₁

/-- An order that has to be free is held by nobody. -/
theorem Ready.free {b : Switchboard} {c : Call} {answers : List Answer} (h : b.Ready c answers)
    {slot : Nat} (hneeds : c.needs? answers = some slot) {id : CallId} {e : Entry}
    (he : b.calls.get? id = some e) : e.call.held? ≠ some slot :=
  h.2.2 slot hneeds e (Table.mem_values_of_get? he)

variable {b b' : Switchboard} {e : Event} {es : List Event}

/-- A switchboard stays coherent when a call comes to a new place, if that place is one that its
request leads to, the others keep serving theirs, and nobody else holds what the call holds. -/
theorem Coherent.insert (hb : Coherent b) {id : CallId} {request : Request} {s' : Service}
    {c : Call} (hserves : Serves s'.orders request c)
    (hothers : ∀ id' e', id ≠ id' → b.calls.get? id' = some e' →
      Serves s'.orders e'.request e'.call)
    (hheld : ∀ id' e' slot, id ≠ id' → b.calls.get? id' = some e' → c.held? = some slot →
      e'.call.held? ≠ some slot) :
    Coherent ⟨s', b.calls.insert id ⟨request, c⟩⟩ := by
  constructor
  · intro id₁ e₁ h₁
    rw [Table.get?_insert] at h₁
    split at h₁
    · cases h₁
      exact hserves
    · next hne => exact hothers id₁ e₁ hne h₁
  · intro id₁ id₂ e₁ e₂ slot h₁ h₂ held₁ held₂
    rw [Table.get?_insert] at h₁ h₂
    split at h₁
    · next heq₁ =>
      cases h₁
      split at h₂
      · next heq₂ => exact heq₁.symm.trans heq₂
      · next hne₂ => exact absurd held₂ (hheld id₂ e₂ slot hne₂ h₂ held₁)
    · next hne₁ =>
      split at h₂
      · cases h₂
        exact absurd held₁ (hheld id₁ e₁ slot hne₁ h₁ held₂)
      · exact hb.exclusive id₁ id₂ e₁ e₂ slot h₁ h₂ held₁ held₂

/-- What another call holds is neither held nor needed by a call that goes on. -/
theorem Coherent.not_held (hb : Coherent b) {id id' : CallId} {entry e' : Entry}
    {answers : List Answer} (hentry : b.calls.get? id = some entry)
    (hready : b.Ready entry.call answers) (hne : id ≠ id') (he' : b.calls.get? id' = some e')
    {slot : Nat} (held : e'.call.held? = some slot) :
    entry.call.held? ≠ some slot ∧ entry.call.needs? answers ≠ some slot := by
  refine ⟨fun hheld => hne (hb.exclusive id id' entry e' slot hentry he' hheld held), ?_⟩
  intro hneeds
  exact hready.free hneeds he' held

theorem coherent_step (hb : Coherent b) (h : b.step e = some b') : Coherent b' := by
  cases moves_of_step h with
  | start hnew hstart =>
    refine hb.insert hstart.serves ?_ ?_
    · intro id' e' _ he'
      rw [hstart.orders_eq]
      exact hb.serves id' e' he'
    · intro id' e' slot _ _ held
      rw [hstart.held_eq_none] at held
      cases held
  | advance hentry hready hadv =>
    refine hb.insert (hadv.serves (hb.serves _ _ hentry)) ?_ ?_
    · intro id' e' hne he'
      refine (hb.serves id' e' he').frame (fun slot o => hadv.keeps_id) ?_
      intro slot o held hslot
      obtain ⟨hheld, hneeds⟩ := hb.not_held hentry hready hne he' held
      exact hadv.frame hslot hheld hneeds
    · intro id' e' slot hne he' held held'
      obtain ⟨hheld, hneeds⟩ := hb.not_held hentry hready hne he' held'
      rcases hadv.held_or_needed held with h | h
      · exact hheld h
      · exact hneeds h

/-- **Plans stay true**: every switchboard that is reached from a service is coherent. -/
theorem coherent_run {s : Service} (h : (ofService s).run es = some b) : Coherent b :=
  run_preserves (fun _ _ _ hb h => coherent_step hb h) (coherent_ofService s) h

end Switchboard

end OrderDesk
