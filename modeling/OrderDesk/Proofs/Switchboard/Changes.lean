import OrderDesk.Proofs.Switchboard.Holding

/-!
# What becomes of an order

An order that stands in a slot of the book stays there.  A step of a call either leaves it as it is,
or the order is pending and the step is one of four: it replaces the lines, submits the order,
cancels it, or cancels it because its owner is deleted (`Changes`).  So identifier, owner and date
never change, and an order that is not pending never changes at all (`Order.Continues`).

* `changes_of_step` — what an event does to an order that is there.
* `origin_of_step` — where an order that is there after an event comes from.
* `continues_of_run` — what becomes of an order in a run.
-/

namespace OrderDesk

/-! ## The same order later -/

/-- What an order may have become later: still the same order, and if it was not pending, still as
it was. -/
structure Order.Continues (o o' : Order) : Prop where
  id : o'.id = o.id
  owner : o'.owner = o.owner
  placedAt : o'.placedAt = o.placedAt
  frozen : o.status ≠ .pending → o' = o

namespace Order.Continues

theorem refl (o : Order) : Order.Continues o o := ⟨rfl, rfl, rfl, fun _ => rfl⟩

theorem trans {o₁ o₂ o₃ : Order} (h : Order.Continues o₁ o₂) (h' : Order.Continues o₂ o₃) :
    Order.Continues o₁ o₃ where
  id := h'.id.trans h.id
  owner := h'.owner.trans h.owner
  placedAt := h'.placedAt.trans h.placedAt
  frozen := by
    intro hp
    have hsame : o₂ = o₁ := h.frozen hp
    subst hsame
    exact h'.frozen hp

/-- An event happens to a pending order. -/
theorem apply {o : Order} (h : o.status = .pending) (e : OrderEvent) :
    Order.Continues o (o.apply e) where
  id := Order.apply_id o e
  owner := by cases e <;> rfl
  placedAt := by cases e <;> rfl
  frozen := fun hp => absurd h hp

end Order.Continues

/-! ## One step -/

/-- The ways in which a step of a call, from `c` to `c'`, changes the order `o` in a slot. -/
inductive Changes (c c' : Call) (slot : Nat) (o : Order) : Order → Prop
  | revised {ref : OrderRef} {revision : Revision} {total : Decimal} :
      c = .asking (.pricing ref revision) → ref.slot = slot →
      Changes c c' slot o (o.apply (.itemsReplaced revision.items total))
  | submitted {ref : OrderRef} : c = .acting ref .submit → ref.slot = slot →
      c' = .ended (.order (.ok (o.apply (.submitted (loyaltyPoints o.total))))) →
      Changes c c' slot o (o.apply (.submitted (loyaltyPoints o.total)))
  | cancelled {ref : OrderRef} : c = .acting ref .cancel → ref.slot = slot →
      c' = .ended (.order (.ok (o.apply .cancelled))) → Changes c c' slot o (o.apply .cancelled)
  | swept {ref : OrderRef} {rest done : List OrderId} : c = .cancelling ref rest done →
      ref.slot = slot → c' = .cascading rest (done ++ [ref.id]) →
      Changes c c' slot o (o.apply .cancelled)

namespace Changes

variable {c c' : Call} {slot : Nat} {o o' : Order}

/-- Every change is an event that happens to the order. -/
theorem exists_event (h : Changes c c' slot o o') : ∃ e, o' = o.apply e := by
  cases h with
  | revised | submitted | cancelled | swept => exact ⟨_, rfl⟩

theorem continues (h : Changes c c' slot o o') (hp : o.status = .pending) :
    o.Continues o' := by
  obtain ⟨e, rfl⟩ := h.exists_event
  exact .apply hp e

end Changes

namespace Advances

variable {fresh : Uuid} {now : Timestamp} {answers : List Answer} {s s' : Service} {c c' : Call}
  {slot other : Nat} {o o' p : Order}

/-- What is in a slot after another order was put in the place of one order. -/
theorem changes_put (hp : p.status = .pending) (hother : s.orders.atSlot? other = some p)
    (hput : s'.orders = s.orders.put other o') (hchanges : Changes c c' other p o')
    (hslot : s.orders.atSlot? slot = some o) :
    ∃ o', s'.orders.atSlot? slot = some o' ∧
      (o' = o ∨ o.status = .pending ∧ Changes c c' slot o o') := by
  by_cases heq : other = slot
  · subst heq
    cases hslot.symm.trans hother
    exact ⟨o', hput ▸ OrderBook.atSlot?_put_self _ hslot, Or.inr ⟨hp, hchanges⟩⟩
  · exact ⟨o, by rw [hput, OrderBook.atSlot?_put_of_ne _ _ heq, hslot], Or.inl rfl⟩

/-- An order stays in its slot, and stays as it is unless it is pending and the step changes it. -/
theorem changes (h : Advances fresh now answers s c s' c')
    (hslot : s.orders.atSlot? slot = some o) :
    ∃ o', s'.orders.atSlot? slot = some o' ∧
      (o' = o ∨ o.status = .pending ∧ Changes c c' slot o o') := by
  cases h with
  | looked | lookFailed | held | confirmed | askFailed | actFailed | finished | passedOver | found
  | spared => exact ⟨o, hslot, Or.inl rfl⟩
  | revised _ hother hp => exact changes_put hp hother rfl (.revised rfl rfl) hslot
  | submitted hother hp horders _ =>
    exact changes_put hp hother horders (.submitted rfl rfl rfl) hslot
  | cancelled hother hp => exact changes_put hp hother rfl (.cancelled rfl rfl rfl) hslot
  | swept hother hp => exact changes_put hp hother rfl (.swept rfl rfl rfl) hslot
  | placed _ _ horders _ =>
    exact ⟨o, horders ▸ OrderBook.atSlot?_insert_of_some _ hslot, Or.inl rfl⟩

/-- An order that was not there before is one that has just been placed. -/
theorem placed_of_none (h : Advances fresh now answers s c s' c')
    (hslot : s'.orders.atSlot? slot = some o') (hnone : s.orders.atSlot? slot = none) :
    ∃ owner items total, o' = .place fresh now owner items total := by
  rcases h.writes with horders | ⟨owner, items, total, -, horders⟩ |
    ⟨ref, revision, total, p, -, hp, horders⟩ | ⟨other, p, p', -, hp, horders, -⟩
  · rw [horders, hnone] at hslot
    cases hslot
  · rw [horders, OrderBook.atSlot?_insert] at hslot
    split at hslot
    · cases hslot
      exact ⟨owner, items, total, rfl⟩
    · cases hnone.symm.trans hslot
  · have hne : ref.slot ≠ slot := fun heq => by cases hp.symm.trans (heq ▸ hnone)
    rw [horders, OrderBook.atSlot?_put_of_ne _ _ hne, hnone] at hslot
    cases hslot
  · have hne : other ≠ slot := fun heq => by cases hp.symm.trans (heq ▸ hnone)
    rw [horders, OrderBook.atSlot?_put_of_ne _ _ hne, hnone] at hslot
    cases hslot

end Advances

/-! ## Events -/

namespace Switchboard

variable {b b' : Switchboard} {e : Event} {es : List Event} {slot : Nat} {o o' : Order}

/-- An order stays in its slot, and stays as it is unless it is pending and the event changes it. -/
theorem changes_of_step (h : b.step e = some b') (hslot : b.service.orders.atSlot? slot = some o) :
    ∃ o', b'.service.orders.atSlot? slot = some o' ∧
      (o' = o ∨ o.status = .pending ∧ ∃ r c c', b.calls.get? e.call = some ⟨r, c⟩ ∧
        b'.calls.get? e.call = some ⟨r, c'⟩ ∧ Changes c c' slot o o') := by
  cases moves_of_step h with
  | start _ hstart => exact ⟨o, hstart.orders_eq ▸ hslot, Or.inl rfl⟩
  | @advance id answers fresh now entry s' c hentry _ hadv =>
    obtain ⟨o', hslot', hsame | ⟨hp, hchanges⟩⟩ := hadv.changes hslot
    · exact ⟨o', hslot', Or.inl hsame⟩
    · exact ⟨o', hslot', Or.inr ⟨hp, entry.request, entry.call, c, hentry,
        Table.get?_insert_self .., hchanges⟩⟩

theorem continues_of_step (h : b.step e = some b')
    (hslot : b.service.orders.atSlot? slot = some o) :
    ∃ o', b'.service.orders.atSlot? slot = some o' ∧ o.Continues o' := by
  obtain ⟨o', hslot', rfl | ⟨hp, r, c, c', _, _, hchanges⟩⟩ := changes_of_step h hslot
  · exact ⟨o', hslot', .refl o'⟩
  · exact ⟨o', hslot', hchanges.continues hp⟩

/-- An order that is there at the beginning of a run is there at its end. -/
theorem continues_of_run (h : b.run es = some b') (hslot : b.service.orders.atSlot? slot = some o) :
    ∃ o', b'.service.orders.atSlot? slot = some o' ∧ o.Continues o' := by
  refine run_preserves
    (P := fun b => ∃ o', b.service.orders.atSlot? slot = some o' ∧ o.Continues o')
    ?_ ⟨o, hslot, .refl o⟩ h
  rintro b e b' ⟨o₁, hslot₁, hcontinues⟩ hstep
  obtain ⟨o₂, hslot₂, hnext⟩ := continues_of_step hstep hslot₁
  exact ⟨o₂, hslot₂, hcontinues.trans hnext⟩

/-- An order that is there after an event was there before it, or has just been placed. -/
theorem origin_of_step (h : b.step e = some b')
    (hslot : b'.service.orders.atSlot? slot = some o') :
    (∃ o, b.service.orders.atSlot? slot = some o ∧ (o' = o ∨ o.status = .pending ∧
      ∃ r c c', b.calls.get? e.call = some ⟨r, c⟩ ∧ b'.calls.get? e.call = some ⟨r, c'⟩ ∧
        Changes c c' slot o o')) ∨
      ∃ fresh now owner items total, o' = .place fresh now owner items total := by
  cases hbefore : b.service.orders.atSlot? slot with
  | some o =>
    obtain ⟨o₁, hslot₁, hchange⟩ := changes_of_step h hbefore
    cases hslot.symm.trans hslot₁
    exact Or.inl ⟨o, rfl, hchange⟩
  | none =>
    right
    cases moves_of_step h with
    | start _ hstart =>
      rw [hstart.orders_eq, hbefore] at hslot
      cases hslot
    | advance _ _ hadv => exact ⟨_, _, hadv.placed_of_none hslot hbefore⟩

end Switchboard

end OrderDesk
