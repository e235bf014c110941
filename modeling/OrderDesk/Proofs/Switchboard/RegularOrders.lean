import OrderDesk.Demo
import OrderDesk.Proofs.Order.Lines
import OrderDesk.Proofs.Switchboard.History

/-!
# Orders have regular lines

No product stands twice on an order, and every quantity is positive, at any time.  Neither is ever
checked on an order: new lines are regular because of how they are read from a request, and changed
lines because the lines before the change were.  So the check of quantities which a change goes
through last (`Order.decide`) never refuses anything.
-/

namespace OrderDesk

/-- All orders of a book have regular lines. -/
def OrderBook.Regular (b : OrderBook) : Prop :=
  ∀ slot o, b.atSlot? slot = some o → LineItem.Regular o.items

/-! ## Demo data -/

namespace Demo

theorem regular_orders (now : Timestamp) : ∀ o ∈ orders now, LineItem.Regular o.items := by
  -- the lines do not depend on the date, so they are those of any date
  have hdistinct : ∀ o ∈ orders ⟨0, 0, 0⟩, (o.items.map (·.product)).Nodup := by decide
  have hpositive : ∀ o ∈ orders ⟨0, 0, 0⟩, ∀ item ∈ o.items, 0 < item.quantity.val := by decide
  have hitems : (orders now).map (·.items) = (orders ⟨0, 0, 0⟩).map (·.items) := rfl
  intro o ho
  have hmem : o.items ∈ (orders ⟨0, 0, 0⟩).map (·.items) := hitems ▸ List.mem_map_of_mem ho
  obtain ⟨o', ho', heq⟩ := List.mem_map.1 hmem
  exact heq ▸ ⟨hdistinct o' ho', hpositive o' ho'⟩

/-- Loading an order adds it or does nothing. -/
theorem regular_load {b : OrderBook} {o : Order} (hb : b.Regular) (ho : LineItem.Regular o.items) :
    (b.load o).Regular := by
  intro slot p hp
  rw [OrderBook.load] at hp
  split at hp
  · exact hb slot p hp
  · rw [OrderBook.atSlot?_insert] at hp
    split at hp
    · cases hp
      exact ho
    · exact hb slot p hp

theorem regular_of_load {now : Timestamp} {s s' : Service} (hs : s.orders.Regular)
    (h : load now s = .ok s') : s'.orders.Regular := by
  rw [load, Fallible.bind_eq_ok_iff] at h
  obtain ⟨accounts, -, h⟩ := h
  cases h
  have hfold : ∀ (l : List Order) (b : OrderBook), (∀ o ∈ l, LineItem.Regular o.items) →
      b.Regular → (l.foldl (fun book o => book.load o) b).Regular := by
    intro l
    induction l with
    | nil => exact fun b _ hb => hb
    | cons o l ih =>
      intro b hl hb
      exact ih _ (fun p hp => hl p (List.mem_cons_of_mem _ hp))
        (regular_load hb (hl o (List.mem_cons_self ..)))
  exact hfold _ _ (regular_orders now) hs

end Demo

/-! ## Every run -/

namespace Switchboard

variable {b b' : Switchboard} {e : Event} {es : List Event}

theorem regular_step (hb : Coherent b) (hr : b.service.orders.Regular) (h : b.step e = some b') :
    b'.service.orders.Regular := by
  intro slot o' ho'
  cases commits_of_step hb h with
  | nothing _ hbill =>
    obtain ⟨o, ho, heq⟩ := OrderBook.exists_of_bill (hbill slot).symm ho'
    obtain ⟨-, hitems, -⟩ := Order.bill_eq_iff.1 heq
    exact hitems ▸ hr slot o ho
  | creation hitems _ _ _ horders _ =>
    rw [horders, OrderBook.atSlot?_insert] at ho'
    split at ho'
    · cases ho'
      exact LineItem.regular_ofInputs hitems
    · exact hr slot o' ho'
  | @revision _ ref _ _ _ _ _ o _ hslot _ hrevise _ _ horders _ =>
    by_cases heq : ref.slot = slot
    · subst heq
      rw [horders, OrderBook.atSlot?_put_self _ hslot] at ho'
      cases ho'
      exact LineItem.regular_revise (hr ref.slot o hslot) hrevise
    · rw [horders, OrderBook.atSlot?_put_of_ne _ _ heq] at ho'
      exact hr slot o' ho'

theorem regular_run (hb : Coherent b) (hr : b.service.orders.Regular) (h : b.run es = some b') :
    Coherent b' ∧ b'.service.orders.Regular :=
  run_preserves (P := fun b => Coherent b ∧ b.service.orders.Regular)
    (fun _ _ _ hb h => ⟨coherent_step hb.1 h, regular_step hb.1 hb.2 h⟩) ⟨hb, hr⟩ h

/-- **Stored lines are regular.**  In every state that the service reaches from nothing or from the
demo data, by whatever calls with whatever lines in their requests, no product stands twice on an
order and every quantity lies between 1 and the largest that 32 bits hold.  And once a change has
come so far that its lines are priced, no order refuses them for a quantity. -/
theorem stored_lines_are_regular {s : Service}
    (hs : s = .empty ∨ ∃ now, Demo.load now .empty = .ok s) (h : (ofService s).run es = some b) :
    (∀ slot o, b.service.orders.atSlot? slot = some o →
      (o.items.map (·.product)).Nodup ∧
        ∀ item ∈ o.items, 1 ≤ item.quantity.val ∧ item.quantity.val ≤ 2147483647) ∧
    ∀ call request ref revision,
      b.calls.get? call = some ⟨request, .asking (.pricing ref revision)⟩ →
      ∀ (o : Order) total product amount,
        o.decide (.replaceItems revision.items total) ≠
          .error (.invalidQuantity product amount) := by
  have hempty : Service.empty.orders.Regular := fun slot o ho => by cases ho
  have hstart : s.orders.Regular := by
    rcases hs with rfl | ⟨now, hload⟩
    · exact hempty
    · exact Demo.regular_of_load hempty hload
  obtain ⟨hb, hr⟩ := regular_run (coherent_ofService s) hstart h
  constructor
  · intro slot o ho
    have hregular : LineItem.Regular o.items := hr slot o ho
    refine ⟨hregular.distinct, fun item hitem => ⟨hregular.positive item hitem, ?_⟩⟩
    exact item.quantity.le_hi
  · intro call request ref revision hentry o total product amount
    cases hb.serves call _ hentry with
    | pricing hplan =>
      obtain ⟨deltas, held, -, hslot, -, -, hrevise⟩ := hplan
      have hitems : LineItem.Regular revision.items :=
        LineItem.regular_revise (hr ref.slot held hslot) hrevise
      exact Order.replaceItems_ne_invalidQuantity hitems o total product amount

open Rehearsal in
theorem stored_lines_are_regular_of_demo :
    ∃ s b o, Demo.load midnight .empty = .ok s ∧
      (ofService s).run (ordering ++ looking ++ overtaking) = some b ∧
      b.service.orders.atSlot? 3 = some o ∧ (o.items.map (·.product)).Nodup ∧
      o.items.map (·.quantity.val) = [4] := by
  have hload : (Demo.load midnight .empty).isOk := rfl
  cases hs : Demo.load midnight .empty with
  | error e => cases hs ▸ hload
  | ok s =>
    have hrun : ((Demo.load midnight .empty).toOption.bind fun s =>
        ((ofService s).run (ordering ++ looking ++ overtaking)).bind fun b =>
          (b.service.orders.atSlot? 3).map fun o => o.items.map (·.quantity.val)) = some [4] := by
      decide
    rw [hs, Except.toOption, Option.bind_some] at hrun
    obtain ⟨b, hb, hslot⟩ := Option.bind_eq_some_iff.1 hrun
    obtain ⟨o, ho, hquantities⟩ := Option.map_eq_some_iff.1 hslot
    have hregular := (stored_lines_are_regular (.inr ⟨midnight, hs⟩) hb).1 3 o ho
    exact ⟨s, b, o, rfl, hb, ho, hregular.1, hquantities⟩

end Switchboard

end OrderDesk
