import OrderDesk.Proofs.Order.Lines
import OrderDesk.Proofs.Service.Totals
import OrderDesk.Proofs.Switchboard.History

/-!
# Totals are prices of lines

The catalog may answer differently at every question.  Still the total of an order is always the
total of the lines that stand on it: the lines and the total change together, in the placing of the
order and in each change of it, and both come from one round of answers, with an answer for each
line.
-/

namespace OrderDesk

/-- The last completion on the order in a slot. -/
def lastAt (slot : Nat) (cs : List Completion) : Option Completion :=
  (cs.filter (·.slot = slot)).getLast?

/-- The last answers of a completion were the products of the lines of an order, line by line, and
the total of the order is the total of its lines at their prices. -/
def Completion.Prices (c : Completion) (o : Order) : Prop :=
  c.stage.questions = o.items.map (·.product) ∧
    ∃ products : List Product, c.answers = products.map .ok ∧
      products.length = o.items.length ∧ totalAt o.items products = .ok o.total

theorem Completion.Prices.of_bill {c : Completion} {o o' : Order} (h : c.Prices o)
    (hbill : o'.bill = o.bill) : c.Prices o' := by
  obtain ⟨-, hitems, htotal⟩ := Order.bill_eq_iff.1 hbill
  unfold Prices
  rw [hitems, htotal]
  exact h

theorem lastAt_append_of_eq {slot : Nat} {cs : List Completion} {c : Completion}
    (h : c.slot = slot) : lastAt slot (cs ++ [c]) = some c := by
  unfold lastAt
  rw [List.filter_append, List.filter_cons_of_pos (by simpa using h), List.filter_nil,
    List.getLast?_concat]

theorem lastAt_append_of_ne {slot : Nat} {cs : List Completion} {c : Completion}
    (h : c.slot ≠ slot) : lastAt slot (cs ++ [c]) = lastAt slot cs := by
  unfold lastAt
  rw [List.filter_append, List.filter_cons_of_neg (by simpa using h), List.filter_nil,
    List.append_nil]

namespace Switchboard

variable {b b' : Switchboard} {e : Event} {es : List Event}

/-- Every order is priced by the last of the completions so far on it, and is for what it was for at
that moment. -/
def Priced (b : Switchboard) (past : List Completion) : Prop :=
  ∀ slot o, b.service.orders.atSlot? slot = some o →
    ∃ c, lastAt slot past = some c ∧ c.order.bill = o.bill ∧ c.Prices o

/-- What is completed in an event is priced by its own answers. -/
theorem prices_of_completion? (hb : Coherent b) (h : b.step e = some b') {c : Completion}
    (hc : b.completion? b' e = some c) :
    b'.service.orders.atSlot? c.slot = some c.order ∧ c.Prices c.order := by
  cases commits_of_step hb h with
  | nothing hnone _ => cases hnone.symm.trans hc
  | creation hitems hlength hjudge htotal horders hsome =>
    cases hsome.symm.trans hc
    refine ⟨?_, rfl, ?_⟩
    · rw [horders, OrderBook.atSlot?_insert, if_pos rfl]
    · have hdistinct := (LineItem.regular_ofInputs hitems).distinct
      obtain ⟨⟨products, hanswers, hproducts, hsame⟩, -⟩ :=
        judge_lines_eq_ok hdistinct hlength hjudge
      exact ⟨products, hanswers, hproducts, hsame ▸ htotal⟩
  | revision _ hslot _ _ hlength hprice horders hsome =>
    cases hsome.symm.trans hc
    refine ⟨?_, rfl, ?_⟩
    · rw [horders]
      exact OrderBook.atSlot?_put_self _ hslot
    · exact price_eq_ok hlength hprice

/-- An order is for what it was for, unless the event completes something on it. -/
theorem bill_of_step (hb : Coherent b) (h : b.step e = some b') (slot : Nat)
    (hc : ∀ c, b.completion? b' e = some c → c.slot ≠ slot) :
    (b'.service.orders.atSlot? slot).map Order.bill =
      (b.service.orders.atSlot? slot).map Order.bill := by
  cases commits_of_step hb h with
  | nothing _ hbill => exact hbill slot
  | creation _ _ _ _ horders hsome =>
    have hne : slot ≠ b.service.orders.size := fun heq => hc _ hsome heq.symm
    rw [horders, OrderBook.atSlot?_insert, if_neg hne]
  | revision _ _ _ _ _ _ horders hsome =>
    rw [horders, OrderBook.atSlot?_put_of_ne _ _ (hc _ hsome)]

theorem priced_step (hb : Coherent b) (h : b.step e = some b') {past : List Completion}
    (hp : Priced b past) : Priced b' (past ++ (b.completion? b' e).toList) := by
  intro slot o' ho'
  by_cases hcompletion : ∃ c, b.completion? b' e = some c ∧ c.slot = slot
  · obtain ⟨c, hc, rfl⟩ := hcompletion
    obtain ⟨ho, hprices⟩ := prices_of_completion? hb h hc
    cases ho.symm.trans ho'
    exact ⟨c, by rw [hc, Option.toList_some, lastAt_append_of_eq rfl], rfl, hprices⟩
  · have hother : ∀ c, b.completion? b' e = some c → c.slot ≠ slot :=
      fun c hc heq => hcompletion ⟨c, hc, heq⟩
    obtain ⟨o, ho, heq⟩ := OrderBook.exists_of_bill (bill_of_step hb h slot hother).symm ho'
    obtain ⟨c, hc, hcorder, hprices⟩ := hp slot o ho
    refine ⟨c, ?_, hcorder.trans heq, hprices.of_bill heq.symm⟩
    cases hnew : b.completion? b' e with
    | none => rw [Option.toList_none, List.append_nil, hc]
    | some c' => rw [Option.toList_some, lastAt_append_of_ne (hother c' hnew), hc]

theorem priced_run (hb : Coherent b) (h : b.run es = some b') {past : List Completion}
    (hp : Priced b past) : Priced b' (past ++ b.completions es) := by
  induction es generalizing b past with
  | nil =>
    cases h
    rw [completions, List.append_nil]
    exact hp
  | cons e es ih =>
    obtain ⟨b₁, hstep, hrun⟩ := run_cons_eq_some_iff.1 h
    rw [completions_cons hstep, ← List.append_assoc]
    exact ih (coherent_step hb hstep) hrun (priced_step hb hstep hp)

/-- **Totals are prices of lines.**  In every run that begins without orders, the total of each
order is the total of the lines that stand on it, each priced once and in their order, at the prices
which the catalog answered last for the placing of the order or for a change of it, whichever was
completed last.  A line of a new order always finds its product.  And an event leaves the lines and
the total of an order alone, unless it completes a placing or a change, which prices both anew. -/
theorem totals_are_prices {users : Accounts} (h : (ofService ⟨.empty, users⟩).run es = some b) :
    (∀ slot o, b.service.orders.atSlot? slot = some o →
      ∃ c products, lastAt slot ((ofService ⟨.empty, users⟩).completions es) = some c ∧
        c.order.id = o.id ∧ c.stage.questions = o.items.map (·.product) ∧
        c.answers = products.map .ok ∧ products.length = o.items.length ∧
        totalAt o.items products = .ok o.total) ∧
    (∀ call request owner items answers products,
      b.calls.get? call = some ⟨request, .asking (.creating owner items)⟩ →
      answers.length = items.length → judge (items.map (·.product)) answers = .ok products →
      ∀ item ∈ items, (products.lookup item.product).isSome) ∧
    ∀ e b₁ slot o, b.step e = some b₁ → b.service.orders.atSlot? slot = some o →
      ∃ o', b₁.service.orders.atSlot? slot = some o' ∧
        (o'.items = o.items ∧ o'.total = o.total ∨
          ∃ c, b.completion? b₁ e = some c ∧ c.slot = slot ∧ c.order = o' ∧ c.Prices o') := by
  have hb : Coherent b := coherent_run h
  refine ⟨?_, ?_, ?_⟩
  · intro slot o ho
    have hstart : Priced (ofService ⟨.empty, users⟩) [] := fun slot o ho => by cases ho
    obtain ⟨c, hc, hbill, hquestions, products, hproducts⟩ :=
      priced_run (coherent_ofService _) h hstart slot o ho
    exact ⟨c, products, hc, congrArg Prod.fst hbill, hquestions, hproducts⟩
  · intro call request owner items answers products hentry hlength hjudge item hitem
    cases hb.serves call _ hentry with
    | creating hitems =>
      have hdistinct := (LineItem.regular_ofInputs hitems).distinct
      exact (judge_lines_eq_ok hdistinct hlength hjudge).2 item hitem
  · intro e b₁ slot o hstep ho
    by_cases hcompletion : ∃ c, b.completion? b₁ e = some c ∧ c.slot = slot
    · obtain ⟨c, hc, rfl⟩ := hcompletion
      obtain ⟨ho', hprices⟩ := prices_of_completion? hb hstep hc
      exact ⟨c.order, ho', Or.inr ⟨c, hc, rfl, rfl, hprices⟩⟩
    · have hbill := bill_of_step hb hstep slot fun c hc heq => hcompletion ⟨c, hc, heq⟩
      obtain ⟨o', ho', heq⟩ := OrderBook.exists_of_bill hbill ho
      exact ⟨o', ho', Or.inl (Order.bill_eq_iff.1 heq).2⟩

open Rehearsal in
theorem totals_are_prices_when_overtaking :
    ∃ b o products, (ofService ⟨.empty, .empty⟩).run (ordering ++ looking ++ overtaking) = some b ∧
      b.service.orders.atSlot? 0 = some o ∧ products.length = o.items.length ∧
      totalAt o.items products = .ok o.total ∧ o.total.magnitude = 1000 ∧ o.total.scale = 2 := by
  have hrun : ((ofService ⟨.empty, .empty⟩).run (ordering ++ looking ++ overtaking)).bind
      (fun b => (b.service.orders.atSlot? 0).map fun o => (o.total.magnitude, o.total.scale)) =
        some (1000, 2) := by decide
  obtain ⟨b, hb, horder⟩ := Option.bind_eq_some_iff.1 hrun
  obtain ⟨o, ho, htotal⟩ := Option.map_eq_some_iff.1 horder
  rw [Prod.mk.injEq] at htotal
  obtain ⟨c, products, -, -, -, -, hlength, hprice⟩ := (totals_are_prices hb).1 0 o ho
  exact ⟨b, o, products, hb, ho, hlength, hprice, htotal⟩

end Switchboard

end OrderDesk
