import Mathlib.Tactic.NormNum
import OrderDesk.Proofs.Catalog.Worth
import OrderDesk.Proofs.Switchboard.Inquiries

/-!
# Runs beside a catalog that does not change

Other calls may do anything between the questions of a call, but where all answers come from one
catalog (`Switchboard.AnsweredBy`) they cannot do much: every order has the total of its lines at
the prices of this catalog (`OrderBook.PricedBy`), and what a change adds to an order is for sale in
it.  So a change that has come so far that its lines are priced finds a price for each of them
(`Settled.answered_of_pricing`).

**`Switchboard.totals_are_exact`** — totals are exact whenever they fit, and beside the built-in
catalog, where they always do, no pricing fails and every order costs just what its lines are worth.
-/

namespace OrderDesk

variable {answer : ProductId → Answer} {id : ProductId}

/-- Every order has the total of its lines at the prices of a catalog. -/
def OrderBook.PricedBy (answer : ProductId → Answer) (b : OrderBook) : Prop :=
  ∀ slot o, b.atSlot? slot = some o → priceBy answer o.items = .ok o.total

theorem ForSale.isOk (h : ForSale answer id) : (answer id).isOk := by
  obtain ⟨p, hp⟩ := h
  rw [Answer.forSale_eq_ok hp]
  rfl

/-- What a catalog has said can be bought is for sale, as long as it says the same. -/
theorem Cleared.forSale {told : List (ProductId × Answer)} (h : Cleared told id)
    (htold : ∀ q ∈ told, q.2 = answer q.1) : ForSale answer id := by
  obtain ⟨a, p, hmem, hp⟩ := h
  exact ⟨p, htold _ hmem ▸ hp⟩

/-! ## Demo data -/

namespace Demo

/-- The lines of the demo orders, with their totals. -/
theorem bills_load (now : Timestamp) :
    (load now .empty).map (fun s => s.orders.orders.map fun o => (o.items, o.total)) =
      .ok ((orders ⟨0, 0, 0⟩).map fun o => (o.items, o.total)) :=
  rfl

theorem pricedBy_of_load {now : Timestamp} {s : Service} (h : load now .empty = .ok s) :
    s.orders.PricedBy Assortment.builtIn.answer := by
  have hbills := bills_load now
  rw [h, Except.map, Except.ok.injEq] at hbills
  have hall : ∀ o ∈ orders ⟨0, 0, 0⟩,
      priceBy Assortment.builtIn.answer o.items = .ok o.total := by
    decide
  intro slot o ho
  have hmem : (o.items, o.total) ∈ s.orders.orders.map fun o => (o.items, o.total) :=
    List.mem_map_of_mem (List.mem_of_getElem? ho)
  rw [hbills] at hmem
  obtain ⟨o', ho', heq⟩ := List.mem_map.1 hmem
  obtain ⟨hitems, htotal⟩ := Prod.mk.inj heq
  rw [← hitems, ← htotal]
  exact hall o' ho'

end Demo

namespace Switchboard

variable {s : Service} {b b' : Switchboard} {e : Event} {es : List Event} {caller : CallId}

/-- All answers in a run are those of one catalog. -/
def AnsweredBy (answer : ProductId → Answer) (b : Switchboard) : List Event → Prop
  | [] => True
  | e :: es =>
    (∀ entry ∈ b.calls.get? e.call, e.answers = entry.call.questions.map answer) ∧
      ∀ b' ∈ b.step e, AnsweredBy answer b' es

instance decidableAnsweredBy (answer : ProductId → Answer) :
    (b : Switchboard) → (es : List Event) → Decidable (AnsweredBy answer b es)
  | _, [] => .isTrue trivial
  | b, e :: es =>
    have : ∀ b', Decidable (AnsweredBy answer b' es) := fun b' => decidableAnsweredBy answer b' es
    inferInstanceAs (Decidable (_ ∧ ∀ b' ∈ b.step e, AnsweredBy answer b' es))

/-! ## Totals of orders -/

/-- What is completed is priced at once by what the catalog says; no other total changes. -/
theorem pricedBy_step (hb : Coherent b) (h : b.step e = some b')
    (hanswers : ∀ entry ∈ b.calls.get? e.call, e.answers = entry.call.questions.map answer)
    (hpriced : b.service.orders.PricedBy answer) : b'.service.orders.PricedBy answer := by
  intro slot o' ho'
  by_cases hcompletion : ∃ c, b.completion? b' e = some c ∧ c.slot = slot
  · obtain ⟨c, hc, rfl⟩ := hcompletion
    obtain ⟨ho, hquestions, products, hproducts, -, htotal⟩ := prices_of_completion? hb h hc
    obtain ⟨fresh, now, rfl⟩ := advance_of_completion? hc
    obtain ⟨-, hentry, -⟩ := completion?_eq_some hc
    cases ho.symm.trans ho'
    have hsaid : c.answers = c.stage.questions.map answer := hanswers _ hentry
    rw [hquestions, List.map_map] at hsaid
    rw [← htotal, ← price_map_ok, ← hproducts, hsaid]
    rfl
  · have hbill := bill_of_step hb h slot fun c hc heq => hcompletion ⟨c, hc, heq⟩
    obtain ⟨o, ho, heq⟩ := OrderBook.exists_of_bill hbill.symm ho'
    obtain ⟨-, hitems, htotal⟩ := Order.bill_eq_iff.1 heq
    rw [← hitems, ← htotal]
    exact hpriced slot o ho

theorem pricedBy_run (hb : Coherent b) (hanswers : AnsweredBy answer b es)
    (h : b.run es = some b') (hpriced : b.service.orders.PricedBy answer) :
    b'.service.orders.PricedBy answer := by
  induction es generalizing b with
  | nil =>
    cases h
    exact hpriced
  | cons e es ih =>
    obtain ⟨b₁, hstep, hrun⟩ := run_cons_eq_some_iff.1 h
    obtain ⟨hfirst, hrest⟩ := hanswers
    exact ih (coherent_step hb hstep) (hrest b₁ hstep) hrun (pricedBy_step hb hstep hfirst hpriced)

/-! ## What calls have been told -/

theorem validation_answered
    (hanswers : ∀ entry ∈ b.calls.get? e.call, e.answers = entry.call.questions.map answer) :
    ∀ q ∈ b.validation caller e, q.2 = answer q.1 := by
  intro q hq
  unfold validation at hq
  split at hq
  · cases hq
  · next id answers fresh now =>
    split at hq
    · next request stage hentry =>
      split at hq
      · have hsaid : answers = stage.questions.map answer := hanswers _ hentry
        rw [hsaid, zip_map_answer] at hq
        obtain ⟨id, -, rfl⟩ := List.mem_map.1 hq
        rfl
      · cases hq
    · cases hq

theorem validations_answered (hanswers : AnsweredBy answer b es) (h : b.run es = some b') :
    ∀ q ∈ b.validations caller es, q.2 = answer q.1 := by
  induction es generalizing b with
  | nil => exact fun q hq => absurd hq List.not_mem_nil
  | cons e es ih =>
    obtain ⟨b₁, hstep, hrun⟩ := run_cons_eq_some_iff.1 h
    obtain ⟨hfirst, hrest⟩ := hanswers
    intro q hq
    rw [validations_cons hstep] at hq
    rcases List.mem_append.1 hq with hq | hq
    · exact validation_answered hfirst q hq
    · exact ih (hrest b₁ hstep) hrun q hq

/-! ## Runs -/

/-- What is true of every state that is reached beside one catalog. -/
structure Settled (answer : ProductId → Answer) (b : Switchboard) : Prop where
  coherent : Coherent b
  regular : b.service.orders.Regular
  priced : b.service.orders.PricedBy answer
  added : ∀ call r ref revision, b.calls.get? call = some ⟨r, .asking (.pricing ref revision)⟩ →
    ∀ id ∈ revision.added, ForSale answer id

theorem settled_run (hr : s.orders.Regular) (hpriced : s.orders.PricedBy answer)
    (hanswers : AnsweredBy answer (ofService s) es) (h : (ofService s).run es = some b) :
    Settled answer b := by
  have hb := coherent_ofService s
  obtain ⟨hcoherent, hregular⟩ := regular_run hb hr h
  refine ⟨hcoherent, hregular, pricedBy_run hb hanswers h hpriced, ?_⟩
  intro call r ref revision hcall id hid
  have hbacked : Backed (ofService s) fun _ => [] := fun call r c hc => by cases hc
  have hcleared : Cleared ((ofService s).validations call es) id :=
    backed_run h hbacked call r _ hcall id hid
  exact hcleared.forSale (validations_answered hanswers h)

namespace Settled

variable {call : CallId} {r : Request} {ref : OrderRef} {revision : Revision}

theorem regular_of_pricing (hb : Settled answer b)
    (hcall : b.calls.get? call = some ⟨r, .asking (.pricing ref revision)⟩) :
    LineItem.Regular revision.items := by
  cases hb.coherent.serves call _ hcall with
  | pricing hplan =>
    obtain ⟨deltas, o, -, hslot, -, -, hrevise⟩ := hplan
    exact LineItem.regular_revise (hb.regular ref.slot o hslot) hrevise

/-- A change whose lines are being priced finds a price for each of them: a line was on the order
before, and had a price, or is for a product that was validated. -/
theorem answered_of_pricing (hb : Settled answer b)
    (hcall : b.calls.get? call = some ⟨r, .asking (.pricing ref revision)⟩) :
    ∀ item ∈ revision.items, (answer item.product).isOk := by
  have hadded := hb.added call r ref revision hcall
  cases hb.coherent.serves call _ hcall with
  | pricing hplan =>
    obtain ⟨deltas, o, -, hslot, -, -, hrevise⟩ := hplan
    have hold := (priceBy_eq_ok_iff.1 (hb.priced ref.slot o hslot)).1
    intro item hitem
    have hmem : item.product ∈ revision.items.map (·.product) := List.mem_map_of_mem hitem
    rcases LineItem.mem_products_revise hrevise _ hmem with hproduct | hproduct
    · obtain ⟨line, hline, heq⟩ := List.mem_map.1 hproduct
      rw [← heq]
      exact hold line hline
    · exact (hadded _ hproduct).isOk

end Settled

/-! ## The built-in catalog -/

open Assortment (builtIn isOk_answer_iff priceBy_builtIn)

theorem settled_builtIn (hs : s = .empty ∨ ∃ now, Demo.load now .empty = .ok s)
    (hanswers : AnsweredBy builtIn.answer (ofService s) es)
    (h : (ofService s).run es = some b) : Settled builtIn.answer b := by
  refine settled_run (regular_start hs) ?_ hanswers h
  rcases hs with rfl | ⟨now, hload⟩
  · exact fun slot o ho => by cases ho
  · exact Demo.pricedBy_of_load hload

/-- **Totals are exact whenever they fit.**  Take lines with positive quantities and prices that are
not negative.  If what they are worth, in units of the last place of all prices, is less than 96
bits hold, then a new order with these lines and a change to these lines both get exactly this
total, in whatever order the lines stand.

Beside the built-in catalog totals always fit.  In every run from nothing or from the demo data, if
all answers are those of this catalog, then a new order whose products are judged good gets a total,
and so does a change that has come so far that its lines are priced; and in every state the total of
each order is the sum of quantity times price over its lines, all of which have a price. -/
theorem totals_are_exact :
    (∀ lines : List (LineItem × Product),
      (∀ line ∈ lines, 0 < line.1.quantity.val ∧ 0 ≤ line.2.price.value) →
      worthOf lines * 10 ^ maxPlaces lines < 2 ^ 96 →
      ∀ lines', lines.Perm lines' → ∃ total,
        price (lines'.map (·.1)) (lines'.map fun line => .ok line.2) = .ok total ∧
        total.value = worthOf lines ∧
        ∀ table : List (ProductId × Product),
          (∀ line ∈ lines', table.lookup line.1.product = some line.2) →
          totalOf table (lines'.map (·.1)) = .ok total) ∧
    ∀ s es b, (s = .empty ∨ ∃ now, Demo.load now .empty = .ok s) →
      (ofService s).run es = some b → AnsweredBy builtIn.answer (ofService s) es →
      (∀ call r owner items judged,
        b.calls.get? call = some ⟨r, .asking (.creating owner items)⟩ →
        judge (items.map (·.product)) ((items.map (·.product)).map builtIn.answer) = .ok judged →
        ∃ total, totalOf judged items = .ok total ∧ total.value = builtIn.worth items) ∧
      (∀ call r ref revision,
        b.calls.get? call = some ⟨r, .asking (.pricing ref revision)⟩ →
        ∃ total, price revision.items ((revision.items.map (·.product)).map builtIn.answer) =
          .ok total ∧ total.value = builtIn.worth revision.items) ∧
      ∀ slot o, b.service.orders.atSlot? slot = some o →
        (∀ item ∈ o.items, (builtIn.get? item.product).isSome) ∧
        o.total.value = builtIn.worth o.items := by
  refine ⟨?_, fun s es b hs h hanswers => ?_⟩
  · intro lines hlines hworth lines' hperm
    have hfits := TotalFits.of_worth (fun line hline => (hlines line hline).1)
      (fun line hline => (hlines line hline).2) hworth
    obtain ⟨total, htotal, hvalue, htable⟩ := (hfits.perm hperm).total_exact
    exact ⟨total, htotal, hvalue.trans (worthOf_perm hperm), htable⟩
  · have hb := settled_builtIn hs hanswers h
    refine ⟨?_, ?_, ?_⟩
    · intro call r owner items judged hcall hjudge
      cases hb.coherent.serves call _ hcall with
      | creating hitems =>
        have hdistinct := (LineItem.regular_ofInputs hitems).distinct
        have hsale := forSale_of_judge_map hjudge
        rw [totalOf_eq_priceBy hdistinct hjudge]
        refine priceBy_builtIn hdistinct fun item hitem => ?_
        exact isOk_answer_iff.1 (hsale _ (List.mem_map_of_mem hitem)).isOk
    · intro call r ref revision hcall
      rw [List.map_map]
      refine priceBy_builtIn (hb.regular_of_pricing hcall).distinct fun item hitem => ?_
      exact isOk_answer_iff.1 (hb.answered_of_pricing hcall item hitem)
    · intro slot o ho
      have htotal := hb.priced slot o ho
      have hknown : ∀ item ∈ o.items, (builtIn.get? item.product).isSome := fun item hitem =>
        isOk_answer_iff.1 ((priceBy_eq_ok_iff.1 htotal).1 item hitem)
      obtain ⟨total, hsame, hvalue⟩ := priceBy_builtIn (hb.regular slot o ho).distinct hknown
      cases hsame.symm.trans htotal
      exact ⟨hknown, hvalue⟩

/-! ### A large order -/

namespace Rehearsal

def most : Quantity := ⟨2147483647, by decide, by decide⟩

def laptops : LineInput := ⟨"550e8400-e29b-41d4-a716-446655440000", LineItem.wide most⟩

def mice : LineInput := ⟨"550e8400-e29b-41d4-a716-446655440001", LineItem.wide most⟩

/-- As many laptops as possible are ordered, and then as many mice; meanwhile somebody else orders
mice only. -/
def equipping : List Event :=
  [.start (call 10) (.create ⟨none, [laptops]⟩) .nil midnight,
    .advance (call 10) [builtIn.answer (Assortment.productId 0)] (order 10) midnight,
    .start (call 11) (.revise (order 10) [mice]) .nil midnight,
    .advance (call 11) [] .nil midnight,
    .advance (call 11) [builtIn.answer (Assortment.productId 1)] .nil midnight,
    .start (call 12) (.create ⟨none, [mice]⟩) .nil midnight]

/-- The lines of the large order, and what is new on it. -/
def equipment : Revision where
  items := [⟨Assortment.productId 0, most⟩, ⟨Assortment.productId 1, most⟩]
  added := [Assortment.productId 1]

/-- Three teas, and four spoons whose price has a place more. -/
def teatime : List (LineItem × Product) :=
  [(⟨tea.id, ⟨3, by decide, by decide⟩⟩, tea),
    (⟨.ofNat 8, ⟨4, by decide, by decide⟩⟩,
      ⟨.ofNat 8, "Spoon", none, ⟨false, 125, 3, by decide, by decide⟩, none, true⟩)]

theorem worthOf_teatime : worthOf teatime = 8 := by
  have hcents : UInt32.toNat 250 = 250 := rfl
  norm_num [worthOf, worth, teatime, tea, Decimal.value, Decimal.mantissa, Decimal.ofHundredths,
    hcents]

theorem priced_teatime :
    ∀ line ∈ teatime, 0 < line.1.quantity.val ∧ 0 ≤ line.2.price.value := by
  have hsign : ∀ line ∈ teatime, 0 < line.1.quantity.val ∧ line.2.price.isNegative = false := by
    decide
  exact fun line hline =>
    ⟨(hsign line hline).1, Decimal.value_nonneg (hsign line hline).2⟩

end Rehearsal

open Rehearsal in
theorem totals_are_exact_beside_large_order :
    (∃ total, price (teatime.reverse.map (·.1)) (teatime.reverse.map fun line => .ok line.2) =
      .ok total ∧ total.value = 8) ∧
    ∃ b o judged, (ofService .empty).run equipping = some b ∧
      AnsweredBy builtIn.answer (ofService .empty) equipping ∧
      b.service.orders.atSlot? 0 = some o ∧ o.items = [⟨Assortment.productId 0, most⟩] ∧
      o.total.value = builtIn.worth o.items ∧
      (∃ total, price equipment.items
          ((equipment.items.map (·.product)).map builtIn.answer) = .ok total ∧
        total.value = builtIn.worth equipment.items) ∧
      judge [Assortment.productId 1] [builtIn.answer (Assortment.productId 1)] = .ok judged ∧
      ∃ total, totalOf judged [⟨Assortment.productId 1, most⟩] = .ok total ∧
        total.value = builtIn.worth [⟨Assortment.productId 1, most⟩] := by
  have hworth : worthOf teatime * 10 ^ maxPlaces teatime < 2 ^ 96 := by
    have hplaces : maxPlaces teatime = 3 := by decide
    rw [worthOf_teatime, hplaces]
    norm_num
  obtain ⟨total, htotal, hvalue, -⟩ :=
    totals_are_exact.1 teatime priced_teatime hworth _ (List.reverse_perm _).symm
  refine ⟨⟨total, htotal, hvalue.trans worthOf_teatime⟩, ?_⟩
  have hanswers : AnsweredBy builtIn.answer (ofService .empty) equipping := by decide
  have hrun : ((ofService .empty).run equipping).bind (fun b =>
      (b.service.orders.atSlot? 0).bind fun o => (b.calls.get? (call 11)).bind fun change =>
        (b.calls.get? (call 12)).map fun creation => (o.items, change.call, creation.call)) =
      some ([⟨Assortment.productId 0, most⟩], .asking (.pricing ⟨order 10, 0⟩ equipment),
        .asking (.creating none [⟨Assortment.productId 1, most⟩])) := by rfl
  obtain ⟨b, hb, hrun⟩ := Option.bind_eq_some_iff.1 hrun
  obtain ⟨o, ho, hrun⟩ := Option.bind_eq_some_iff.1 hrun
  obtain ⟨⟨r, c⟩, hc, hrun⟩ := Option.bind_eq_some_iff.1 hrun
  obtain ⟨⟨r', c'⟩, hc', hrun⟩ := Option.map_eq_some_iff.1 hrun
  obtain ⟨hitems, hcalls⟩ := Prod.mk.inj hrun
  obtain ⟨rfl, rfl⟩ := Prod.mk.inj hcalls
  obtain ⟨hcreating, hpricing, hstored⟩ := totals_are_exact.2 _ _ b (.inl rfl) hb hanswers
  have hsale : ∀ id ∈ [Assortment.productId 1], ForSale builtIn.answer id :=
    List.forall_mem_singleton.2 ⟨_, rfl⟩
  obtain ⟨judged, hjudge⟩ := judge_eq_ok_of_forSale hsale
  exact ⟨b, o, judged, hb, hanswers, ho, hitems, (hstored 0 o ho).2, hpricing _ _ _ _ hc, hjudge,
    hcreating _ _ _ _ judged hc' hjudge⟩

end Switchboard

end OrderDesk
