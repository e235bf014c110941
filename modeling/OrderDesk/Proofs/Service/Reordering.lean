import Mathlib.Tactic.NormNum
import OrderDesk.Proofs.Order.Revising
import OrderDesk.Proofs.Service.ExactTotals
import OrderDesk.Proofs.Store.Keys

/-!
# Changes in another order

A request for changes lists products with amounts, perhaps in several lines for one product.  The
lines may come in any order, up to two limits of the arithmetic behind them.  Amounts of one product
are added up in 64 bits from left to right, and a sum that leaves 64 bits on the way refuses the
request, even if the next amount would have led it back.  And the total is added up in the order of
the lines of the order, which follows the order of the request, and is rounded on the way if it has
too many digits.

* `Service.changes_commute` — apart from these two limits, changes commute.
* `Service.changes_need_not_commute` — at both of them the order of the lines matters.
-/

namespace OrderDesk

/-- An outcome hinges on the price of lines: with it, the order gets these lines. -/
def HingesOn (answer : ProductId → Answer) (o : Order) (lines : List LineItem)
    (result : Except OrderError Order) : Prop :=
  ∀ p, result = .ok p ↔
    ∃ total, priceBy answer lines = .ok total ∧ p = o.apply (.itemsReplaced lines total)

variable {answer : ProductId → Answer} {o o' p : Order} {inputs inputs' : List LineInput}
  {deltas deltas' : List Delta} {r r' : Revision} {lines lines' : List LineItem}
  {result result' : Except OrderError Order}

/-- Outcomes that hinge on the price of the same lines in different orders are alike, if the total
fits. -/
theorem HingesOn.perm (h : HingesOn answer o lines result) (h' : HingesOn answer o' lines' result')
    (hperm : lines.Perm lines') {places : Nat} (hfits : TotalFits (priced answer lines) places) :
    ((∃ p, result = .ok p) ↔ ∃ p', result' = .ok p') ∧
      ∀ p p', result = .ok p → result' = .ok p' → p.total.value = p'.total.value := by
  obtain ⟨hiff, hvalue⟩ := hfits.priceBy_perm hperm
  constructor
  · simp only [h _, h' _, exists_comm, exists_and_left, exists_eq, and_true]
    exact hiff
  · intro p p' hp hp'
    obtain ⟨total, htotal, rfl⟩ := (h p).1 hp
    obtain ⟨total', htotal', rfl⟩ := (h' p').1 hp'
    exact hvalue total total' htotal htotal'

/-! ## Requests in another order -/

/-- Requests in another order that can be read come to the same changes in another order. -/
theorem Delta.perm_of_ofInputs (hperm : inputs.Perm inputs') (h : ofInputs inputs = .ok deltas)
    (h' : ofInputs inputs' = .ok deltas') : deltas.Perm deltas' :=
  (ofInputs_eq_ok_iff.1 h).2.2.2.perm (ofInputs_eq_ok_iff.1 h').2.2.2 (hperm.filterMap _)

/-- A request can be read in another order if its sums fit 64 bits in this order, too. -/
theorem Delta.exists_ofInputs_of_perm (hperm : inputs.Perm inputs') (h : ofInputs inputs = .ok deltas)
    (hfits : Fits (LineInput.deltas inputs')) : ∃ deltas', ofInputs inputs' = .ok deltas' := by
  obtain ⟨hsome, hnamed, -, -⟩ := ofInputs_eq_ok_iff.1 h
  obtain ⟨deltas', hcollect⟩ := exists_collect_iff.2 hfits
  refine ⟨deltas', ofInputs_eq_ok_iff.2 ⟨fun hnil => hsome ?_, ?_, hfits, sums_of_collect hcollect⟩⟩
  · exact List.perm_nil.1 (hnil ▸ hperm)
  · exact (LineInput.WellFormed.perm hperm).1 hnamed

/-- An order that permits changes permits them in another order, with the same lines. -/
theorem Order.Permits.perm (h : o.Permits answer deltas r) (hitems : o'.items = o.items)
    (hstatus : o'.status = o.status) (hd : (deltas.map (·.product)).Nodup)
    (hperm : deltas.Perm deltas') : ∃ r', o'.Permits answer deltas' r' ∧ r.items.Perm r'.items := by
  obtain ⟨r', hr'⟩ := (LineItem.exists_revise_of_perm hd hperm).1 ⟨r, h.revised⟩
  have halike := LineItem.alike_of_perm hd hperm h.revised hr'
  refine ⟨r', ⟨hstatus.trans h.pending, ?_, fun id hid => ?_, fun item hitem => ?_⟩, halike.items⟩
  · rw [Order.revise, hitems]
    exact hr'
  · exact h.forSale id ((halike.added id).2 hid)
  · exact h.positive item (halike.items.mem_iff.2 hitem)

namespace Service

variable {κ : Type} {ask : κ → List ProductId → κ × List Answer} {s s₁ s' : Service}
  {id id' : OrderId} {now now' : Timestamp} {catalog catalog' : κ}

/-- The order that a change was made of is stored in its new form. -/
theorem order_of_reviseOrder (hask : Steady ask answer)
    (h : (s.reviseOrder ask now catalog id inputs).2 = (s₁, .ok p)) : s₁.order id = .ok p := by
  obtain ⟨deltas, slot, o, r, total, -, hslot, hat, -, -, rfl, rfl⟩ :=
    (reviseOrder_eq_ok_iff hask).1 h
  exact order_eq_ok_iff.2 (OrderBook.get?_put hslot hat rfl rfl)

/-- The outcome of a change that an order permits hinges on the price of its new lines. -/
theorem hingesOn_of_permits (hask : Steady ask answer) (ho : s.order id = .ok o)
    (hdeltas : Delta.ofInputs inputs = .ok deltas) (h : o.Permits answer deltas r)
    (now : Timestamp) (catalog : κ) :
    HingesOn answer o r.items (s.reviseOrder ask now catalog id inputs).2.2 := by
  intro p
  rw [reviseOrder_iff hask ho]
  constructor
  · rintro ⟨deltas', r', total, hdeltas', hpermits, hprice, rfl⟩
    cases hdeltas.symm.trans hdeltas'
    cases h.revised.symm.trans hpermits.revised
    exact ⟨total, hprice, rfl⟩
  · rintro ⟨total, hprice, rfl⟩
    exact ⟨deltas, r, total, hdeltas, h, hprice, rfl⟩

/-- **Changes commute**, up to the limits of the arithmetic.  Let two orders have the same lines and
status, let the catalog's answers not change, and let two requests differ in the order of their
lines only.  If both succeed, both orders hold the same lines afterwards.  And if no sum of amounts
leaves 64 bits in one order of the request alone, either both fail, or both come to the same lines,
perhaps in different orders, and hinge on the price of these; so once this price fits 96 bits
without rounding, both succeed or both fail, with the same total. -/
theorem changes_commute (hask : Steady ask answer) (ho : s.order id = .ok o)
    (ho' : s'.order id' = .ok o') (hitems : o'.items = o.items) (hstatus : o'.status = o.status)
    (hperm : inputs.Perm inputs') (now now' : Timestamp) (catalog catalog' : κ) :
    (∀ s₁ p s₁' p', (s.reviseOrder ask now catalog id inputs).2 = (s₁, .ok p) →
      (s'.reviseOrder ask now' catalog' id' inputs').2 = (s₁', .ok p') →
      s₁.order id = .ok p ∧ s₁'.order id' = .ok p' ∧ p.items.Perm p'.items) ∧
    ((Delta.Fits (LineInput.deltas inputs) ↔ Delta.Fits (LineInput.deltas inputs')) →
      ∀ result result', (s.reviseOrder ask now catalog id inputs).2.2 = result →
      (s'.reviseOrder ask now' catalog' id' inputs').2.2 = result' →
      ((∀ p, result ≠ .ok p) ∧ ∀ p, result' ≠ .ok p) ∨
      ∃ lines lines', lines.Perm lines' ∧ HingesOn answer o lines result ∧
        HingesOn answer o' lines' result' ∧
        ∀ places, TotalFits (priced answer lines) places →
          ((∃ p, result = .ok p) ↔ ∃ p', result' = .ok p') ∧
          ∀ p p', result = .ok p → result' = .ok p' → p.total.value = p'.total.value) := by
  constructor
  · intro s₁ p s₁' p' h h'
    refine ⟨order_of_reviseOrder hask h, order_of_reviseOrder hask h', ?_⟩
    obtain ⟨deltas, r, total, hdeltas, hpermits, -, rfl⟩ :=
      (reviseOrder_iff hask ho).1 (congrArg Prod.snd h)
    obtain ⟨deltas', r', total', hdeltas', hpermits', -, rfl⟩ :=
      (reviseOrder_iff hask ho').1 (congrArg Prod.snd h')
    obtain ⟨r₁, hpermits₁, hlines⟩ := hpermits.perm hitems hstatus (Delta.nodup_of_ofInputs hdeltas)
      (Delta.perm_of_ofInputs hperm hdeltas hdeltas')
    cases hpermits₁.revised.symm.trans hpermits'.revised
    exact hlines
  · rintro hfits _ _ rfl rfl
    by_cases hpossible : ∃ deltas r, Delta.ofInputs inputs = .ok deltas ∧ o.Permits answer deltas r
    · right
      obtain ⟨deltas, r, hdeltas, hpermits⟩ := hpossible
      obtain ⟨deltas', hdeltas'⟩ := Delta.exists_ofInputs_of_perm hperm hdeltas
        (hfits.1 (Delta.ofInputs_eq_ok_iff.1 hdeltas).2.2.1)
      obtain ⟨r', hpermits', hlines⟩ := hpermits.perm hitems hstatus
        (Delta.nodup_of_ofInputs hdeltas) (Delta.perm_of_ofInputs hperm hdeltas hdeltas')
      have hhinges := hingesOn_of_permits hask ho hdeltas hpermits now catalog
      have hhinges' := hingesOn_of_permits hask ho' hdeltas' hpermits' now' catalog'
      exact ⟨r.items, r'.items, hlines, hhinges, hhinges', fun places htotal =>
        hhinges.perm hhinges' hlines htotal⟩
    · left
      constructor
      · intro p hp
        obtain ⟨deltas, r, total, hdeltas, hpermits, -, -⟩ := (reviseOrder_iff hask ho).1 hp
        exact hpossible ⟨deltas, r, hdeltas, hpermits⟩
      · -- what can be done in the other order could be done in this one
        intro p hp
        obtain ⟨deltas', r', total, hdeltas', hpermits', -, -⟩ := (reviseOrder_iff hask ho').1 hp
        obtain ⟨deltas, hdeltas⟩ := Delta.exists_ofInputs_of_perm hperm.symm hdeltas'
          (hfits.2 (Delta.ofInputs_eq_ok_iff.1 hdeltas').2.2.1)
        obtain ⟨r, hpermits, -⟩ := hpermits'.perm hitems.symm hstatus.symm
          (Delta.nodup_of_ofInputs hdeltas') (Delta.perm_of_ofInputs hperm.symm hdeltas' hdeltas)
        exact hpossible ⟨deltas, r, hdeltas, hpermits⟩

/-! An order of one thread in a bazaar, where silver costs nearly all that 96 bits can count and
everything else three tenths. -/

namespace Rehearsal

open Switchboard.Rehearsal (midnight line one two)

def silver : Product where
  id := .ofNat 8
  name := "Silver"
  description := none
  price := { Decimal.zero with magnitude := 79228162514264337593543950331, fits := by decide }
  category := none
  available := true

def thread : Product where
  id := .ofNat 7
  name := "Thread"
  description := none
  price := ⟨false, 3, 1, by decide, by decide⟩
  category := none
  available := true

def bazaar (id : ProductId) : Answer := .ok (if id = silver.id then silver else thread)

def serveBazaar (catalog : Unit) (ids : List ProductId) : Unit × List Answer :=
  (catalog, ids.map bazaar)

theorem steady_serveBazaar : Steady serveBazaar bazaar := fun _ _ => rfl

theorem forSale_bazaar (id : ProductId) : ForSale bazaar id := by
  unfold ForSale bazaar
  split <;> exact ⟨_, rfl⟩

def waiting : Order := .place .nil midnight none [⟨thread.id, ⟨1, by decide, by decide⟩⟩] thread.price

def shop : Service := ⟨⟨[waiting]⟩, .empty⟩

/-- More of the product with a number from 0 to 9. -/
def want (digit : String) (quantity : Signed64) : LineInput :=
  ⟨"00000000-0000-0000-0000-00000000000" ++ digit, quantity⟩

def most : Signed64 := ⟨9223372036854775807, by decide, by decide⟩

def least : Signed64 := ⟨-9223372036854775807, by decide, by decide⟩

/-- A change of the order comes to lines that can be told in advance. -/
theorem exists_change {inputs : List LineInput} {deltas : List Delta} {r : Revision}
    {total : Decimal} (hdeltas : Delta.ofInputs inputs = .ok deltas)
    (hrevise : waiting.revise deltas = .ok r) (hpositive : ∀ item ∈ r.items, 0 < item.quantity.val)
    (htotal : priceBy bazaar r.items = .ok total) :
    ∃ p, (shop.reviseOrder serveBazaar midnight () .nil inputs).2.2 = .ok p ∧
      p.items = r.items ∧ p.total = total :=
  ⟨_, (reviseOrder_iff steady_serveBazaar rfl).2 ⟨deltas, r, total, hdeltas,
    ⟨rfl, hrevise, fun id _ => forSale_bazaar id, hpositive⟩, htotal, rfl⟩, rfl, rfl⟩

end Rehearsal

open Rehearsal Switchboard.Rehearsal in
theorem changes_commute_of_thread :
    ∃ p p',
      (shop.reviseOrder serveBazaar midnight () .nil
        [want "9" two, want "7" least, want "9" one]).2.2 = .ok p ∧
      (shop.reviseOrder serveBazaar midnight () .nil
        [want "9" one, want "9" two, want "7" least]).2.2 = .ok p' ∧
      p.items.Perm p'.items ∧ p.total.value = p'.total.value ∧ p.total.magnitude = 9 := by
  obtain ⟨p, hp, hitems, htotal⟩ :=
    @exists_change [want "9" two, want "7" least, want "9" one]
      [⟨.ofNat 9, ⟨3, by decide, by decide⟩⟩, ⟨.ofNat 7, least⟩]
      ⟨[⟨.ofNat 9, ⟨3, by decide, by decide⟩⟩], [.ofNat 9]⟩ ⟨false, 9, 1, by decide, by decide⟩
      (by decide) (by decide) (by decide) (by decide)
  have hperm : [want "9" two, want "7" least, want "9" one].Perm
      [want "9" one, want "9" two, want "7" least] := by decide
  have hwaiting : shop.order .nil = .ok waiting := rfl
  obtain ⟨hlines, hcommute⟩ :=
    changes_commute steady_serveBazaar hwaiting hwaiting rfl rfl hperm midnight midnight () ()
  have hfits : ∀ {inputs deltas}, Delta.ofInputs inputs = .ok deltas →
      Delta.Fits (LineInput.deltas inputs) := fun h => (Delta.ofInputs_eq_ok_iff.1 h).2.2.1
  rcases hcommute (iff_of_true (hfits rfl) (hfits rfl)) _ _ rfl rfl with
    ⟨hfail, -⟩ | ⟨lines, -, -, hhinges, -, hsame⟩
  · exact absurd hp (hfail p)
  · obtain ⟨total, -, hchanged⟩ := (hhinges p).1 hp
    have hsold : p.items = lines := by
      rw [hchanged]
      rfl
    have hthree : TotalFits (priced bazaar lines) 1 := by
      rw [← hsold, hitems]
      exact ⟨by decide, by decide, by decide⟩
    obtain ⟨hboth, hvalue⟩ := hsame 1 hthree
    obtain ⟨p', hp'⟩ := hboth.1 ⟨p, hp⟩
    obtain ⟨-, -, hperm⟩ := hlines _ p _ p' (Prod.ext rfl hp) (Prod.ext rfl hp')
    exact ⟨p, p', hp, hp', hperm, hvalue p p' hp hp', by rw [htotal]⟩

open Rehearsal Switchboard.Rehearsal in
/-- Two ways in which the order of a request matters: sums that leave 64 bits on the way, and totals
with too many digits. -/
theorem changes_need_not_commute :
    shop.order .nil = .ok waiting ∧ waiting.status = .pending ∧ Steady serveBazaar bazaar ∧
    ([want "7" most, want "7" least, want "7" one].Perm
        [want "7" most, want "7" one, want "7" least] ∧
      (∃ p, (shop.reviseOrder serveBazaar midnight () .nil
        [want "7" most, want "7" least, want "7" one]).2.2 = .ok p) ∧
      (shop.reviseOrder serveBazaar midnight () .nil
        [want "7" most, want "7" one, want "7" least]).2.2 =
          .error (.invalidQuantity (.ofNat 7) one)) ∧
    [want "8" one, want "9" one].Perm [want "9" one, want "8" one] ∧
    ∃ p p',
      (shop.reviseOrder serveBazaar midnight () .nil [want "8" one, want "9" one]).2.2 = .ok p ∧
      (shop.reviseOrder serveBazaar midnight () .nil [want "9" one, want "8" one]).2.2 = .ok p' ∧
      p.total.value ≠ p'.total.value := by
  refine ⟨rfl, rfl, steady_serveBazaar, ⟨by decide, ?_, rfl⟩, by decide, ?_⟩
  · obtain ⟨p, hp, -, -⟩ := @exists_change [want "7" most, want "7" least, want "7" one]
      [⟨.ofNat 7, one⟩] ⟨[⟨.ofNat 7, ⟨2, by decide, by decide⟩⟩], []⟩
      ⟨false, 6, 1, by decide, by decide⟩ (by decide) (by decide) (by decide) (by decide)
    exact ⟨p, hp⟩
  · obtain ⟨p, hp, -, htotal⟩ := @exists_change [want "8" one, want "9" one]
      [⟨.ofNat 8, one⟩, ⟨.ofNat 9, one⟩]
      ⟨[⟨.ofNat 7, ⟨1, by decide, by decide⟩⟩, ⟨.ofNat 8, ⟨1, by decide, by decide⟩⟩,
        ⟨.ofNat 9, ⟨1, by decide, by decide⟩⟩], [.ofNat 8, .ofNat 9]⟩
      ⟨false, 79228162514264337593543950331, 0, by decide, by decide⟩
      (by decide) (by decide) (by decide) (by decide)
    obtain ⟨p', hp', -, htotal'⟩ := @exists_change [want "9" one, want "8" one]
      [⟨.ofNat 9, one⟩, ⟨.ofNat 8, one⟩]
      ⟨[⟨.ofNat 7, ⟨1, by decide, by decide⟩⟩, ⟨.ofNat 9, ⟨1, by decide, by decide⟩⟩,
        ⟨.ofNat 8, ⟨1, by decide, by decide⟩⟩], [.ofNat 9, .ofNat 8]⟩
      ⟨false, 79228162514264337593543950332, 0, by decide, by decide⟩
      (by decide) (by decide) (by decide) (by decide)
    refine ⟨p, p', hp, hp', ?_⟩
    rw [htotal, htotal']
    norm_num [Decimal.value, Decimal.mantissa]

end Service

end OrderDesk
