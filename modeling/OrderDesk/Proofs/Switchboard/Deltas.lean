import OrderDesk.Proofs.Order.Faults
import OrderDesk.Proofs.Switchboard.Holding

/-!
# What changes are planned with

The lines of a change are added up once, before the order is looked at for the first time, and the
sums are what the change is planned with each time that the order is looked at.  So every plan is
made with each product named once, and with the exact sum of its amounts
(`changes_are_sums_of_inputs`).
-/

namespace OrderDesk

/-- What a call will plan with when it looks at its order next. -/
def Call.deltas? : Call → Option (List Delta)
  | .looking _ deltas => some deltas
  | .asking (.validating _ deltas _) => some deltas
  | _ => none

/-- A call plans with the sums of what its request says. -/
theorem Serves.deltas {book : OrderBook} {id : OrderId} {inputs : List LineInput} {c : Call}
    {deltas : List Delta} (h : Serves book (.revise id inputs) c) (hc : c.deltas? = some deltas) :
    Delta.ofInputs inputs = .ok deltas := by
  cases h with
  | looking hdeltas => exact Option.some.inj hc ▸ hdeltas
  | validating hdeltas => exact Option.some.inj hc ▸ hdeltas
  | confirming | pricing | ended => cases hc

namespace Switchboard

open Fallible

/-- **Changes are the sums of what was typed.**

* Typed lines can be read as a change just if there are any, each of them names a product, and no
  sum of the first lines of a product leaves 64 bits, however many they are.
* The sums name each product once, in the order of first appearance, with the exact sum of its
  amounts, be it zero.
* Otherwise the first line that names no product or takes a sum out of 64 bits decides the failure.
* Whatever happens meanwhile, whenever a call looks at an order to plan a change, it does so with
  these sums, and so with no product named twice. -/
theorem changes_are_sums_of_inputs (inputs : List LineInput) :
    ((∃ sums, Delta.ofInputs inputs = .ok sums) ↔ inputs ≠ [] ∧ LineInput.WellFormed inputs ∧
      ∀ part, part <+: LineInput.deltas inputs → ∀ p, Signed64.Holds (Delta.amountOf p part)) ∧
    (∀ sums, Delta.ofInputs inputs = .ok sums →
      sums.map (·.product) = ((LineInput.deltas inputs).map (·.product)).eraseDups ∧
      (sums.map (·.product)).Nodup ∧
      ∀ d ∈ sums, d.amount.val = Delta.amountOf d.product (LineInput.deltas inputs)) ∧
    (∀ e, Delta.ofInputs inputs = .error e ↔
      inputs = [] ∧ e = .emptyItems ∨ FirstFault Delta.fault? inputs e) ∧
    ∀ s es b, (ofService s).run es = some b → ∀ call id c deltas,
      b.calls.get? call = some ⟨.revise id inputs, c⟩ → c.deltas? = some deltas →
      Delta.ofInputs inputs = .ok deltas ∧ (deltas.map (·.product)).Nodup := by
  refine ⟨?_, fun sums h => ?_, fun e => Delta.ofInputs_eq_error_iff, ?_⟩
  · simp only [Delta.ofInputs_eq_ok_iff, exists_and_left]
    refine and_congr_right fun _ => and_congr_right fun _ => ⟨fun h => h.1, fun hfits => ?_⟩
    obtain ⟨sums, hsums⟩ := Delta.exists_collect_iff.2 hfits
    exact ⟨hfits, sums, Delta.sums_of_collect hsums⟩
  · obtain ⟨-, -, -, hsums⟩ := Delta.ofInputs_eq_ok_iff.1 h
    exact ⟨hsums.products, hsums.nodup, fun d hd => (hsums.mem_iff.1 hd).2⟩
  · intro s es b h call id c deltas hc hdeltas
    have hsums := ((coherent_run h).serves call _ hc).deltas hdeltas
    exact ⟨hsums, Delta.nodup_of_ofInputs hsums⟩

namespace Rehearsal

def twoLess : Signed64 := ⟨-2, by decide, by decide⟩

/-- A caller wants two teas more and then does not. -/
def wavering : Event :=
  .start (call 8) (.revise (order 1) [line two, line twoLess]) .nil midnight

end Rehearsal

open Rehearsal LineItem.Basket in
theorem changes_are_sums_of_inputs_when_wavering :
    (∃ b, (ofService .empty).run (ordering ++ [wavering]) = some b ∧
      b.calls.get? (call 8) = some ⟨.revise (order 1) [line two, line twoLess],
        .looking ⟨order 1, 0⟩ [⟨Rehearsal.tea.id, zero⟩]⟩ ∧
      Delta.ofInputs [line two, line twoLess] = .ok [⟨Rehearsal.tea.id, zero⟩] ∧
      zero.val =
        Delta.amountOf Rehearsal.tea.id (LineInput.deltas [line two, line twoLess])) ∧
    Delta.ofInputs [line vast, line vast, ⟨"tea", two⟩] =
      .error (.invalidQuantity Rehearsal.tea.id vast) := by
  obtain ⟨-, hsums, -, hruns⟩ := changes_are_sums_of_inputs [line two, line twoLess]
  obtain ⟨-, -, herror, -⟩ := changes_are_sums_of_inputs [line vast, line vast, ⟨"tea", two⟩]
  have hrun : ((ofService .empty).run (ordering ++ [wavering])).bind
      (fun b => b.calls.get? (call 8)) = some ⟨.revise (order 1) [line two, line twoLess],
        .looking ⟨order 1, 0⟩ [⟨Rehearsal.tea.id, zero⟩]⟩ := by rfl
  obtain ⟨b, hb, hc⟩ := Option.bind_eq_some_iff.1 hrun
  have hdeltas := (hruns _ _ b hb _ _ _ _ hc rfl).1
  refine ⟨⟨b, hb, hc, hdeltas, (hsums _ hdeltas).2.2 _ (List.mem_singleton_self _)⟩, ?_⟩
  exact (herror _).2 (Or.inr ⟨[line vast], line vast, [⟨"tea", two⟩], rfl, by decide,
    Delta.faultless_iff.1 ⟨_, rfl⟩⟩)

end Switchboard

end OrderDesk
