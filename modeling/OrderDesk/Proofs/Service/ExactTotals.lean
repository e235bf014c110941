import Mathlib.Algebra.BigOperators.Group.List.Basic
import OrderDesk.Proofs.Decimal.Exact
import OrderDesk.Proofs.Service.Steady

/-!
# Totals that are exact

The total of lines is added up from left to right, and rounded on the way if it has to be.  It does
not have to be if what the lines cost is small enough to be counted in units of the last place of
all prices (`TotalFits`).  Then the total is the exact sum, and the order of the lines makes no
difference.

* `foldlM_charge_exact` — lines whose costs fit are added up exactly, from any total on.
* `TotalFits.priceBy_eq` — a total that fits is the exact sum of what the lines cost.
* `TotalFits.priceBy_perm` — the same lines in another order have the same total, if it fits.
-/

namespace OrderDesk

/-- What a line costs, in units of the last of so many places. -/
def cost (places : Nat) (line : LineItem × Product) : Int :=
  line.1.quantity.val * line.2.price.mantissaAt places

/-- No price has more than so many places, and in units of the last of them all costs together stay
below 96 bits. -/
structure TotalFits (lines : List (LineItem × Product)) (places : Nat) : Prop where
  places_le : places ≤ 28
  scale_le : ∀ line ∈ lines, line.2.price.scale ≤ places
  fits : (lines.map fun line => (cost places line).natAbs).sum < Decimal.magnitudeLimit

variable {places : Nat} {n : Int} {total : Decimal} {lines lines' : List (LineItem × Product)}

/-! ## One line more -/

theorem charge_exact {line : LineItem × Product} (htotal : total.Counts places n)
    (hplaces : places ≤ 28) (hscale : line.2.price.scale ≤ places)
    (hcost : (cost places line).natAbs < Decimal.magnitudeLimit)
    (hsum : (n + cost places line).natAbs < Decimal.magnitudeLimit) :
    ∃ total', charge total line.2 line.1.quantity = .ok total' ∧
      total'.Counts places (n + cost places line) := by
  have hquantity : line.1.quantity.val.natAbs < Decimal.magnitudeLimit := by
    have hlo := line.1.quantity.lo_le
    have hhi := line.1.quantity.le_hi
    have hlimit : 2147483648 < Decimal.magnitudeLimit := by decide
    omega
  obtain ⟨number, hnumber, hcounts⟩ := Decimal.Counts.exists_ofInt? hquantity
  have hprice : line.2.price.Counts places (line.2.price.mantissaAt places) := ⟨hscale, rfl⟩
  rw [cost, Int.mul_comm] at hcost hsum ⊢
  obtain ⟨product, hproduct, hcounts⟩ := hprice.mul? hcounts hplaces hcost
  obtain ⟨total', htotal', hcounts⟩ := htotal.add? hcounts hplaces hsum
  refine ⟨total', ?_, hcounts⟩
  unfold charge
  simp only [hnumber, hproduct, htotal', bind, Option.bind]

/-- **Lines whose costs fit are added up exactly.** -/
theorem foldlM_charge_exact {start : Decimal} (hstart : start.Counts places n)
    (hplaces : places ≤ 28) (hscale : ∀ line ∈ lines, line.2.price.scale ≤ places)
    (hfits : n.natAbs + (lines.map fun line => (cost places line).natAbs).sum <
      Decimal.magnitudeLimit) :
    ∃ total, lines.foldlM (fun total line => charge total line.2 line.1.quantity) start =
        .ok total ∧ total.Counts places (n + (lines.map (cost places)).sum) := by
  induction lines generalizing start n with
  | nil =>
    rw [List.map_nil, List.sum_nil, Int.add_zero]
    exact ⟨start, rfl, hstart⟩
  | cons line lines ih =>
    rw [List.forall_mem_cons] at hscale
    rw [List.map_cons, List.sum_cons] at hfits
    have hsum := Int.natAbs_add_le n (cost places line)
    obtain ⟨next, hcharge, hnext⟩ :=
      charge_exact hstart hplaces hscale.1 (by omega) (by omega)
    obtain ⟨total, htotal, hcounts⟩ := ih hnext hscale.2 (by omega)
    refine ⟨total, ?_, ?_⟩
    · rw [List.foldlM_cons, hcharge]
      exact htotal
    · rw [List.map_cons, List.sum_cons, ← Int.add_assoc]
      exact hcounts

theorem TotalFits.foldlM_charge (h : TotalFits lines places) :
    ∃ total, lines.foldlM (fun total line => charge total line.2 line.1.quantity) Decimal.zero =
        .ok total ∧ total.Counts places (lines.map (cost places)).sum := by
  have hfits : (0 : Int).natAbs + (lines.map fun line => (cost places line).natAbs).sum <
      Decimal.magnitudeLimit := by
    rw [Int.natAbs_zero, Nat.zero_add]
    exact h.fits
  have hexact := foldlM_charge_exact (Decimal.Counts.zero places) h.places_le h.scale_le hfits
  rwa [Int.zero_add] at hexact

/-! ## Lines at the prices of a catalog -/

/-- Lines with the products that the catalog knows of them. -/
def priced (answer : ProductId → Answer) (items : List LineItem) : List (LineItem × Product) :=
  items.filterMap fun item => (answer item.product).toOption.map fun p => (item, p)

variable {answer : ProductId → Answer} {items items' : List LineItem}

theorem foldlM_chargeAnswer_eq_ok_iff {start : Decimal} :
    (items.zip (items.map fun item => answer item.product)).foldlM chargeAnswer start = .ok total ↔
      (∀ item ∈ items, (answer item.product).isOk) ∧
        (priced answer items).foldlM (fun total line => charge total line.2 line.1.quantity) start =
          .ok total := by
  induction items generalizing start with
  | nil => simp [priced]
  | cons item items ih =>
    rw [List.map_cons, List.zip_cons_cons, List.foldlM_cons, List.forall_mem_cons, priced,
      List.filterMap_cons, Fallible.bind_eq_ok_iff]
    cases hanswer : answer item.product with
    | error e =>
      refine ⟨fun ⟨next, hnext, _⟩ => ?_, fun ⟨⟨h, _⟩, _⟩ => (by cases h)⟩
      obtain ⟨p, hp, -⟩ := chargeAnswer_eq_ok hnext
      cases hp
    | ok p =>
      dsimp only [Except.toOption, Option.map_some]
      rw [List.foldlM_cons, Fallible.bind_eq_ok_iff]
      constructor
      · rintro ⟨next, hnext, hrest⟩
        exact ⟨⟨rfl, (ih.1 hrest).1⟩, next, hnext, (ih.1 hrest).2⟩
      · rintro ⟨⟨-, hall⟩, next, hnext, hrest⟩
        exact ⟨next, hnext, ih.2 ⟨hall, hrest⟩⟩

/-- The catalog prices lines if it knows all of their products and they can be added up. -/
theorem priceBy_eq_ok_iff :
    priceBy answer items = .ok total ↔ (∀ item ∈ items, (answer item.product).isOk) ∧
      (priced answer items).foldlM (fun total line => charge total line.2 line.1.quantity)
        Decimal.zero = .ok total :=
  foldlM_chargeAnswer_eq_ok_iff

theorem TotalFits.perm (h : TotalFits lines places) (hperm : lines.Perm lines') :
    TotalFits lines' places where
  places_le := h.places_le
  scale_le line hline := h.scale_le line (hperm.mem_iff.2 hline)
  fits := by
    rw [← (hperm.map fun line => (cost places line).natAbs).sum_eq]
    exact h.fits

/-- **A total that fits is the exact sum.** -/
theorem TotalFits.priceBy_eq (h : TotalFits (priced answer items) places) :
    ((∃ total, priceBy answer items = .ok total) ↔ ∀ item ∈ items, (answer item.product).isOk) ∧
      ∀ total, priceBy answer items = .ok total →
        total.Counts places ((priced answer items).map (cost places)).sum := by
  obtain ⟨total, htotal, hcounts⟩ := h.foldlM_charge
  simp only [priceBy_eq_ok_iff, htotal]
  refine ⟨⟨fun ⟨_, hall, _⟩ => hall, fun hall => ⟨total, hall, rfl⟩⟩, ?_⟩
  rintro _ ⟨-, ⟨⟩⟩
  exact hcounts

/-- **The same lines in another order have the same total**, if it fits. -/
theorem TotalFits.priceBy_perm (h : TotalFits (priced answer items) places)
    (hperm : items.Perm items') :
    ((∃ total, priceBy answer items = .ok total) ↔ ∃ total, priceBy answer items' = .ok total) ∧
      ∀ total total', priceBy answer items = .ok total → priceBy answer items' = .ok total' →
        total.value = total'.value := by
  have hpriced : (priced answer items).Perm (priced answer items') := hperm.filterMap _
  obtain ⟨hiff, hexact⟩ := h.priceBy_eq
  obtain ⟨hiff', hexact'⟩ := (h.perm hpriced).priceBy_eq
  constructor
  · rw [hiff, hiff']
    simp only [hperm.mem_iff]
  · intro total total' htotal htotal'
    rw [(hexact total htotal).value_eq, (hexact' total' htotal').value_eq,
      (hpriced.map (cost places)).sum_eq]

end OrderDesk
