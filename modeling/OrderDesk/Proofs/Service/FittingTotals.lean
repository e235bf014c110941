import Mathlib.Tactic.Positivity
import OrderDesk.Proofs.Service.ExactTotals

/-!
# Which totals fit

What lines are worth is a sum of numbers, not of decimals (`worthOf`).  If it is small enough for 96
bits when it is counted in units of the last place of all prices, then no step of the addition has
to round, whatever the order of the lines (`TotalFits.of_worth`, `TotalFits.total_exact`).

Nothing but the exact sum is bounded: each cost is no larger than all of them together, because
prices and quantities are not negative.
-/

namespace OrderDesk

/-- What a line is worth. -/
def worth (line : LineItem × Product) : ℚ := line.2.price.value * line.1.quantity.val

/-- What lines are worth together. -/
def worthOf (lines : List (LineItem × Product)) : ℚ := (lines.map worth).sum

/-- The largest number of places of a price. -/
def maxPlaces (lines : List (LineItem × Product)) : Nat :=
  (lines.map (·.2.price.scale)).foldr max 0

variable {places : Nat} {line : LineItem × Product} {lines lines' : List (LineItem × Product)}

/-! ## Places -/

theorem scale_le_maxPlaces (h : line ∈ lines) : line.2.price.scale ≤ maxPlaces lines := by
  induction lines with
  | nil => cases h
  | cons first lines ih =>
    rcases List.mem_cons.1 h with rfl | h
    · exact Nat.le_max_left ..
    · exact Nat.le_trans (ih h) (Nat.le_max_right ..)

theorem maxPlaces_le (lines : List (LineItem × Product)) : maxPlaces lines ≤ 28 := by
  induction lines with
  | nil => exact Nat.zero_le 28
  | cons first lines ih => exact Nat.max_le.2 ⟨first.2.price.scale_le, ih⟩

/-! ## Costs and what lines are worth -/

theorem cost_eq (h : line.2.price.scale ≤ places) :
    (cost places line : ℚ) = worth line * 10 ^ places := by
  have hprice : line.2.price.Counts places (line.2.price.mantissaAt places) := ⟨h, rfl⟩
  rw [worth, hprice.value_eq, cost]
  push_cast
  field_simp

theorem sum_cost_eq (h : ∀ line ∈ lines, line.2.price.scale ≤ places) :
    ((lines.map (cost places)).sum : ℚ) = worthOf lines * 10 ^ places := by
  induction lines with
  | nil => simp [worthOf]
  | cons first lines ih =>
    obtain ⟨hfirst, hrest⟩ := List.forall_mem_cons.1 h
    have htail := ih hrest
    simp only [worthOf, List.map_cons, List.sum_cons, Int.cast_add] at htail ⊢
    rw [cost_eq hfirst, htail, add_mul]

theorem cost_nonneg (hquantity : 0 < line.1.quantity.val) (hprice : 0 ≤ line.2.price.value)
    (h : line.2.price.scale ≤ places) : 0 ≤ cost places line := by
  have hworth : 0 ≤ worth line :=
    mul_nonneg hprice (by exact_mod_cast hquantity.le)
  have hcost : (0 : ℚ) ≤ cost places line := by
    rw [cost_eq h]
    exact mul_nonneg hworth (by positivity)
  exact_mod_cast hcost

theorem sum_natAbs_eq (h : ∀ line ∈ lines, 0 ≤ cost places line) :
    (((lines.map fun line => (cost places line).natAbs).sum : Nat) : Int) =
      (lines.map (cost places)).sum := by
  induction lines with
  | nil => rfl
  | cons first lines ih =>
    obtain ⟨hfirst, hrest⟩ := List.forall_mem_cons.1 h
    rw [List.map_cons, List.map_cons, List.sum_cons, List.sum_cons, Nat.cast_add, ih hrest,
      Int.natAbs_of_nonneg hfirst]

/-- Lines fit if what they are worth does. -/
theorem TotalFits.of_worth (hquantity : ∀ line ∈ lines, 0 < line.1.quantity.val)
    (hprice : ∀ line ∈ lines, 0 ≤ line.2.price.value)
    (hworth : worthOf lines * 10 ^ maxPlaces lines < 2 ^ 96) :
    TotalFits lines (maxPlaces lines) where
  places_le := maxPlaces_le lines
  scale_le _ := scale_le_maxPlaces
  fits := by
    have hnonneg : ∀ line ∈ lines, 0 ≤ cost (maxPlaces lines) line := fun line hline =>
      cost_nonneg (hquantity line hline) (hprice line hline) (scale_le_maxPlaces hline)
    have hsum := sum_natAbs_eq hnonneg
    have hless : (lines.map (cost (maxPlaces lines))).sum < 2 ^ 96 := by
      rw [← sum_cost_eq fun line => scale_le_maxPlaces] at hworth
      exact_mod_cast hworth
    rw [← hsum] at hless
    exact_mod_cast hless

/-! ## Totals -/

/-- **Lines that fit are added up exactly**, for a new order as for a changed one. -/
theorem TotalFits.total_exact (h : TotalFits lines places) :
    ∃ total, price (lines.map (·.1)) (lines.map fun line => .ok line.2) = .ok total ∧
      total.value = worthOf lines ∧
      ∀ table : List (ProductId × Product),
        (∀ line ∈ lines, table.lookup line.1.product = some line.2) →
        totalOf table (lines.map (·.1)) = .ok total := by
  obtain ⟨total, htotal, hcounts⟩ := h.foldlM_charge
  have hzip : (lines.map (·.1)).zip (lines.map (·.2)) = lines := by
    rw [List.zip_map']
    exact List.map_id' lines
  have hat : totalAt (lines.map (·.1)) (lines.map (·.2)) = .ok total := by
    rw [totalAt, hzip]
    exact htotal
  refine ⟨total, ?_, ?_, fun table htable => ?_⟩
  · rw [← hat, ← price_map_ok, List.map_map]
    rfl
  · rw [hcounts.value_eq, sum_cost_eq h.scale_le]
    field_simp
  · rw [← hat]
    refine totalOf_eq_totalAt ?_
    rw [List.forall₂_map_left_iff, List.forall₂_map_right_iff, List.forall₂_same]
    exact htable

theorem worthOf_perm (h : lines.Perm lines') : worthOf lines' = worthOf lines :=
  (h.map worth).sum_eq.symm

end OrderDesk
