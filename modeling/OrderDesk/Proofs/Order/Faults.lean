import Mathlib.Data.List.Find
import OrderDesk.Proofs.Order.Sums

/-!
# The first fault in a request

A request is read line by line, and the first line that cannot be taken in decides how it fails.
What is wrong with a line is told here without the sums that the loop has come to
(`LineInput.fault?`): it names no product, it asks for a quantity that may not be asked for, or it
takes the exact sum of all lines of its product so far out of 64 bits.

* `Delta.ofInputs_eq_error_iff` — how a change fails: with its first fault.
* `LineItem.ofInputs_eq_error_iff` — how a new order fails: with its first fault, and if there is
  none with the first product of which there is more than an order can hold.
* `LineItem.lines_are_sums_of_inputs` — what a new order is, and when it is none, over the integers.
-/

namespace OrderDesk

open Fallible

instance (n : Int) : Decidable (Signed64.Holds n) := inferInstanceAs (Decidable (_ ∧ _))

variable {p : ProductId} {amount : Signed64} {sums : List Delta} {before inputs : List LineInput}
  {input : LineInput} {items : List LineItem} {e : OrderError}

/-! ## Lines -/

namespace LineInput

/-- What is wrong with a line behind other lines, if anything is, where only the quantities in
`allowed` may be asked for. -/
def fault? (allowed : Int → Bool) (before : List LineInput) (input : LineInput) :
    Option OrderError :=
  match Uuid.parse? input.product with
  | none => some (.malformedId .product input.product)
  | some p =>
    if allowed input.quantity.val ∧
        Signed64.Holds (Delta.amountOf p (deltas before) + input.quantity.val) then none
    else some (.invalidQuantity p input.quantity)

variable {allowed : Int → Bool}

theorem fault?_of_parse?_eq_none (h : Uuid.parse? input.product = none) :
    fault? allowed before input = some (.malformedId .product input.product) := by
  rw [fault?, h]

theorem fault?_eq_some_iff (h : Uuid.parse? input.product = some p) :
    fault? allowed before input = some e ↔
      ¬ (allowed input.quantity.val ∧
        Signed64.Holds (Delta.amountOf p (deltas before) + input.quantity.val)) ∧
      e = .invalidQuantity p input.quantity := by
  rw [fault?, h]
  dsimp only
  split
  · next hgood => exact ⟨fun h => (by cases h), fun h => absurd hgood h.1⟩
  · next hbad =>
    rw [Option.some.injEq, eq_comm]
    exact (and_iff_right hbad).symm

end LineInput

/-! ## Changes -/

namespace Delta

theorem merge_eq_error (h : merge p amount sums = .error e) : e = .invalidQuantity p amount := by
  induction sums with
  | nil => cases h
  | cons d rest ih =>
    rw [merge] at h
    split at h
    · split at h
      · cases h
      · cases h
        rfl
    · rcases bind_eq_error_iff.1 h with hrest | ⟨rest', -, h⟩
      · exact ih hrest
      · cases h

/-- Where no product stands twice, an amount is refused just if the sum does not fit 64 bits. -/
theorem merge_eq_error_iff (hd : (sums.map (·.product)).Nodup) :
    merge p amount sums = .error e ↔
      ¬ Signed64.Holds (amountOf p sums + amount.val) ∧ e = .invalidQuantity p amount := by
  rw [← exists_merge_iff hd]
  cases h : merge p amount sums with
  | ok sums' => simp
  | error e' => simp [merge_eq_error h, eq_comm]

/-- What is wrong with a line of a change: any quantity may be asked for. -/
def fault? : List LineInput → LineInput → Option OrderError := LineInput.fault? fun _ => true

theorem addInput_eq_error_iff (h : Sums (LineInput.deltas before) sums) :
    addInput sums input = .error e ↔ fault? before input = some e := by
  rw [addInput, ProductId.parse, fault?]
  cases hparse : Uuid.parse? input.product with
  | none =>
    rw [LineInput.fault?_of_parse?_eq_none hparse]
    exact ⟨fun h => by cases h; rfl, fun h => by cases h; rfl⟩
  | some p =>
    show merge p input.quantity sums = .error e ↔ _
    rw [LineInput.fault?_eq_some_iff hparse, merge_eq_error_iff h.nodup, h.amounts]
    simp

theorem sums_of_foldlM (h : inputs.foldlM addInput [] = .ok sums) :
    Sums (LineInput.deltas inputs) sums :=
  sums_of_collect (foldlM_addInput_eq_ok_iff.1 h).2

theorem foldlM_addInput_eq_error_iff :
    inputs.foldlM addInput [] = .error e ↔ FirstFault fault? inputs e :=
  foldlM_eq_error_iff fun _ _ _ _ h => addInput_eq_error_iff (sums_of_foldlM h)

theorem faultless_iff :
    (∃ sums, inputs.foldlM addInput [] = .ok sums) ↔ Faultless fault? inputs := by
  refine exists_foldlM_iff ?_ inputs
  intro before input sums e h
  exact addInput_eq_error_iff (sums_of_foldlM h)

/-- Where no product stands twice, there is of none more than the largest amount. -/
theorem amountOf_le (hd : (sums.map (·.product)).Nodup) {n : Int} (hn : 0 ≤ n)
    (hle : ∀ d ∈ sums, d.amount.val ≤ n) (p : ProductId) : amountOf p sums ≤ n := by
  by_cases h : p ∈ sums.map (·.product)
  · obtain ⟨d, hmem, rfl⟩ := List.mem_map.1 h
    rw [amountOf_of_mem hd hmem]
    exact hle d hmem
  · rw [amountOf_eq_zero h]
    exact hn

/-- The sums of positive amounts are positive. -/
theorem Sums.pos {ds : List Delta} (h : Sums ds sums) (hpos : ∀ d ∈ ds, 0 < d.amount.val) :
    ∀ d ∈ sums, 0 < d.amount.val := by
  intro d hd
  obtain ⟨hproduct, hamount⟩ := h.mem_iff.1 hd
  rw [hamount]
  exact amountOf_pos hpos hproduct

/-- **How a change fails**: if it is not empty, with its first fault. -/
theorem ofInputs_eq_error_iff :
    ofInputs inputs = .error e ↔
      inputs = [] ∧ e = .emptyItems ∨ FirstFault fault? inputs e := by
  rw [ofInputs]
  by_cases hempty : inputs = []
  · subst hempty
    constructor
    · rintro ⟨⟩
      exact Or.inl ⟨rfl, rfl⟩
    · rintro (⟨-, rfl⟩ | hfault)
      · rfl
      · exact absurd rfl hfault.ne_nil
  · rw [if_neg (by simpa using hempty), foldlM_addInput_eq_error_iff]
    simp [hempty]

end Delta

/-! ## New orders -/

namespace LineItem

/-- What is wrong with a line of a new order: only positive quantities may be asked for. -/
def fault? : List LineInput → LineInput → Option OrderError := LineInput.fault? fun n => 0 < n

theorem addInput_eq_error_iff (h : Delta.Sums (LineInput.deltas before) sums) :
    addInput sums input = .error e ↔ fault? before input = some e := by
  rw [addInput, ProductId.parse, fault?]
  cases hparse : Uuid.parse? input.product with
  | none =>
    rw [LineInput.fault?_of_parse?_eq_none hparse]
    exact ⟨fun h => by cases h; rfl, fun h => by cases h; rfl⟩
  | some p =>
    show (if input.quantity.val ≤ 0 then (.error (.invalidQuantity p input.quantity))
      else Delta.merge p input.quantity sums) = .error e ↔ _
    rw [LineInput.fault?_eq_some_iff hparse, ← h.amounts]
    by_cases hpos : input.quantity.val ≤ 0
    · have hnot : ¬ 0 < input.quantity.val := by omega
      simp [hpos, hnot, eq_comm]
    · have hgood : 0 < input.quantity.val := by omega
      rw [if_neg hpos, Delta.merge_eq_error_iff h.nodup]
      simp [hgood]

theorem sums_of_foldlM (h : inputs.foldlM addInput [] = .ok sums) :
    Delta.Sums (LineInput.deltas inputs) sums :=
  Delta.sums_of_foldlM (foldlM_addInput_eq_ok_iff.1 h).2

theorem foldlM_addInput_eq_error_iff :
    inputs.foldlM addInput [] = .error e ↔ FirstFault fault? inputs e :=
  foldlM_eq_error_iff fun _ _ _ _ h => addInput_eq_error_iff (sums_of_foldlM h)

theorem faultless_iff :
    (∃ sums, inputs.foldlM addInput [] = .ok sums) ↔ Faultless fault? inputs := by
  refine exists_foldlM_iff ?_ inputs
  intro before input sums e h
  exact addInput_eq_error_iff (sums_of_foldlM h)

/-- A positive sum is refused as a line just if it is more than an order can hold. -/
theorem toItem_eq_error_iff {d : Delta} (hpos : 0 < d.amount.val) :
    d.toItem = .error e ↔
      2147483647 < d.amount.val ∧ e = .invalidQuantity d.product d.amount := by
  rw [Delta.toItem]
  cases h : (Bounded.ofInt? d.amount.val : Option Quantity) with
  | some q =>
    have hle := q.le_hi
    rw [Bounded.ofInt?_eq_some_iff.1 h] at hle
    exact ⟨fun h => (by cases h), fun h => (by omega)⟩
  | none =>
    have hlarge : 2147483647 < d.amount.val := by
      rcases Bounded.ofInt?_eq_none_iff.1 h with hlow | hhigh
      · omega
      · exact hhigh
    simp only [Except.error.injEq, hlarge, true_and, eq_comm]

/-- Positive sums become lines until the first one comes that an order cannot hold. -/
theorem mapM_toItem_eq_error_iff (hpos : ∀ d ∈ sums, 0 < d.amount.val) :
    sums.mapM Delta.toItem = .error e ↔
      ∃ d, sums.find? (fun d => 2147483647 < d.amount.val) = some d ∧
        e = .invalidQuantity d.product d.amount := by
  induction sums with
  | nil => exact ⟨fun h => (by cases h), fun ⟨d, h, _⟩ => (by cases h)⟩
  | cons d sums ih =>
    rw [List.forall_mem_cons] at hpos
    rw [List.mapM_cons, bind_eq_error_iff, toItem_eq_error_iff hpos.1]
    by_cases hlarge : 2147483647 < d.amount.val
    · rw [List.find?_cons_of_pos (by simpa using hlarge)]
      have hnone : ∀ item, d.toItem ≠ .ok item := by
        intro item hitem
        rw [(toItem_eq_error_iff hpos.1).2 ⟨hlarge, rfl⟩] at hitem
        cases hitem
      simp [hlarge, hnone]
    · rw [List.find?_cons_of_neg (by simpa using hlarge), ← ih hpos.2]
      obtain ⟨item, hitem⟩ : ∃ item, d.toItem = .ok item := by
        cases h : d.toItem with
        | ok item => exact ⟨item, rfl⟩
        | error e => exact absurd ((toItem_eq_error_iff hpos.1).1 h).1 hlarge
      simp [hlarge, hitem, bind_eq_error_iff, pure, Except.pure]

/-- The lines of a new order can be read just if they are good one by one and no product comes to
more than an order can hold. -/
theorem exists_ofInputs_iff :
    (∃ items, ofInputs inputs = .ok items) ↔ inputs ≠ [] ∧ LineInput.WellFormed inputs ∧
      (∀ input ∈ inputs, 0 < input.quantity.val) ∧
      ∀ p, Delta.amountOf p (LineInput.deltas inputs) ≤ 2147483647 := by
  simp only [ofInputs_eq_ok_iff, exists_and_left]
  refine and_congr_right fun _ => and_congr_right fun _ => and_congr_right fun hpos => ?_
  have hpos := LineInput.pos_deltas hpos
  constructor
  · rintro ⟨items, h⟩ p
    rw [← h.amounts]
    refine Delta.amountOf_le h.nodup (by decide) (List.forall_mem_map.2 fun item _ => ?_) p
    exact item.quantity.le_hi
  · intro hle
    have hfits : Delta.Fits (LineInput.deltas inputs) :=
      Delta.fits_of_pos hpos fun p => ⟨by have := Delta.amountOf_nonneg hpos p; omega,
        by have := hle p; omega⟩
    obtain ⟨sums, hsums⟩ := Delta.exists_collect_iff.2 hfits
    have hsums := Delta.sums_of_collect hsums
    cases h : sums.mapM Delta.toItem with
    | ok items => exact ⟨items, mapM_toItem_eq_ok_iff.1 h ▸ hsums⟩
    | error e =>
      obtain ⟨d, hd, -⟩ := (mapM_toItem_eq_error_iff (hsums.pos hpos)).1 h
      have hlarge : 2147483647 < d.amount.val := by simpa using List.find?_some hd
      have hsmall := hle d.product
      rw [← (hsums.mem_iff.1 (List.mem_of_find?_eq_some hd)).2] at hsmall
      omega

/-- The first product of which there is too much is that of the first sum that is too large. -/
theorem find?_products {ds : List Delta} (h : Delta.Sums ds sums) (n : Int) :
    (ds.map (·.product)).eraseDups.find? (fun p => n < Delta.amountOf p ds) =
      (sums.find? fun d => n < d.amount.val).map (·.product) := by
  rw [← h.products, List.find?_map]
  refine congrArg (Option.map _) (List.find?_congr fun d hd => ?_)
  rw [Function.comp_apply, (h.mem_iff.1 hd).2]

/-- **How a new order fails**: if it is not empty, with its first fault, and without one with the
first product of which there is more than an order can hold. -/
theorem ofInputs_eq_error_iff :
    ofInputs inputs = .error e ↔
      inputs = [] ∧ e = .emptyItems ∨ FirstFault fault? inputs e ∨
      Faultless fault? inputs ∧ ∃ p amount,
        ((LineInput.deltas inputs).map (·.product)).eraseDups.find?
          (fun p => 2147483647 < Delta.amountOf p (LineInput.deltas inputs)) = some p ∧
        amount.val = Delta.amountOf p (LineInput.deltas inputs) ∧
        e = .invalidQuantity p amount := by
  rw [ofInputs]
  by_cases hempty : inputs = []
  · subst hempty
    constructor
    · rintro ⟨⟩
      exact Or.inl ⟨rfl, rfl⟩
    · rintro (⟨-, rfl⟩ | hfault | ⟨-, p, amount, hnone, -⟩)
      · rfl
      · exact absurd rfl hfault.ne_nil
      · cases hnone
  rw [if_neg (by simpa using hempty), bind_eq_error_iff, foldlM_addInput_eq_error_iff]
  simp only [hempty, false_and, false_or]
  refine or_congr_right ?_
  constructor
  · rintro ⟨sums, hfold, hitems⟩
    have hsums := sums_of_foldlM hfold
    have hpos := hsums.pos (LineInput.pos_deltas (foldlM_addInput_eq_ok_iff.1 hfold).1)
    obtain ⟨d, hd, rfl⟩ := (mapM_toItem_eq_error_iff hpos).1 hitems
    refine ⟨faultless_iff.1 ⟨sums, hfold⟩, d.product, d.amount, ?_, ?_, rfl⟩
    · rw [find?_products hsums, hd, Option.map_some]
    · exact (hsums.mem_iff.1 (List.mem_of_find?_eq_some hd)).2
  · rintro ⟨hfaultless, p, amount, hp, hamount, rfl⟩
    obtain ⟨sums, hfold⟩ := faultless_iff.2 hfaultless
    have hsums := sums_of_foldlM hfold
    have hpos := hsums.pos (LineInput.pos_deltas (foldlM_addInput_eq_ok_iff.1 hfold).1)
    rw [find?_products hsums, Option.map_eq_some_iff] at hp
    obtain ⟨d, hd, rfl⟩ := hp
    refine ⟨sums, hfold, (mapM_toItem_eq_error_iff hpos).2 ⟨d, hd, ?_⟩⟩
    rw [Bounded.ext (hamount.trans (hsums.mem_iff.1 (List.mem_of_find?_eq_some hd)).2.symm)]

/-- **The lines of a new order are the sums of what was typed.**

* Typed lines can be read just if there are any, each of them names a product and a positive
  quantity, and no product comes to more than an order can hold.  Nothing depends on the order of
  the lines, although sums are taken in 64 bits on the way.
* The lines that are read name each product once, in the order of first appearance, with the exact
  sum of its quantities.
* Otherwise the first line that names no product, has a quantity that is not positive or takes a
  sum out of 64 bits decides the failure; and if there is none, the first product of which there is
  too much does. -/
theorem lines_are_sums_of_inputs (inputs : List LineInput) :
    ((∃ items, ofInputs inputs = .ok items) ↔ inputs ≠ [] ∧ LineInput.WellFormed inputs ∧
      (∀ input ∈ inputs, 0 < input.quantity.val) ∧
      ∀ p, Delta.amountOf p (LineInput.deltas inputs) ≤ 2147483647) ∧
    (∀ inputs', inputs.Perm inputs' →
      ((∃ items, ofInputs inputs = .ok items) ↔ ∃ items, ofInputs inputs' = .ok items)) ∧
    (∀ items, ofInputs inputs = .ok items →
      items.map (·.product) = ((LineInput.deltas inputs).map (·.product)).eraseDups ∧
      (items.map (·.product)).Nodup ∧
      ∀ item ∈ items,
        item.quantity.val = Delta.amountOf item.product (LineInput.deltas inputs)) ∧
    ∀ e, ofInputs inputs = .error e ↔
      inputs = [] ∧ e = .emptyItems ∨ FirstFault fault? inputs e ∨
      Faultless fault? inputs ∧ ∃ p amount,
        ((LineInput.deltas inputs).map (·.product)).eraseDups.find?
          (fun p => 2147483647 < Delta.amountOf p (LineInput.deltas inputs)) = some p ∧
        amount.val = Delta.amountOf p (LineInput.deltas inputs) ∧
        e = .invalidQuantity p amount := by
  refine ⟨exists_ofInputs_iff, fun inputs' hperm => ?_, fun items h => ?_,
    fun e => ofInputs_eq_error_iff⟩
  · have hempty : inputs = [] ↔ inputs' = [] := ⟨fun h => by simpa [h] using hperm,
      fun h => by simpa [h] using hperm⟩
    have hamounts := Delta.amountOf_perm (hperm.filterMap LineInput.delta?)
    simp only [exists_ofInputs_iff, ne_eq, hempty, LineInput.WellFormed.perm hperm, hperm.mem_iff,
      LineInput.deltas, hamounts]
  · obtain ⟨-, -, -, hsums⟩ := ofInputs_eq_ok_iff.1 h
    rw [← map_product_delta items]
    refine ⟨hsums.products, hsums.nodup, fun item hitem => ?_⟩
    exact (hsums.mem_iff.1 (List.mem_map_of_mem hitem)).2

/-! ### A basket -/

namespace Basket

def seven : Signed64 := ⟨7, by decide, by decide⟩

def zero : Signed64 := ⟨0, by decide, by decide⟩

/-- Twice this does not fit into 64 bits. -/
def vast : Signed64 := ⟨5000000000000000000, by decide, by decide⟩

def tea (quantity : Signed64) : LineInput := ⟨"00000000-0000-0000-0000-00000000000a", quantity⟩

/-- The same product, spelled with a capital letter. -/
def capitalTea (quantity : Signed64) : LineInput :=
  ⟨"00000000-0000-0000-0000-00000000000A", quantity⟩

def cup (quantity : Signed64) : LineInput := ⟨"00000000-0000-0000-0000-00000000000b", quantity⟩

end Basket

open Basket in
theorem lines_are_sums_of_inputs_in_either_case :
    (∃ items, ofInputs [tea seven, cup seven, capitalTea seven] = .ok items ∧
      items.map (·.product) = [.ofNat 10, .ofNat 11] ∧ items.map (·.quantity.val) = [14, 7] ∧
      ∀ item ∈ items, item.quantity.val = Delta.amountOf item.product
        (LineInput.deltas [tea seven, cup seven, capitalTea seven])) ∧
    (∃ items, ofInputs [capitalTea seven, tea seven, cup seven] = .ok items) ∧
    ofInputs [tea vast, cup seven, capitalTea vast, cup zero] =
      .error (.invalidQuantity (.ofNat 10) vast) := by
  obtain ⟨-, hperm, hlines, -⟩ :=
    lines_are_sums_of_inputs [tea seven, cup seven, capitalTea seven]
  obtain ⟨-, -, -, herror⟩ :=
    lines_are_sums_of_inputs [tea vast, cup seven, capitalTea vast, cup zero]
  have hok : (ofInputs [tea seven, cup seven, capitalTea seven]).map (fun items =>
      (items.map (·.product), items.map (·.quantity.val))) =
        .ok ([.ofNat 10, .ofNat 11], [14, 7]) := by rfl
  have hrest : [tea seven, cup seven, capitalTea seven].Perm
      [capitalTea seven, tea seven, cup seven] := by decide
  cases hitems : ofInputs [tea seven, cup seven, capitalTea seven] with
  | error e => cases hitems ▸ hok
  | ok items =>
    rw [hitems, Except.map, Except.ok.injEq, Prod.mk.injEq] at hok
    refine ⟨⟨items, rfl, hok.1, hok.2, (hlines items hitems).2.2⟩,
      (hperm _ hrest).1 ⟨items, hitems⟩, (herror _).2 (Or.inr (Or.inl ?_))⟩
    exact ⟨[tea vast, cup seven], capitalTea vast, [cup zero], rfl, by decide,
      faultless_iff.1 ⟨_, rfl⟩⟩

end LineItem

end OrderDesk
