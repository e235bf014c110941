import Mathlib.Algebra.BigOperators.Group.List.Basic
import Mathlib.Algebra.Order.BigOperators.Group.List
import Mathlib.Algebra.Ring.Int.Defs
import Mathlib.Data.List.Infix
import OrderDesk.Proofs.Order.Lines

/-!
# The sums of what was typed

The lines of a request are added up for each product in turn, in 64 bits and from left to right.
Here the sums are told without the loop that computes them: they name each product once, in the
order of first appearance, with the amount that all lines of the product come to (`Delta.Sums`).

* `Delta.collect_eq_ok_iff` — lines can be added up just if no sum leaves 64 bits on the way
  (`Delta.Fits`).
* `Delta.ofInputs_eq_ok_iff`, `LineItem.ofInputs_eq_ok_iff` — when a request can be read, and what
  it comes to.
* `Delta.Sums.perm` — the order of the lines makes no difference but for the order of the sums.
-/

namespace OrderDesk

/-- A number that 64 bits can hold. -/
def Signed64.Holds (n : Int) : Prop := -9223372036854775808 ≤ n ∧ n ≤ 9223372036854775807

theorem Signed64.holds_val (a : Signed64) : Signed64.Holds a.val := ⟨a.lo_le, a.le_hi⟩

theorem Signed64.exists_add?_iff {a b : Signed64} :
    (∃ c, a.add? b = some c) ↔ Signed64.Holds (a.val + b.val) := by
  constructor
  · rintro ⟨c, hc⟩
    exact Bounded.add?_eq_some_iff.1 hc ▸ Signed64.holds_val c
  · intro h
    exact ⟨⟨_, h.1, h.2⟩, Bounded.add?_eq_some_iff.2 rfl⟩

namespace Delta

/-- How much of a product a list of amounts comes to. -/
def amountOf (p : ProductId) (ds : List Delta) : Int :=
  (ds.map fun d => if d.product = p then d.amount.val else 0).sum

variable {p q : ProductId} {d : Delta} {ds ds' sums sums' : List Delta}

/-! ## Amounts -/

@[simp] theorem amountOf_nil (p : ProductId) : amountOf p [] = 0 := rfl

@[simp] theorem amountOf_cons (p : ProductId) (d : Delta) (ds : List Delta) :
    amountOf p (d :: ds) = (if d.product = p then d.amount.val else 0) + amountOf p ds := by
  simp [amountOf]

@[simp] theorem amountOf_append (p : ProductId) (ds ds' : List Delta) :
    amountOf p (ds ++ ds') = amountOf p ds + amountOf p ds' := by
  simp [amountOf]

theorem amountOf_perm (h : ds.Perm ds') (p : ProductId) : amountOf p ds = amountOf p ds' :=
  (h.map _).sum_eq

theorem amountOf_eq_zero (h : p ∉ ds.map (·.product)) : amountOf p ds = 0 := by
  induction ds with
  | nil => rfl
  | cons d ds ih =>
    rw [List.map_cons, List.mem_cons, not_or] at h
    rw [amountOf_cons, if_neg (Ne.symm h.1), ih h.2, Int.zero_add]

/-- Where no product stands twice, an amount is all that there is of its product. -/
theorem amountOf_of_mem (hd : (ds.map (·.product)).Nodup) (h : d ∈ ds) :
    amountOf d.product ds = d.amount.val := by
  induction ds with
  | nil => cases h
  | cons e ds ih =>
    rw [List.map_cons, List.nodup_cons] at hd
    rw [amountOf_cons]
    rcases List.mem_cons.1 h with rfl | hmem
    · rw [if_pos rfl, amountOf_eq_zero hd.1, Int.add_zero]
    · have hne : e.product ≠ d.product := fun heq => hd.1 (heq ▸ List.mem_map_of_mem hmem)
      rw [if_neg hne, ih hd.2 hmem, Int.zero_add]

theorem holds_amountOf (hd : (ds.map (·.product)).Nodup) (p : ProductId) :
    Signed64.Holds (amountOf p ds) := by
  by_cases h : p ∈ ds.map (·.product)
  · obtain ⟨d, hmem, rfl⟩ := List.mem_map.1 h
    rw [amountOf_of_mem hd hmem]
    exact Signed64.holds_val _
  · rw [amountOf_eq_zero h]
    unfold Signed64.Holds
    omega

theorem amountOf_nonneg (h : ∀ d ∈ ds, 0 < d.amount.val) (p : ProductId) : 0 ≤ amountOf p ds := by
  refine List.sum_nonneg fun n hn => ?_
  obtain ⟨d, hd, rfl⟩ := List.mem_map.1 hn
  have hpos := h d hd
  split <;> omega

theorem amountOf_pos (h : ∀ d ∈ ds, 0 < d.amount.val) (hp : p ∈ ds.map (·.product)) :
    0 < amountOf p ds := by
  induction ds with
  | nil => cases hp
  | cons d ds ih =>
    have hd := h d (List.mem_cons_self ..)
    have hds : ∀ e ∈ ds, 0 < e.amount.val := fun e he => h e (List.mem_cons_of_mem _ he)
    have hrest := amountOf_nonneg hds p
    rw [amountOf_cons]
    split
    · omega
    · next hne =>
      have := ih hds ((List.mem_cons.1 hp).resolve_left fun heq => hne heq.symm)
      omega

/-- Lists of amounts in which no product stands twice are the same if they have the same products in
the same order, and as much of each. -/
theorem eq_of_amountOf (hd : (ds.map (·.product)).Nodup)
    (hproducts : ds.map (·.product) = ds'.map (·.product))
    (hamounts : ∀ p, amountOf p ds = amountOf p ds') : ds = ds' := by
  induction ds generalizing ds' with
  | nil => exact (List.map_eq_nil_iff.1 hproducts.symm).symm
  | cons d ds ih =>
    cases ds' with
    | nil => cases hproducts
    | cons d' ds' =>
      rw [List.map_cons, List.map_cons, List.cons.injEq] at hproducts
      obtain ⟨hhead, htail⟩ := hproducts
      rw [List.map_cons, List.nodup_cons] at hd
      have hfirst := hamounts d.product
      rw [amountOf_cons, amountOf_cons, if_pos rfl, if_pos hhead.symm, amountOf_eq_zero hd.1,
        amountOf_eq_zero (htail ▸ hd.1), Int.add_zero, Int.add_zero] at hfirst
      have hrest : ds = ds' := by
        refine ih hd.2 htail fun p => ?_
        have := hamounts p
        rw [amountOf_cons, amountOf_cons, hhead, hfirst] at this
        omega
      obtain ⟨product, amount⟩ := d
      obtain ⟨product', amount'⟩ := d'
      cases hhead
      cases Bounded.ext hfirst
      rw [hrest]

/-! ## One line more -/

theorem amountOf_merge {amount : Signed64} (h : merge p amount sums = .ok sums') (q : ProductId) :
    amountOf q sums' = amountOf q sums + if p = q then amount.val else 0 := by
  induction sums generalizing sums' with
  | nil =>
    cases h
    rw [amountOf_cons, Int.add_comm]
  | cons d rest ih =>
    rw [merge] at h
    split at h
    · next hd =>
      split at h
      · next sum hsum =>
        cases h
        rw [Bounded.add?_eq_some_iff] at hsum
        simp only [amountOf_cons, hd]
        split <;> omega
      · cases h
    · rw [Fallible.bind_eq_ok_iff] at h
      obtain ⟨rest', hrest, h⟩ := h
      cases h
      rw [amountOf_cons, amountOf_cons, ih hrest, Int.add_assoc]

/-- Where no product stands twice, an amount can be added just if the sum fits 64 bits. -/
theorem exists_merge_iff (hd : (sums.map (·.product)).Nodup) (p : ProductId) (amount : Signed64) :
    (∃ sums', merge p amount sums = .ok sums') ↔
      Signed64.Holds (amountOf p sums + amount.val) := by
  induction sums with
  | nil =>
    rw [amountOf_nil, Int.zero_add]
    exact ⟨fun _ => Signed64.holds_val amount, fun _ => ⟨_, rfl⟩⟩
  | cons d rest ih =>
    rw [List.map_cons, List.nodup_cons] at hd
    rw [merge, amountOf_cons]
    by_cases hp : d.product = p
    · rw [if_pos hp, if_pos hp, amountOf_eq_zero (hp ▸ hd.1), Int.add_zero,
        ← Signed64.exists_add?_iff]
      cases d.amount.add? amount with
      | some sum => exact ⟨fun _ => ⟨sum, rfl⟩, fun _ => ⟨_, rfl⟩⟩
      | none => constructor <;> rintro ⟨_, ⟨⟩⟩
    · rw [if_neg hp, if_neg hp, Int.zero_add, ← ih hd.2]
      cases merge p amount rest with
      | ok rest' => exact ⟨fun _ => ⟨rest', rfl⟩, fun _ => ⟨_, rfl⟩⟩
      | error e => constructor <;> rintro ⟨_, ⟨⟩⟩

/-! ## All lines -/

/-- Adds up amounts, product by product. -/
def collect (ds : List Delta) : Except OrderError (List Delta) :=
  ds.foldlM (fun sums d => merge d.product d.amount sums) []

/-- No sum leaves 64 bits, however many of the amounts have been added. -/
def Fits (ds : List Delta) : Prop := ∀ part, part <+: ds → ∀ p, Signed64.Holds (amountOf p part)

/-- The sums of amounts: each product once, in the order of first appearance, and with all that
there is of it. -/
structure Sums (ds sums : List Delta) : Prop where
  products : sums.map (·.product) = (ds.map (·.product)).eraseDups
  amounts : ∀ p, amountOf p sums = amountOf p ds

theorem eraseDups_concat (ids : List ProductId) (id : ProductId) :
    (ids ++ [id]).eraseDups = if id ∈ ids then ids.eraseDups else ids.eraseDups ++ [id] := by
  rw [List.eraseDups_append, List.removeAll]
  by_cases hid : id ∈ ids
  · simp [hid]
  · simp [hid, List.eraseDups_cons]

theorem eraseDups_filter (ids : List ProductId) (keep : ProductId → Bool) :
    (ids.filter keep).eraseDups = ids.eraseDups.filter keep := by
  induction ids using List.reverseRecOn with
  | nil => rfl
  | append_singleton ids id ih =>
    rw [List.filter_append, eraseDups_concat]
    cases hkeep : keep id with
    | false =>
      have hnone : [id].filter keep = [] := List.filter_cons_of_neg (by simp [hkeep])
      rw [hnone, List.append_nil, ih]
      split
      · rfl
      · rw [List.filter_append, hnone, List.append_nil]
    | true =>
      have hone : [id].filter keep = [id] := List.filter_cons_of_pos hkeep
      rw [hone, eraseDups_concat, ih]
      by_cases hid : id ∈ ids
      · rw [if_pos hid, if_pos (List.mem_filter.2 ⟨hid, hkeep⟩)]
      · rw [if_neg hid, if_neg fun h => hid (List.mem_filter.1 h).1, List.filter_append, hone]

/-- What comes later counts only where it is new. -/
theorem eraseDups_append (ids later : List ProductId) :
    (ids ++ later).eraseDups = ids.eraseDups ++ later.eraseDups.filter (· ∉ ids) := by
  rw [List.eraseDups_append, List.removeAll, ← eraseDups_filter]
  refine congrArg (fun l => ids.eraseDups ++ l.eraseDups) (List.filter_congr fun id _ => ?_)
  simp

theorem nodup_eraseDups (ids : List ProductId) : ids.eraseDups.Nodup := by
  induction ids using List.reverseRecOn with
  | nil => exact List.nodup_nil
  | append_singleton ids id ih =>
    rw [eraseDups_concat]
    split
    · exact ih
    · next hid =>
      rw [← List.concat_eq_append]
      exact ih.concat fun hmem => hid (List.mem_eraseDups.1 hmem)

namespace Sums

theorem nodup (h : Sums ds sums) : (sums.map (·.product)).Nodup :=
  h.products ▸ nodup_eraseDups _

theorem eq (h : Sums ds sums) (h' : Sums ds sums') : sums = sums' :=
  eq_of_amountOf h.nodup (h.products.trans h'.products.symm) fun p =>
    (h.amounts p).trans (h'.amounts p).symm

theorem mem_iff (h : Sums ds sums) :
    d ∈ sums ↔ d.product ∈ ds.map (·.product) ∧ d.amount.val = amountOf d.product ds := by
  rw [← List.mem_eraseDups (l := ds.map _), ← h.products, ← h.amounts]
  constructor
  · intro hmem
    exact ⟨List.mem_map_of_mem hmem, (amountOf_of_mem h.nodup hmem).symm⟩
  · rintro ⟨hproduct, hamount⟩
    obtain ⟨e, hmem, heq⟩ := List.mem_map.1 hproduct
    rw [← heq, amountOf_of_mem h.nodup hmem] at hamount
    obtain ⟨product, amount⟩ := d
    obtain ⟨product', amount'⟩ := e
    cases heq
    cases Bounded.ext hamount
    exact hmem

/-- The sums of the same amounts in another order are the same sums in another order. -/
theorem perm (h : Sums ds sums) (h' : Sums ds' sums') (hperm : ds.Perm ds') :
    sums.Perm sums' := by
  refine (List.perm_ext_iff_of_nodup h.nodup.of_map h'.nodup.of_map).2 fun d => ?_
  rw [h.mem_iff, h'.mem_iff, (hperm.map _).mem_iff, amountOf_perm hperm]

theorem merge {amount : Signed64} (h : Sums ds sums) (hmerge : merge p amount sums = .ok sums') :
    Sums (ds ++ [⟨p, amount⟩]) sums' where
  products := by
    rw [map_product_merge hmerge, h.products, List.map_append, List.map_singleton, eraseDups_concat]
    simp only [List.mem_eraseDups]
  amounts q := by
    rw [amountOf_merge hmerge, h.amounts, amountOf_append, amountOf_cons, amountOf_nil,
      Int.add_zero]

end Sums

theorem collect_concat (ds : List Delta) (d : Delta) :
    collect (ds ++ [d]) = collect ds >>= fun sums => merge d.product d.amount sums := by
  rw [collect, List.foldlM_append]
  refine congrArg (collect ds >>= ·) (funext fun sums => ?_)
  exact bind_pure _

theorem sums_of_collect (h : collect ds = .ok sums) : Sums ds sums := by
  induction ds using List.reverseRecOn generalizing sums with
  | nil =>
    cases h
    exact ⟨rfl, fun _ => rfl⟩
  | append_singleton ds d ih =>
    rw [collect_concat, Fallible.bind_eq_ok_iff] at h
    obtain ⟨before, hbefore, hmerge⟩ := h
    exact (ih hbefore).merge hmerge

theorem exists_collect_iff : (∃ sums, collect ds = .ok sums) ↔ Fits ds := by
  induction ds using List.reverseRecOn with
  | nil =>
    refine ⟨fun _ part hpart p => ?_, fun _ => ⟨[], rfl⟩⟩
    rw [List.prefix_nil.1 hpart]
    exact @holds_amountOf [] List.nodup_nil p
  | append_singleton ds d ih =>
    constructor
    · rintro ⟨sums, h⟩ part hpart p
      rcases List.prefix_concat_iff.1 hpart with rfl | hpart
      · rw [← (sums_of_collect h).amounts]
        exact holds_amountOf (sums_of_collect h).nodup p
      · rw [collect_concat, Fallible.bind_eq_ok_iff] at h
        obtain ⟨before, hbefore, -⟩ := h
        exact ih.1 ⟨before, hbefore⟩ part hpart p
    · intro hfits
      obtain ⟨before, hbefore⟩ := ih.2 fun part hpart =>
        hfits part (hpart.trans (List.prefix_append ds [d]))
      have hsums := sums_of_collect hbefore
      have hlast := hfits _ (List.prefix_refl _) d.product
      rw [amountOf_append, amountOf_cons, if_pos rfl, amountOf_nil, Int.add_zero,
        ← hsums.amounts] at hlast
      obtain ⟨sums, hmerge⟩ := (exists_merge_iff hsums.nodup _ _).2 hlast
      refine ⟨sums, ?_⟩
      rw [collect_concat, Fallible.bind_eq_ok_iff]
      exact ⟨before, hbefore, hmerge⟩

/-- **Amounts can be added up just if no sum leaves 64 bits on the way.** -/
theorem collect_eq_ok_iff : collect ds = .ok sums ↔ Fits ds ∧ Sums ds sums := by
  constructor
  · intro h
    exact ⟨exists_collect_iff.1 ⟨sums, h⟩, sums_of_collect h⟩
  · rintro ⟨hfits, hsums⟩
    obtain ⟨sums', h⟩ := exists_collect_iff.2 hfits
    rw [h, (sums_of_collect h).eq hsums]

/-- Positive amounts only grow, so it is enough that the last sums fit. -/
theorem fits_of_pos (hpos : ∀ d ∈ ds, 0 < d.amount.val)
    (hfits : ∀ p, Signed64.Holds (amountOf p ds)) : Fits ds := by
  rintro part ⟨rest, rfl⟩ p
  have hpart := amountOf_nonneg (fun d hd => hpos d (List.mem_append_left _ hd)) p
  have hrest := amountOf_nonneg (fun d hd => hpos d (List.mem_append_right _ hd)) p
  have hall := hfits p
  rw [amountOf_append] at hall
  unfold Signed64.Holds at hall ⊢
  omega

end Delta

/-! ## Requests -/

namespace LineInput

/-- The amount that a line of a request stands for, if it names a product. -/
def delta? (input : LineInput) : Option Delta :=
  (Uuid.parse? input.product).map fun product => ⟨product, input.quantity⟩

/-- The amounts in the lines of a request. -/
def deltas (inputs : List LineInput) : List Delta := inputs.filterMap delta?

/-- Every line names a product. -/
def WellFormed (inputs : List LineInput) : Prop := ∀ input ∈ inputs, input.delta?.isSome

variable {input : LineInput} {inputs inputs' : List LineInput}

theorem WellFormed.perm (h : inputs.Perm inputs') : WellFormed inputs ↔ WellFormed inputs' := by
  unfold WellFormed
  simp only [h.mem_iff]

theorem deltas_append (inputs inputs' : List LineInput) :
    deltas (inputs ++ inputs') = deltas inputs ++ deltas inputs' :=
  List.filterMap_append

theorem WellFormed.of_append (h : WellFormed (inputs ++ inputs')) :
    WellFormed inputs ∧ WellFormed inputs' :=
  ⟨fun i hi => h i (List.mem_append_left _ hi), fun i hi => h i (List.mem_append_right _ hi)⟩

theorem WellFormed.append (h : WellFormed inputs) (h' : WellFormed inputs') :
    WellFormed (inputs ++ inputs') := by
  intro i hi
  rcases List.mem_append.1 hi with hi | hi
  · exact h i hi
  · exact h' i hi

theorem pos_deltas (h : ∀ input ∈ inputs, 0 < input.quantity.val) :
    ∀ d ∈ deltas inputs, 0 < d.amount.val := by
  intro d hd
  obtain ⟨input, hinput, hdelta⟩ := List.mem_filterMap.1 hd
  obtain ⟨product, -, rfl⟩ := Option.map_eq_some_iff.1 hdelta
  exact h input hinput

end LineInput

namespace Delta

/-- A line of a change can be added if it names a product to whose sum its amount can be added. -/
theorem addInput_eq_ok_iff {sums sums' : List Delta} {input : LineInput} :
    addInput sums input = .ok sums' ↔
      ∃ d, input.delta? = some d ∧ merge d.product d.amount sums = .ok sums' := by
  rw [addInput, ProductId.parse, LineInput.delta?]
  cases Uuid.parse? input.product with
  | none => exact ⟨fun h => (by cases h), fun ⟨d, hd, _⟩ => (by cases hd)⟩
  | some product =>
    rw [Option.map_some]
    constructor
    · intro h
      exact ⟨_, rfl, h⟩
    · rintro ⟨d, hd, h⟩
      cases hd
      exact h

/-- The lines of a change are added up once all of them name a product. -/
theorem foldlM_addInput_eq_ok_iff {inputs : List LineInput} {start sums : List Delta} :
    inputs.foldlM addInput start = .ok sums ↔ LineInput.WellFormed inputs ∧
      (LineInput.deltas inputs).foldlM (fun sums d => merge d.product d.amount sums) start =
        .ok sums := by
  induction inputs generalizing start with
  | nil => exact ⟨fun h => ⟨List.forall_mem_nil _, h⟩, fun h => h.2⟩
  | cons input inputs ih =>
    rw [List.foldlM_cons, Fallible.bind_eq_ok_iff, LineInput.WellFormed, List.forall_mem_cons,
      LineInput.deltas, List.filterMap_cons]
    simp only [addInput_eq_ok_iff, ih]
    cases input.delta? with
    | none =>
      constructor
      · rintro ⟨_, ⟨d, hd, _⟩, _⟩
        cases hd
      · rintro ⟨⟨h, _⟩, _⟩
        cases h
    | some d =>
      rw [List.foldlM_cons, Fallible.bind_eq_ok_iff]
      constructor
      · rintro ⟨sums', ⟨d', ⟨⟩, hmerge⟩, hall, hrest⟩
        exact ⟨⟨rfl, hall⟩, sums', hmerge, hrest⟩
      · rintro ⟨⟨-, hall⟩, sums', hmerge, hrest⟩
        exact ⟨sums', ⟨d, rfl, hmerge⟩, hall, hrest⟩

/-- **When a change can be read, and what it comes to.** -/
theorem ofInputs_eq_ok_iff {inputs : List LineInput} {sums : List Delta} :
    ofInputs inputs = .ok sums ↔ inputs ≠ [] ∧ LineInput.WellFormed inputs ∧
      Fits (LineInput.deltas inputs) ∧ Sums (LineInput.deltas inputs) sums := by
  rw [ofInputs, ← collect_eq_ok_iff]
  by_cases hempty : inputs = []
  · subst hempty
    exact ⟨fun h => (by cases h), fun h => absurd rfl h.1⟩
  · rw [if_neg (by simpa using hempty), foldlM_addInput_eq_ok_iff]
    exact ⟨fun h => ⟨hempty, h⟩, fun h => h.2⟩

/-- A change names no product twice. -/
theorem nodup_of_ofInputs {inputs : List LineInput} {sums : List Delta}
    (h : ofInputs inputs = .ok sums) : (sums.map (·.product)).Nodup :=
  (ofInputs_eq_ok_iff.1 h).2.2.2.nodup

end Delta

namespace LineItem

/-- A line as an amount. -/
def delta (item : LineItem) : Delta := ⟨item.product, wide item.quantity⟩

theorem map_product_delta (items : List LineItem) :
    (items.map delta).map (·.product) = items.map (·.product) := by
  rw [List.map_map]
  rfl

theorem toItem_eq_ok_iff {d : Delta} {item : LineItem} :
    d.toItem = .ok item ↔ item.delta = d := by
  constructor
  · intro h
    obtain ⟨hproduct, hquantity⟩ := Delta.toItem_eq_ok h
    obtain ⟨product, amount⟩ := d
    cases hproduct
    exact congrArg (Delta.mk _) (Bounded.ext hquantity)
  · rintro rfl
    have hval : (Bounded.ofInt? item.delta.amount.val : Option Quantity) = some item.quantity :=
      Bounded.ofInt?_val item.quantity
    rw [Delta.toItem, hval]
    rfl

theorem mapM_toItem_eq_ok_iff {sums : List Delta} {items : List LineItem} :
    sums.mapM Delta.toItem = .ok items ↔ items.map delta = sums := by
  constructor
  · intro h
    have hall := Fallible.forall₂_of_mapM h
    clear h
    induction hall with
    | nil => rfl
    | cons hd _ ih => rw [List.map_cons, toItem_eq_ok_iff.1 hd, ih]
  · rintro rfl
    induction items with
    | nil => rfl
    | cons item items ih =>
      rw [List.map_cons, List.mapM_cons, toItem_eq_ok_iff.2 rfl, ih]
      rfl

/-- A line of a new order is one of a change with a positive quantity. -/
theorem addInput_eq_ok_iff {sums sums' : List Delta} {input : LineInput} :
    addInput sums input = .ok sums' ↔
      0 < input.quantity.val ∧ Delta.addInput sums input = .ok sums' := by
  rw [addInput, Delta.addInput, Fallible.bind_eq_ok_iff, Fallible.bind_eq_ok_iff]
  by_cases hpos : input.quantity.val ≤ 0
  · simp only [if_pos hpos]
    constructor
    · rintro ⟨_, _, ⟨⟩⟩
    · rintro ⟨h, -⟩
      omega
  · simp only [if_neg hpos]
    exact ⟨fun h => ⟨by omega, h⟩, fun h => h.2⟩

/-- The lines of a new order are added up like those of a change, once all of them are positive. -/
theorem foldlM_addInput_eq_ok_iff {inputs : List LineInput} {start sums : List Delta} :
    inputs.foldlM addInput start = .ok sums ↔
      (∀ input ∈ inputs, 0 < input.quantity.val) ∧ inputs.foldlM Delta.addInput start = .ok sums := by
  induction inputs generalizing start with
  | nil => exact ⟨fun h => ⟨List.forall_mem_nil _, h⟩, fun h => h.2⟩
  | cons input inputs ih =>
    rw [List.foldlM_cons, List.foldlM_cons, Fallible.bind_eq_ok_iff, Fallible.bind_eq_ok_iff,
      List.forall_mem_cons]
    simp only [addInput_eq_ok_iff, ih]
    constructor
    · rintro ⟨sums', ⟨hpos, hinput⟩, hall, hrest⟩
      exact ⟨⟨hpos, hall⟩, sums', hinput, hrest⟩
    · rintro ⟨⟨hpos, hall⟩, sums', hinput, hrest⟩
      exact ⟨sums', ⟨hpos, hinput⟩, hall, hrest⟩

/-- **When a new order can be read, and what its lines are.**  Nothing is said of 64 bits: positive
amounts whose sums an order can hold fit in any case. -/
theorem ofInputs_eq_ok_iff {inputs : List LineInput} {items : List LineItem} :
    ofInputs inputs = .ok items ↔ inputs ≠ [] ∧ LineInput.WellFormed inputs ∧
      (∀ input ∈ inputs, 0 < input.quantity.val) ∧
      Delta.Sums (LineInput.deltas inputs) (items.map delta) := by
  rw [ofInputs]
  by_cases hempty : inputs = []
  · subst hempty
    exact ⟨fun h => (by cases h), fun h => absurd rfl h.1⟩
  · rw [if_neg (by simpa using hempty), Fallible.bind_eq_ok_iff]
    simp only [mapM_toItem_eq_ok_iff, exists_eq_right', foldlM_addInput_eq_ok_iff,
      Delta.foldlM_addInput_eq_ok_iff]
    constructor
    · rintro ⟨hpos, hnamed, hsums⟩
      exact ⟨hempty, hnamed, hpos, Delta.sums_of_collect hsums⟩
    · rintro ⟨-, hnamed, hpos, hsums⟩
      refine ⟨hpos, hnamed, Delta.collect_eq_ok_iff.2 ⟨?_, hsums⟩⟩
      refine Delta.fits_of_pos (LineInput.pos_deltas hpos) fun p => ?_
      rw [← hsums.amounts]
      exact Delta.holds_amountOf hsums.nodup p

/-- A new order names its products in the order of first appearance. -/
theorem map_product_ofInputs {inputs : List LineInput} {items : List LineItem}
    (h : ofInputs inputs = .ok items) :
    items.map (·.product) = ((LineInput.deltas inputs).map (·.product)).eraseDups := by
  obtain ⟨-, -, -, hsums⟩ := ofInputs_eq_ok_iff.1 h
  rw [← map_product_delta items, hsums.products]

end LineItem

end OrderDesk
