import OrderDesk.Proofs.Order.Revising

/-!
# Quantities before and after changes

Changes go through the lines of an order one after the other: they look lines up, take lines away,
set quantities and add lines at the end.  All that comes of this can be told from the quantities
before and the changes, over the integers (`Order.changes_add_up`): when the changes can be made,
how much of each product there is afterwards, in which order the lines stand, and what the order of
the changes has to do with it.

Where no product has two lines, the products and the quantities determine the lines
(`LineItem.Regular.eq_of_quantityIn`), so nothing needs to be said of the lines themselves.
-/

namespace OrderDesk

namespace LineItem

/-- How many of a product are on lines; of a product without a line there are none. -/
def quantityIn (items : List LineItem) (p : ProductId) : Int :=
  ((quantityIn? items p).map (·.val)).getD 0

variable {items items' : List LineItem} {deltas deltas' : List Delta} {r r' : Revision}

theorem Regular.quantityIn_eq (h : Regular items) (p : ProductId) :
    quantityIn items p = amountOf p items := by
  have hfind : items.find? (·.product = p) = (linesOf p items).head? := (List.head?_filter ..).symm
  rw [quantityIn, quantityIn?, hfind]
  rcases h.linesOf_eq p with hnone | ⟨item, hone, hproduct, -⟩
  · rw [hnone, amountOf_eq_zero hnone]
    rfl
  · rw [← amountOf_linesOf, hone, amountOf_singleton hproduct]
    rfl

theorem Regular.quantityIn_of_mem (h : Regular items) {item : LineItem} (hitem : item ∈ items) :
    quantityIn items item.product = item.quantity.val := by
  have hd : ((items.map delta).map (·.product)).Nodup := map_product_delta items ▸ h.distinct
  rw [h.quantityIn_eq]
  exact Delta.amountOf_of_mem hd (List.mem_map_of_mem hitem)

/-- Of a product without a line there are none, and of every other one there are some. -/
theorem Regular.quantityIn_pos_iff (h : Regular items) {p : ProductId} :
    0 < quantityIn items p ↔ p ∈ items.map (·.product) := by
  rw [h.quantityIn_eq, h.amountOf_pos_iff]

/-- Parts of lines that name the same products in the same order are the same, if the quantities
are. -/
theorem Regular.eq_of_quantityIn (h : Regular items) (h' : Regular items')
    (hsame : ∀ p, quantityIn items p = quantityIn items' p) {part part' : List LineItem}
    (hpart : part ⊆ items) (hpart' : part' ⊆ items')
    (hproducts : part.map (·.product) = part'.map (·.product)) : part = part' := by
  induction part generalizing part' with
  | nil => exact (List.map_eq_nil_iff.1 hproducts.symm).symm
  | cons item part ih =>
    cases part' with
    | nil => cases hproducts
    | cons item' part' =>
      rw [List.map_cons, List.map_cons, List.cons.injEq] at hproducts
      rw [List.cons_subset] at hpart hpart'
      have hquantity : item.quantity = item'.quantity := by
        refine Bounded.ext ?_
        rw [← h.quantityIn_of_mem hpart.1, ← h'.quantityIn_of_mem hpart'.1, hsame, hproducts.1]
      obtain ⟨product, quantity⟩ := item
      obtain ⟨product', quantity'⟩ := item'
      cases hproducts.1
      cases hquantity
      rw [ih hpart.2 hpart'.2 hproducts.2]

/-! ## Changes -/

/-- Changes can be made just if no product comes to more than a line holds. -/
theorem exists_revise_iff_quantityIn (hi : Regular items) (hd : (deltas.map (·.product)).Nodup) :
    (∃ r, revise items deltas = .ok r) ↔
      ∀ p, quantityIn items p + Delta.amountOf p deltas ≤ 2147483647 := by
  rw [exists_revise_iff_of_regular hi hd]
  constructor
  · intro h p
    rw [hi.quantityIn_eq]
    by_cases hp : p ∈ deltas.map (·.product)
    · obtain ⟨d, hmem, rfl⟩ := List.mem_map.1 hp
      rw [Delta.amountOf_of_mem hd hmem]
      exact h d hmem
    · rw [Delta.amountOf_eq_zero hp, Int.add_zero]
      exact hi.amountOf_le p
  · intro h d hmem
    rw [← hi.quantityIn_eq, ← Delta.amountOf_of_mem hd hmem]
    exact h d.product

theorem quantityIn_revise (hi : Regular items) (hd : (deltas.map (·.product)).Nodup)
    (h : revise items deltas = .ok r) (p : ProductId) :
    quantityIn r.items p = max 0 (quantityIn items p + Delta.amountOf p deltas) := by
  rw [(regular_revise hi h).quantityIn_eq, hi.quantityIn_eq, amountOf_revise hi hd h]

/-- The old products that are left come first, in their order, and behind them the new ones. -/
theorem products_revise (hi : Regular items) (hd : (deltas.map (·.product)).Nodup)
    (h : revise items deltas = .ok r) :
    r.items.map (·.product) =
      (items.map (·.product)).filter (fun p => 0 < quantityIn items p + Delta.amountOf p deltas) ++
        r.added := by
  rw [map_product_revise hi hd h]
  refine congrArg (· ++ r.added) (List.filter_congr fun p _ => decide_eq_decide.2 ?_)
  rw [amountOf_revise hi hd h, hi.quantityIn_eq]
  omega

/-- Changes in another order lead to the same lines, except that the new ones stand in another
order. -/
theorem exists_revise_perm (hi : Regular items) (hd : (deltas.map (·.product)).Nodup)
    (h : revise items deltas = .ok r) (hperm : deltas.Perm deltas') :
    ∃ r' kept new new', revise items deltas' = .ok r' ∧ r.items = kept ++ new ∧
      r'.items = kept ++ new' ∧ new.map (·.product) = r.added ∧
      new'.map (·.product) = r'.added ∧ new.Perm new' := by
  have hd' : (deltas'.map (·.product)).Nodup := (hperm.map _).nodup hd
  obtain ⟨r', h'⟩ := (exists_revise_of_perm hd hperm).1 ⟨r, h⟩
  have hproducts := products_revise hi hd h
  have hproducts' := products_revise hi hd' h'
  simp only [← Delta.amountOf_perm hperm] at hproducts'
  obtain ⟨kept, new, hitems, hkept, hnew⟩ := List.map_eq_append_iff.1 hproducts
  obtain ⟨kept', new', hitems', hkept', hnew'⟩ := List.map_eq_append_iff.1 hproducts'
  have hsame : ∀ p, quantityIn r.items p = quantityIn r'.items p := fun p => by
    rw [quantityIn_revise hi hd h, quantityIn_revise hi hd' h', Delta.amountOf_perm hperm]
  have heq : kept = kept' :=
    (regular_revise hi h).eq_of_quantityIn (regular_revise hi h') hsame
      (hitems ▸ List.subset_append_left ..) (hitems' ▸ List.subset_append_left ..)
      (hkept.trans hkept'.symm)
  subst heq
  have hlines := (alike_of_perm hd hperm h h').items
  rw [hitems, hitems', List.perm_append_left_iff] at hlines
  exact ⟨r', kept, new, new', h', hitems, hitems', hnew, hnew', hlines⟩

/-- Changes of nothing change nothing. -/
theorem revise_of_zero (h : ∀ d ∈ deltas, d.amount.val = 0) :
    revise items deltas = .ok ⟨items, []⟩ := by
  unfold revise
  induction deltas with
  | nil => rfl
  | cons d deltas ih =>
    obtain ⟨hzero, hrest⟩ := List.forall_mem_cons.1 h
    rw [List.foldlM_cons, reviseStep, if_pos hzero]
    exact ih hrest

end LineItem

/-- **Changes add up.**  Let no product have two lines on an order, every quantity be positive, and
no product be changed twice.  Then the changes can be made just if each product comes to a quantity
that a line can hold, over the integers.  If they are made, the same can be said of the new lines:
of every product there is what there was together with its change, and no line if that is nothing or
less; the old lines that are left stand first, in their order, and behind them the products that are
new, in the order of the changes, which are just the ones said to be added.  So in another order the
changes make a difference to the order of the new lines only, and changes of nothing make none. -/
theorem Order.changes_add_up {o : Order} {deltas : List Delta} (hitems : LineItem.Regular o.items)
    (hd : (deltas.map (·.product)).Nodup) :
    ((∃ r, o.revise deltas = .ok r) ↔
      ∀ p, LineItem.quantityIn o.items p + Delta.amountOf p deltas ≤ 2147483647) ∧
    (∀ r, o.revise deltas = .ok r →
      LineItem.Regular r.items ∧
      (∀ p, LineItem.quantityIn r.items p =
          max 0 (LineItem.quantityIn o.items p + Delta.amountOf p deltas) ∧
        (LineItem.quantityIn r.items p = 0 ↔ p ∉ r.items.map (·.product))) ∧
      r.items.map (·.product) = (o.items.map (·.product)).filter
        (fun p => 0 < LineItem.quantityIn o.items p + Delta.amountOf p deltas) ++ r.added ∧
      r.added = (deltas.filter fun d =>
        0 < d.amount.val ∧ d.product ∉ o.items.map (·.product)).map (·.product) ∧
      ∀ deltas', deltas.Perm deltas' → ∃ r' kept new new', o.revise deltas' = .ok r' ∧
        r.items = kept ++ new ∧ r'.items = kept ++ new' ∧ new.map (·.product) = r.added ∧
        new'.map (·.product) = r'.added ∧ new.Perm new') ∧
    ((∀ d ∈ deltas, d.amount.val = 0) → o.revise deltas = .ok ⟨o.items, []⟩) := by
  refine ⟨LineItem.exists_revise_iff_quantityIn hitems hd, ?_, LineItem.revise_of_zero⟩
  intro r h
  have hregular := LineItem.regular_revise hitems h
  refine ⟨hregular, fun p => ⟨LineItem.quantityIn_revise hitems hd h p, ?_⟩,
    LineItem.products_revise hitems hd h, ?_, ?_⟩
  · have hnonneg := hregular.amountOf_nonneg p
    rw [← hregular.quantityIn_eq] at hnonneg
    rw [← hregular.quantityIn_pos_iff]
    omega
  · rw [LineItem.added_revise hd h]
    simp only [LineItem.linesOf_eq_nil_iff]
  · exact fun deltas' hperm => LineItem.exists_revise_perm hitems hd h hperm

/-! An order of tea and cups, of which the cups are no longer wanted but two other things are. -/

namespace Order.Rehearsal

def teaAndCups : Order :=
  .place .nil ⟨0, 0, 0⟩ none
    [⟨.ofNat 7, ⟨6, by decide, by decide⟩⟩, ⟨.ofNat 8, ⟨2, by decide, by decide⟩⟩] .zero

def noCups : Delta := ⟨.ofNat 8, ⟨-5, by decide, by decide⟩⟩

def spoons : Delta := ⟨.ofNat 9, ⟨3, by decide, by decide⟩⟩

def milk : Delta := ⟨.ofNat 5, ⟨2147483647, by decide, by decide⟩⟩

end Order.Rehearsal

open Order.Rehearsal in
theorem Order.changes_add_up_without_cups :
    LineItem.Regular teaAndCups.items ∧ ([spoons, noCups, milk].map (·.product)).Nodup ∧
      ∃ r r', teaAndCups.revise [spoons, noCups, milk] = .ok r ∧
        teaAndCups.revise [milk, spoons, noCups] = .ok r' ∧
        LineItem.quantityIn r.items (.ofNat 8) = 0 ∧ LineItem.quantityIn r.items (.ofNat 9) = 3 ∧
        r.items.map (·.product) = [.ofNat 7, .ofNat 9, .ofNat 5] ∧ r.items.Perm r'.items := by
  have hitems : LineItem.Regular teaAndCups.items := ⟨by decide, by decide⟩
  have hd : ([spoons, noCups, milk].map (·.product)).Nodup := by decide
  obtain ⟨-, hchanged, -⟩ := changes_add_up hitems hd
  have hmade : ∃ r, teaAndCups.revise [spoons, noCups, milk] = .ok r := ⟨_, rfl⟩
  obtain ⟨r, hr⟩ := hmade
  obtain ⟨-, hquantity, hproducts, hadded, hperm⟩ := hchanged r hr
  obtain ⟨r', kept, new, new', hr', hlines, hlines', -, -, hnew⟩ :=
    hperm [milk, spoons, noCups] (by decide)
  refine ⟨hitems, hd, r, r', hr, hr', (hquantity _).1, (hquantity _).1, ?_, ?_⟩
  · rw [hproducts, hadded]
    decide
  · rw [hlines, hlines']
    exact hnew.append_left kept

end OrderDesk
