import Mathlib.Data.List.Nodup
import OrderDesk.Order.Basic
import OrderDesk.Proofs.Fallible

/-!
# Regular lines

The lines of an order are *regular* (`LineItem.Regular`) when no product has two lines and every
quantity is positive.  Nothing checks this when an order is stored; it follows from how lines come
about:

* `regular_ofInputs` — the lines of a new order are regular, whatever was typed;
* `regular_revise` — changes keep lines regular, whatever they are;
* `replaceItems_ne_invalidQuantity` — no order refuses regular lines for a quantity.

The product of each line of a merge is either an old one or the one just named
(`Delta.map_product_merge`), which is why merging never makes two lines of one product.
-/

namespace OrderDesk

/-- Lines in which no product stands twice and every quantity is positive. -/
structure LineItem.Regular (items : List LineItem) : Prop where
  distinct : (items.map (·.product)).Nodup
  positive : ∀ item ∈ items, 0 < item.quantity.val

/-! ## Merging -/

namespace Delta

/-- The products after a merge, in order: a product that is new goes to the end. -/
theorem map_product_merge {product : ProductId} {amount : Signed64} {sums sums' : List Delta}
    (h : merge product amount sums = .ok sums') :
    sums'.map (·.product) =
      if product ∈ sums.map (·.product) then sums.map (·.product)
      else sums.map (·.product) ++ [product] := by
  induction sums generalizing sums' with
  | nil =>
    rw [merge] at h
    cases h
    rfl
  | cons d rest ih =>
    rw [merge] at h
    split at h
    · next hd =>
      split at h
      · cases h
        simp [hd]
      · cases h
    · next hd =>
      rw [Fallible.bind_eq_ok_iff] at h
      obtain ⟨rest', hrest, h⟩ := h
      cases h
      have hne : ¬ product = d.product := fun hp => hd hp.symm
      by_cases hmem : product ∈ rest.map (·.product)
      · simp only [List.map_cons, ih hrest, List.mem_cons, hne, hmem, if_true, or_true]
      · simp only [List.map_cons, ih hrest, List.mem_cons, hne, hmem, if_false, or_self,
          List.cons_append]

theorem nodup_merge {product : ProductId} {amount : Signed64} {sums sums' : List Delta}
    (h : merge product amount sums = .ok sums') (hd : (sums.map (·.product)).Nodup) :
    (sums'.map (·.product)).Nodup := by
  rw [map_product_merge h]
  split
  · exact hd
  · next hmem =>
    rw [← List.concat_eq_append]
    exact hd.concat hmem

/-- A sum of positive amounts is positive. -/
theorem pos_merge {product : ProductId} {amount : Signed64} {sums sums' : List Delta}
    (h : merge product amount sums = .ok sums') (hpos : 0 < amount.val)
    (hsums : ∀ d ∈ sums, 0 < d.amount.val) : ∀ d ∈ sums', 0 < d.amount.val := by
  induction sums generalizing sums' with
  | nil =>
    rw [merge] at h
    cases h
    intro d hd
    rw [List.mem_singleton] at hd
    exact hd ▸ hpos
  | cons e rest ih =>
    have he : 0 < e.amount.val := hsums e (List.mem_cons_self ..)
    have hrest : ∀ d ∈ rest, 0 < d.amount.val := fun d hd => hsums d (List.mem_cons_of_mem _ hd)
    rw [merge] at h
    split at h
    · split at h
      · next sum hsum =>
        cases h
        rw [Bounded.add?_eq_some_iff] at hsum
        intro d hd
        rcases List.mem_cons.1 hd with rfl | hd
        · show 0 < sum.val
          omega
        · exact hrest d hd
      · cases h
    · rw [Fallible.bind_eq_ok_iff] at h
      obtain ⟨rest', hmerge, h⟩ := h
      cases h
      intro d hd
      rcases List.mem_cons.1 hd with rfl | hd
      · exact he
      · exact ih hmerge hrest d hd

theorem toItem_eq_ok {d : Delta} {item : LineItem} (h : d.toItem = .ok item) :
    item.product = d.product ∧ item.quantity.val = d.amount.val := by
  unfold toItem at h
  split at h
  · next q hq =>
    cases h
    exact ⟨rfl, Bounded.ofInt?_eq_some_iff.1 hq⟩
  · cases h

end Delta

namespace LineItem

/-! ## Lines of a new order -/

/-- The sums of the lines of a new order: one for each product, all of them positive. -/
structure PositiveSums (sums : List Delta) : Prop where
  distinct : (sums.map (·.product)).Nodup
  positive : ∀ d ∈ sums, 0 < d.amount.val

theorem positiveSums_addInput {sums sums' : List Delta} {input : LineInput}
    (hs : PositiveSums sums) (h : addInput sums input = .ok sums') : PositiveSums sums' := by
  rw [addInput, Fallible.bind_eq_ok_iff] at h
  obtain ⟨product, -, h⟩ := h
  split at h
  · cases h
  · next hq =>
    exact ⟨Delta.nodup_merge h hs.distinct, Delta.pos_merge h (by omega) hs.positive⟩

/-- Lines that stand for sums have the products and the quantities of the sums, in their order. -/
theorem lines_of_toItem {sums : List Delta} {items : List LineItem}
    (h : List.Forall₂ (fun d item => Delta.toItem d = .ok item) sums items) :
    items.map (·.product) = sums.map (·.product) ∧
      ∀ item ∈ items, ∃ d ∈ sums, item.quantity.val = d.amount.val := by
  induction h with
  | nil => exact ⟨rfl, fun item hitem => absurd hitem List.not_mem_nil⟩
  | @cons d item sums items hd _ ih =>
    obtain ⟨hproduct, hquantity⟩ := Delta.toItem_eq_ok hd
    obtain ⟨ihp, ihq⟩ := ih
    refine ⟨by rw [List.map_cons, List.map_cons, hproduct, ihp], ?_⟩
    intro other hother
    rcases List.mem_cons.1 hother with rfl | hother
    · exact ⟨d, List.mem_cons_self .., hquantity⟩
    · obtain ⟨e, he, hval⟩ := ihq other hother
      exact ⟨e, List.mem_cons_of_mem _ he, hval⟩

/-- **The lines of a new order are regular**, whatever was typed. -/
theorem regular_ofInputs {inputs : List LineInput} {items : List LineItem}
    (h : ofInputs inputs = .ok items) : Regular items := by
  unfold ofInputs at h
  split at h
  · cases h
  · rw [Fallible.bind_eq_ok_iff] at h
    obtain ⟨sums, hsums, hitems⟩ := h
    have hnil : PositiveSums [] := ⟨List.nodup_nil, fun d hd => absurd hd List.not_mem_nil⟩
    have hs : PositiveSums sums :=
      Fallible.foldlM_preserves (fun _ _ _ hs h => positiveSums_addInput hs h) hnil hsums
    obtain ⟨hproducts, hquantities⟩ := lines_of_toItem (Fallible.forall₂_of_mapM hitems)
    refine ⟨hproducts ▸ hs.distinct, ?_⟩
    intro item hitem
    obtain ⟨d, hd, hval⟩ := hquantities item hitem
    rw [hval]
    exact hs.positive d hd

/-! ## Changes -/

/-- An adjustment takes at most one line away, and a quantity that it sets is positive. -/
theorem adjust_eq_ok {product : ProductId} {amount : Signed64} {items items' : List LineItem}
    (h : adjust product amount items = .ok items') :
    (items'.map (·.product)).Sublist (items.map (·.product)) ∧
      ∀ item ∈ items', item ∈ items ∨ 0 < item.quantity.val := by
  induction items generalizing items' with
  | nil =>
    rw [adjust] at h
    cases h
    exact ⟨.slnil, fun item hitem => absurd hitem List.not_mem_nil⟩
  | cons item rest ih =>
    rw [adjust] at h
    split at h
    · next hproduct =>
      split at h
      · cases h
      · next sum hsum =>
        split at h
        · cases h
          exact ⟨.cons _ (.refl _), fun other hother => Or.inl (List.mem_cons_of_mem _ hother)⟩
        · next hpos =>
          split at h
          · next quantity hquantity =>
            cases h
            rw [Bounded.ofInt?_eq_some_iff] at hquantity
            refine ⟨by rw [List.map_cons, List.map_cons, hproduct], ?_⟩
            intro other hother
            rcases List.mem_cons.1 hother with rfl | hother
            · right
              show 0 < quantity.val
              omega
            · exact Or.inl (List.mem_cons_of_mem _ hother)
          · cases h
    · rw [Fallible.bind_eq_ok_iff] at h
      obtain ⟨rest', hrest, h⟩ := h
      cases h
      obtain ⟨hsub, hmem⟩ := ih hrest
      refine ⟨hsub.cons_cons _, ?_⟩
      intro other hother
      rcases List.mem_cons.1 hother with rfl | hother
      · exact Or.inl (List.mem_cons_self ..)
      · exact (hmem other hother).imp_left (List.mem_cons_of_mem _)

theorem regular_reviseStep {r r' : Revision} {d : Delta} (hr : Regular r.items)
    (h : reviseStep r d = .ok r') : Regular r'.items := by
  unfold reviseStep at h
  split at h
  · cases h
    exact hr
  · split at h
    · rw [Fallible.bind_eq_ok_iff] at h
      obtain ⟨items, hitems, h⟩ := h
      cases h
      obtain ⟨hsub, hmem⟩ := adjust_eq_ok hitems
      refine ⟨hr.distinct.sublist hsub, ?_⟩
      intro item hitem
      rcases hmem item hitem with hold | hpos
      · exact hr.positive item hold
      · exact hpos
    · next hnew =>
      split at h
      · next hpos =>
        rw [Fallible.bind_eq_ok_iff] at h
        obtain ⟨item, hitem, h⟩ := h
        cases h
        obtain ⟨hproduct, hquantity⟩ := Delta.toItem_eq_ok hitem
        -- the product of the new line is on none of the old ones: the branch was taken for that
        have hfresh : item.product ∉ r.items.map (·.product) := by
          intro hmem
          obtain ⟨old, hold, heq⟩ := List.mem_map.1 hmem
          exact hnew (List.any_eq_true.2 ⟨old, hold, by simp [heq, hproduct]⟩)
        constructor
        · show ((r.items ++ [item]).map (·.product)).Nodup
          rw [List.map_append, List.map_singleton, ← List.concat_eq_append]
          exact hr.distinct.concat hfresh
        · intro other hother
          rcases List.mem_append.1 hother with hold | hother
          · exact hr.positive other hold
          · rw [List.mem_singleton.1 hother, hquantity]
            exact hpos
      · cases h
        exact hr

/-- **Changes keep lines regular**, whatever the changes are. -/
theorem regular_revise {items : List LineItem} {deltas : List Delta} {r : Revision}
    (hi : Regular items) (h : revise items deltas = .ok r) : Regular r.items :=
  Fallible.foldlM_preserves (P := fun r => Regular r.items)
    (fun _ _ _ hr h => regular_reviseStep hr h) hi h

end LineItem

/-- No order refuses regular lines for a quantity. -/
theorem Order.replaceItems_ne_invalidQuantity {items : List LineItem}
    (hitems : LineItem.Regular items) (o : Order) (total : Decimal) (product : ProductId)
    (amount : Signed64) :
    o.decide (.replaceItems items total) ≠ .error (.invalidQuantity product amount) := by
  intro h
  have hnone : items.find? (fun item => item.quantity.val ≤ 0) = none := by
    rw [List.find?_eq_none]
    intro item hitem hle
    have hpos : 0 < item.quantity.val := hitems.positive item hitem
    have hnonpos : item.quantity.val ≤ 0 := by simpa using hle
    omega
  simp only [Order.decide, hnone, Order.requirePending] at h
  split at h <;> cases h

end OrderDesk
