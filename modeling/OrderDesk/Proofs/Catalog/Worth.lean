import Mathlib.Algebra.Order.BigOperators.Group.List
import Mathlib.Data.List.Perm.Subperm
import OrderDesk.Catalog.Assortment
import OrderDesk.Proofs.Service.FittingTotals

/-!
# What lines are worth at the built-in prices

A catalog inside the service prices lines exactly as far as their total fits
(`Assortment.worthOf_priced`).  The built-in catalog has so few products, at such prices, that no
lines of different products can be too much for it, whatever their quantities
(`Assortment.totalFits_builtIn`).
-/

namespace OrderDesk.Assortment

/-- The price of a product, and zero for none. -/
def priceOf (c : Assortment) (id : ProductId) : ℚ := (c.get? id).elim 0 (·.price.value)

/-- What lines are worth: the sum of quantity times price. -/
def worth (c : Assortment) (items : List LineItem) : ℚ :=
  (items.map fun item => item.quantity.val * c.priceOf item.product).sum

variable {c : Assortment} {id : ProductId} {p : Product} {items : List LineItem}

theorem answer_eq_ok_iff : c.answer id = .ok p ↔ c.get? id = some p := by
  unfold answer
  cases c.get? id <;> simp

theorem isOk_answer_iff : (c.answer id).isOk ↔ (c.get? id).isSome := by
  unfold answer
  cases c.get? id <;> simp [Except.isOk, Except.toBool]

theorem worthOf_priced (c : Assortment) (items : List LineItem) :
    worthOf (priced c.answer items) = c.worth items := by
  induction items with
  | nil => rfl
  | cons item items ih =>
    unfold worthOf priced worth priceOf answer at ih ⊢
    rw [List.filterMap_cons, List.map_cons, List.sum_cons, ← ih]
    cases c.get? item.product with
    | none => simp [Except.toOption]
    | some p => simp [Except.toOption, OrderDesk.worth, mul_comm]

/-! ## The built-in catalog -/

theorem mem_products_of_get? (h : c.get? id = some p) : p ∈ c.products ∧ p.id = id :=
  ⟨List.mem_reverse.1 (List.mem_of_find?_eq_some h), by simpa using List.find?_some h⟩

/-- Prices are given in cents, and none is larger than that of the laptop. -/
theorem price_builtIn (h : p ∈ builtIn.products) :
    p.price.negative = false ∧ p.price.magnitude ≤ 129999 ∧ p.price.scale = 2 := by
  revert p
  decide

theorem natAbs_cost_le {line : LineItem × Product} (h : line.2 ∈ builtIn.products) :
    (cost 2 line).natAbs ≤ 2147483648 * 129999 := by
  obtain ⟨hsign, hmagnitude, hscale⟩ := price_builtIn h
  have hquantity : line.1.quantity.val.natAbs ≤ 2147483648 := by
    have hlow := line.1.quantity.lo_le
    have hhigh := line.1.quantity.le_hi
    omega
  have hprice : (line.2.price.mantissaAt 2).natAbs ≤ 129999 := by
    rw [Decimal.mantissaAt_eq, hscale, Nat.sub_self, pow_zero, mul_one, Decimal.natAbs_mantissa]
    exact hmagnitude
  rw [cost, Int.natAbs_mul]
  exact Nat.mul_le_mul hquantity hprice

theorem mem_builtIn_of_mem_priced {line : LineItem × Product}
    (h : line ∈ priced builtIn.answer items) :
    line.2 ∈ builtIn.products ∧ line.2.id = line.1.product := by
  obtain ⟨item, -, hline⟩ := List.mem_filterMap.1 h
  obtain ⟨p, hp, rfl⟩ := Option.map_eq_some_iff.1 hline
  refine mem_products_of_get? (answer_eq_ok_iff.1 ?_)
  cases hanswer : builtIn.answer item.product with
  | error e =>
    rw [hanswer] at hp
    cases hp
  | ok q =>
    rw [hanswer] at hp
    cases hp
    rfl

theorem map_product_priced (answer : ProductId → Answer) (items : List LineItem) :
    (priced answer items).map (·.1.product) =
      (items.map (·.product)).filterMap fun id => (answer id).toOption.map fun _ => id := by
  rw [priced, List.map_filterMap, List.filterMap_map]
  refine List.filterMap_congr fun item _ => ?_
  rw [Option.map_map]
  rfl

/-- There are no more lines of different products than there are products. -/
theorem length_priced_le (hd : (items.map (·.product)).Nodup) :
    (priced builtIn.answer items).length ≤ 5 := by
  have hnodup : ((priced builtIn.answer items).map (·.1.product)).Nodup := by
    rw [map_product_priced]
    refine hd.filterMap fun id id' found hfound hfound' => ?_
    obtain ⟨-, -, rfl⟩ := Option.map_eq_some_iff.1 hfound
    obtain ⟨-, -, rfl⟩ := Option.map_eq_some_iff.1 hfound'
    rfl
  have hsubset : (priced builtIn.answer items).map (·.1.product) ⊆
      builtIn.products.map (·.id) := by
    intro id hid
    obtain ⟨line, hline, rfl⟩ := List.mem_map.1 hid
    obtain ⟨hproduct, heq⟩ := mem_builtIn_of_mem_priced hline
    rw [← heq]
    exact List.mem_map_of_mem hproduct
  have hlength := (hnodup.subperm hsubset).length_le
  rw [List.length_map] at hlength
  exact hlength

/-- **Nothing is too much for the built-in prices.** -/
theorem totalFits_builtIn (hd : (items.map (·.product)).Nodup) :
    TotalFits (priced builtIn.answer items) 2 where
  places_le := by decide
  scale_le line hline := (price_builtIn (mem_builtIn_of_mem_priced hline).1).2.2.le
  fits := by
    have hall : ∀ n ∈ (priced builtIn.answer items).map fun line => (cost 2 line).natAbs,
        n ≤ 2147483648 * 129999 := by
      intro n hn
      obtain ⟨line, hline, rfl⟩ := List.mem_map.1 hn
      exact natAbs_cost_le (mem_builtIn_of_mem_priced hline).1
    have hsum := List.sum_le_card_nsmul _ _ hall
    have hlength := length_priced_le hd
    have hlimit : 5 * (2147483648 * 129999) < Decimal.magnitudeLimit := by decide
    rw [List.length_map, nsmul_eq_mul, Nat.cast_id] at hsum
    omega

/-- The built-in catalog prices lines if it has all their products, and then exactly. -/
theorem priceBy_builtIn (hd : (items.map (·.product)).Nodup)
    (hknown : ∀ item ∈ items, (builtIn.get? item.product).isSome) :
    ∃ total, priceBy builtIn.answer items = .ok total ∧ total.value = builtIn.worth items := by
  obtain ⟨hiff, hexact⟩ := (totalFits_builtIn hd).priceBy_eq
  obtain ⟨total, htotal⟩ := hiff.2 fun item hitem => isOk_answer_iff.2 (hknown item hitem)
  refine ⟨total, htotal, ?_⟩
  rw [(hexact total htotal).value_eq, sum_cost_eq (totalFits_builtIn hd).scale_le, worthOf_priced]
  field_simp

end OrderDesk.Assortment
