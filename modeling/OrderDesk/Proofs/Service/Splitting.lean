import OrderDesk.Proofs.Order.Revising
import OrderDesk.Proofs.Service.Steady
import OrderDesk.Proofs.Store.Accounts

/-!
# Ordering in two parts

What is ordered can be asked for at once, or in part by a new order and in part by a change of it.
Where the catalog's answers do not change, both ways lead to the same lines in the same order and to
the same total, or to a refusal (`Service.ordering_in_two_parts`).

The two ways read different code.  The lines of a new order are merged and then judged; a change is
merged by itself and then applied to the lines that are there.  They meet in the sums of what was
typed (`Delta.Sums`): `LineItem.ofInputs_append_of_revise` goes from the change to the single order,
and `LineItem.exists_revise_of_ofInputs_append` back.
-/

namespace OrderDesk

/-! ## Lines -/

namespace LineItem

variable {first more : List LineInput} {items items' : List LineItem} {deltas : List Delta}
  {r : Revision}

/-- The amounts of a new order and of a positive change of it come to what both come to at once. -/
theorem sums_append_of_revise (hitems : Delta.Sums (LineInput.deltas first) (items.map delta))
    (hregular : Regular items) (hpos : ∀ input ∈ more, 0 < input.quantity.val)
    (hdeltas : Delta.Sums (LineInput.deltas more) deltas) (h : revise items deltas = .ok r) :
    Delta.Sums (LineInput.deltas (first ++ more)) (r.items.map delta) := by
  have hmore : ∀ d ∈ LineInput.deltas more, 0 < d.amount.val := LineInput.pos_deltas hpos
  have hdeltas_pos : ∀ d ∈ deltas, 0 < d.amount.val := by
    intro d hd
    obtain ⟨hproduct, hamount⟩ := hdeltas.mem_iff.1 hd
    rw [hamount]
    exact Delta.amountOf_pos hmore hproduct
  -- nothing is taken away, so amounts only add up
  have hamount : ∀ p, amountOf p r.items = amountOf p items + Delta.amountOf p deltas := by
    intro p
    have hnew := Delta.amountOf_nonneg hdeltas_pos p
    have hold := hregular.amountOf_nonneg p
    rw [amountOf_revise hregular hdeltas.nodup h]
    omega
  constructor
  · have hstay : (items.map (·.product)).filter (fun p => 0 < amountOf p r.items) =
        items.map (·.product) := by
      refine List.filter_eq_self.2 fun p hp => decide_eq_true ?_
      have hthere := hregular.amountOf_pos_iff.2 hp
      have hnew := Delta.amountOf_nonneg hdeltas_pos p
      rw [hamount]
      omega
    have hadded : r.added = (deltas.map (·.product)).filter (· ∉ items.map (·.product)) := by
      rw [added_revise hdeltas.nodup h, List.filter_map]
      refine congrArg (List.map _) (List.filter_congr fun d hd => ?_)
      simp [hdeltas_pos d hd, linesOf_eq_nil_iff]
    have hproducts := hitems.products
    rw [map_product_delta] at hproducts
    rw [map_product_delta, map_product_revise hregular hdeltas.nodup h, hstay, hadded,
      hdeltas.products, LineInput.deltas_append, List.map_append, Delta.eraseDups_append,
      ← hproducts]
    refine congrArg (items.map (·.product) ++ ·) (List.filter_congr fun p _ => ?_)
    rw [hproducts]
    simp only [List.mem_eraseDups]
  · intro p
    rw [LineInput.deltas_append, Delta.amountOf_append, ← hitems.amounts, ← hdeltas.amounts]
    exact hamount p

/-- What a new order and a positive change of it lead to can be ordered at once. -/
theorem ofInputs_append_of_revise (hitems : ofInputs first = .ok items)
    (hpos : ∀ input ∈ more, 0 < input.quantity.val) (hdeltas : Delta.ofInputs more = .ok deltas)
    (h : revise items deltas = .ok r) : ofInputs (first ++ more) = .ok r.items := by
  have hregular : Regular items := regular_ofInputs hitems
  obtain ⟨hsome, hnamed, hfirst, hsums⟩ := ofInputs_eq_ok_iff.1 hitems
  obtain ⟨-, hnamed', -, hsums'⟩ := Delta.ofInputs_eq_ok_iff.1 hdeltas
  refine ofInputs_eq_ok_iff.2 ⟨List.append_ne_nil_of_left_ne_nil hsome _, hnamed.append hnamed',
    ?_, sums_append_of_revise hsums hregular hpos hsums' h⟩
  intro input hinput
  rcases List.mem_append.1 hinput with hinput | hinput
  · exact hfirst input hinput
  · exact hpos input hinput

/-- What can be ordered at once can be ordered in two parts, if the first part can be ordered. -/
theorem exists_revise_of_ofInputs_append (hitems : ofInputs first = .ok items) (hmore : more ≠ [])
    (hall : ofInputs (first ++ more) = .ok items') :
    ∃ deltas r, Delta.ofInputs more = .ok deltas ∧ revise items deltas = .ok r ∧
      r.items = items' := by
  have hregular : Regular items := regular_ofInputs hitems
  have hregular' : Regular items' := regular_ofInputs hall
  obtain ⟨-, -, hfirst, hsums⟩ := ofInputs_eq_ok_iff.1 hitems
  obtain ⟨-, hnamed, hpos, hsums'⟩ := ofInputs_eq_ok_iff.1 hall
  have hpos : ∀ input ∈ more, 0 < input.quantity.val :=
    fun input hinput => hpos input (List.mem_append_right _ hinput)
  have hamount : ∀ p, amountOf p items' =
      amountOf p items + Delta.amountOf p (LineInput.deltas more) := by
    intro p
    rw [amountOf, amountOf, hsums'.amounts, hsums.amounts, LineInput.deltas_append,
      Delta.amountOf_append]
  have hbound : ∀ p, amountOf p items + Delta.amountOf p (LineInput.deltas more) ≤ 2147483647 :=
    fun p => hamount p ▸ hregular'.amountOf_le p
  have hfits : Delta.Fits (LineInput.deltas more) := by
    refine Delta.fits_of_pos (LineInput.pos_deltas hpos) fun p => ?_
    have hnew := Delta.amountOf_nonneg (LineInput.pos_deltas hpos) p
    have hold := hregular.amountOf_nonneg p
    have := hbound p
    unfold Signed64.Holds
    omega
  obtain ⟨deltas, hcollect⟩ := Delta.exists_collect_iff.2 hfits
  have hcollected := Delta.sums_of_collect hcollect
  have hdeltas : Delta.ofInputs more = .ok deltas :=
    Delta.ofInputs_eq_ok_iff.2 ⟨hmore, hnamed.of_append.2, hfits, hcollected⟩
  obtain ⟨r, hr⟩ := (exists_revise_iff_of_regular hregular hcollected.nodup).2 fun d hd => by
    rw [(hcollected.mem_iff.1 hd).2]
    exact hbound d.product
  refine ⟨deltas, r, hdeltas, hr, ?_⟩
  have hsame := (ofInputs_append_of_revise hitems hpos hdeltas hr).symm.trans hall
  exact Except.ok.inj hsame

end LineItem

/-! ## Orders -/

namespace Service

variable {κ : Type} {ask : κ → List ProductId → κ × List Answer} {answer : ProductId → Answer}
  {s s₁ : Service} {o p : Order} {owner : Option String} {first more : List LineInput}

/-- Whether an order can be taken in depends on its owner alone. -/
theorem exists_insertOrder (h : s.insertOrder o = (s₁, .ok o)) (howner : p.owner = o.owner) :
    ∃ s₂, s.insertOrder p = (s₂, .ok p) := by
  unfold insertOrder
  rw [howner]
  rcases (insertOrder_eq_ok h).2.2 with ⟨hnone, -⟩ | ⟨id, hid, hnoted⟩
  · rw [hnone]
    exact ⟨_, rfl⟩
  · obtain ⟨account, haccount, -⟩ := Accounts.noteOrder?_eq_some hnoted
    rw [hid]
    dsimp only
    rw [Accounts.noteOrder?, haccount]
    exact ⟨_, rfl⟩

/-- What is known of an order that has just been placed, where the catalog's answers do not
change. -/
structure Placed (answer : ProductId → Answer) (s : Service) (r : OrderRequest) (s₁ : Service)
    (o : Order) : Prop where
  owner : UserId.parseOwner r.owner = .ok o.owner
  items : LineItem.ofInputs r.products = .ok o.items
  forSale : ∀ item ∈ o.items, ForSale answer item.product
  priced : priceBy answer o.items = .ok o.total
  pending : o.status = .pending
  stored : s₁.order o.id = .ok o
  /-- Other orders of its owner could have been taken in as well. -/
  others : ∀ p : Order, p.owner = o.owner → ∃ s₂, s.insertOrder p = (s₂, .ok p)

namespace Placed

variable {fresh : OrderId} {now : Timestamp} {catalog : κ} {deltas : List Delta} {r : Revision}
  {items : List LineItem} {total : Decimal}

theorem of_createOrder (hask : Steady ask answer) {r : OrderRequest}
    (h : (s.createOrder ask fresh now catalog r).2 = (s₁, .ok o)) : Placed answer s r s₁ o := by
  obtain ⟨ownerId, items, total, howner, hitems, hsale, hprice, hinsert⟩ :=
    (createOrder_eq_ok_iff hask).1 h
  obtain ⟨rfl, horders, -⟩ := insertOrder_eq_ok hinsert
  refine ⟨howner, hitems, hsale, hprice, rfl, ?_, fun p hp => exists_insertOrder hinsert hp⟩
  rw [order_eq_ok_iff, horders, OrderBook.get?_insert_self]

/-- A request of the same owner that leads to lines which can be bought and priced succeeds. -/
theorem exists_createOrder (hask : Steady ask answer) (h : Placed answer s ⟨owner, first⟩ s₁ o)
    {inputs : List LineInput} (hitems : LineItem.ofInputs inputs = .ok items)
    (hsale : ∀ item ∈ items, ForSale answer item.product) (hprice : priceBy answer items = .ok total)
    (fresh : OrderId) (now : Timestamp) (catalog : κ) :
    ∃ s₂ p, (s.createOrder ask fresh now catalog ⟨owner, inputs⟩).2 = (s₂, .ok p) ∧
      p.items = items ∧ p.total = total := by
  obtain ⟨s₂, hs₂⟩ := h.others (.place fresh now o.owner items total) rfl
  exact ⟨s₂, _, (createOrder_eq_ok_iff hask).2
    ⟨o.owner, items, total, h.owner, hitems, hsale, hprice, hs₂⟩, rfl, rfl⟩

/-- A product is on the changed order because it was on the order before or because it was added. -/
theorem forSale_revise (h : Placed answer s ⟨owner, first⟩ s₁ o)
    (hd : (deltas.map (·.product)).Nodup) (hr : o.revise deltas = .ok r) :
    (∀ id ∈ r.added, ForSale answer id) ↔
      ∀ item ∈ r.items, ForSale answer item.product := by
  have hproducts := LineItem.map_product_revise (LineItem.regular_ofInputs h.items) hd hr
  constructor
  · intro hadded item hitem
    have hmem : item.product ∈ r.items.map (·.product) := List.mem_map_of_mem hitem
    rw [hproducts] at hmem
    rcases List.mem_append.1 hmem with hmem | hmem
    · obtain ⟨old, hold, heq⟩ := List.mem_map.1 (List.mem_filter.1 hmem).1
      exact heq ▸ h.forSale old hold
    · exact hadded _ hmem
  · intro hitems id hid
    have hmem : id ∈ r.items.map (·.product) := hproducts ▸ List.mem_append_right _ hid
    obtain ⟨item, hitem, heq⟩ := List.mem_map.1 hmem
    exact heq ▸ hitems item hitem

end Placed

/-- **Ordering in two parts.**  Let the catalog's answers not change, and let a first part be
ordered.  If more is then added to the order by a change, all of it can be ordered at once, which
comes to the same lines in the same order and to the same total.  And if all of it can be ordered at
once, then more can be added to the order of the first part, with the same lines and total. -/
theorem ordering_in_two_parts (hask : Steady ask answer) (hmore : more ≠ [])
    (hpos : ∀ input ∈ more, 0 < input.quantity.val) {fresh : OrderId} {now : Timestamp}
    {catalog : κ}
    (hfirst : (s.createOrder ask fresh now catalog ⟨owner, first⟩).2 = (s₁, .ok o)) :
    (∀ now₁ catalog₁ s₂ changed,
      (s₁.reviseOrder ask now₁ catalog₁ o.id more).2 = (s₂, .ok changed) →
      ∀ fresh₂ now₂ catalog₂, ∃ s₃ whole,
        (s.createOrder ask fresh₂ now₂ catalog₂ ⟨owner, first ++ more⟩).2 = (s₃, .ok whole) ∧
        whole.items = changed.items ∧ whole.total = changed.total) ∧
    ∀ fresh₂ now₂ catalog₂ s₃ whole,
      (s.createOrder ask fresh₂ now₂ catalog₂ ⟨owner, first ++ more⟩).2 = (s₃, .ok whole) →
      ∀ now₁ catalog₁, ∃ s₂ changed,
        (s₁.reviseOrder ask now₁ catalog₁ o.id more).2 = (s₂, .ok changed) ∧
        changed.items = whole.items ∧ changed.total = whole.total := by
  have hplaced := Placed.of_createOrder hask hfirst
  constructor
  · intro now₁ catalog₁ s₂ changed hchanged fresh₂ now₂ catalog₂
    obtain ⟨deltas, r, total, hdeltas, hpermits, hprice, rfl⟩ :=
      (reviseOrder_iff hask hplaced.stored).1 (congrArg Prod.snd hchanged)
    have hd := Delta.nodup_of_ofInputs hdeltas
    have hall := LineItem.ofInputs_append_of_revise hplaced.items hpos hdeltas hpermits.revised
    have hsale := (hplaced.forSale_revise hd hpermits.revised).1 hpermits.forSale
    exact hplaced.exists_createOrder hask hall hsale hprice fresh₂ now₂ catalog₂
  · intro fresh₂ now₂ catalog₂ s₃ whole hwhole now₁ catalog₁
    have hplaced₂ := Placed.of_createOrder hask hwhole
    obtain ⟨deltas, r, hdeltas, hr, hitems⟩ :=
      LineItem.exists_revise_of_ofInputs_append hplaced.items hmore hplaced₂.items
    have hd := Delta.nodup_of_ofInputs hdeltas
    have hregular := LineItem.regular_revise (LineItem.regular_ofInputs hplaced.items) hr
    have hsale := hitems ▸ hplaced₂.forSale
    have hprice := hitems ▸ hplaced₂.priced
    have hpermits : o.Permits answer deltas r :=
      ⟨hplaced.pending, hr, (hplaced.forSale_revise hd hr).2 hsale, hregular.positive⟩
    have hchanged : (s₁.reviseOrder ask now₁ catalog₁ o.id more).2.2 =
        .ok (o.apply (.itemsReplaced r.items whole.total)) :=
      (reviseOrder_iff hask hplaced.stored).2
        ⟨deltas, r, whole.total, hdeltas, hpermits, hprice, rfl⟩
    exact ⟨_, _, Prod.ext rfl hchanged, hitems, rfl⟩

/-! A catalog with nothing but tea. -/

namespace Rehearsal

open Switchboard.Rehearsal (tea line one two midnight)

def serveTea (catalog : Unit) (ids : List ProductId) : Unit × List Answer :=
  (catalog, ids.map fun _ => .ok tea)

theorem steady_serveTea : Steady serveTea fun _ => .ok tea := fun _ _ => rfl

theorem exists_order {inputs : List LineInput} {items : List LineItem} {total : Decimal}
    (hitems : LineItem.ofInputs inputs = .ok items)
    (htotal : priceBy (fun _ => .ok tea) items = .ok total) :
    ∃ s o, (empty.createOrder serveTea .nil midnight () ⟨none, inputs⟩).2 = (s, .ok o) ∧
      o.items = items ∧ o.total = total :=
  ⟨_, _, (createOrder_eq_ok_iff steady_serveTea).2
    ⟨none, items, total, rfl, hitems, fun _ _ => ⟨tea, rfl⟩, htotal, rfl⟩, rfl, rfl⟩

end Rehearsal

open Rehearsal Switchboard.Rehearsal in
theorem ordering_in_two_parts_of_tea :
    ∃ s₁ o s₂ changed,
      (empty.createOrder serveTea .nil midnight () ⟨none, [line one]⟩).2 = (s₁, .ok o) ∧
      (s₁.reviseOrder serveTea midnight () o.id [line two, line one]).2 = (s₂, .ok changed) ∧
      changed.items.map (·.quantity.val) = [4] ∧ changed.total.magnitude = 1000 := by
  obtain ⟨s₁, o, hfirst, -, -⟩ :=
    @exists_order [line one] [⟨.ofNat 7, ⟨1, by decide, by decide⟩⟩] (.ofHundredths 250)
      (by decide) (by decide)
  obtain ⟨s₃, whole, hwhole, hitems, htotal⟩ :=
    @exists_order [line one, line two, line one] [⟨.ofNat 7, ⟨4, by decide, by decide⟩⟩]
      (.ofHundredths 1000) (by decide) (by decide)
  obtain ⟨s₂, changed, hchanged, hsame, hcost⟩ :=
    (ordering_in_two_parts steady_serveTea (by decide) (by decide) hfirst).2 .nil midnight () s₃
      whole hwhole midnight ()
  refine ⟨s₁, o, s₂, changed, hfirst, hchanged, ?_, ?_⟩
  · rw [hsame, hitems]
    rfl
  · rw [hcost, htotal]
    rfl

end Service

end OrderDesk
