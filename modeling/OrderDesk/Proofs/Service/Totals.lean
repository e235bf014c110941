import OrderDesk.Proofs.Fallible
import OrderDesk.Service.Pricing

/-!
# Totals

Lines are priced in two ways.  The products of a new order are judged first and then looked up line
by line, where a line without a product would count nothing (`totalOf`); the lines of a changed
order go with the answers one by one (`price`).  Both come to the same: the total of the lines at
the prices that the catalog gave, each line priced once (`totalAt`).

* `judge_eq_ok` — products that are judged good were all answered for.
* `forall₂_lookup`, `lookup_isSome` — a line of a new order always finds the product that was
  answered for it.
* `judge_lines_eq_ok`, `price_eq_ok` — both ways of pricing give `totalAt`.
-/

namespace OrderDesk

/-- The total of lines at the prices of products, one for each line. -/
def totalAt (items : List LineItem) (products : List Product) : Except OrderError Decimal :=
  (items.zip products).foldlM (fun total line => charge total line.2 line.1.quantity) Decimal.zero

/-! ## Answers one by one -/

theorem chargeAnswer_eq_ok {total total' : Decimal} {item : LineItem} {a : Answer}
    (h : chargeAnswer total (item, a) = .ok total') :
    ∃ p, a = .ok p ∧ charge total p item.quantity = .ok total' := by
  unfold chargeAnswer at h
  split at h
  · next p hp => exact ⟨p, hp, h⟩
  · cases h
  · cases h

theorem foldlM_chargeAnswer_eq_ok {items : List LineItem} {answers : List Answer}
    {start total : Decimal} (hlength : answers.length = items.length)
    (h : (items.zip answers).foldlM chargeAnswer start = .ok total) :
    ∃ products : List Product, answers = products.map .ok ∧ products.length = items.length ∧
      (items.zip products).foldlM (fun total line => charge total line.2 line.1.quantity) start =
        .ok total := by
  induction items generalizing answers start with
  | nil =>
    rw [List.length_nil, List.length_eq_zero_iff] at hlength
    exact ⟨[], hlength, rfl, h⟩
  | cons item items ih =>
    cases answers with
    | nil => cases hlength
    | cons a answers =>
      rw [List.zip_cons_cons, List.foldlM_cons, Fallible.bind_eq_ok_iff] at h
      obtain ⟨next, hnext, h⟩ := h
      obtain ⟨p, rfl, hcharge⟩ := chargeAnswer_eq_ok hnext
      obtain ⟨products, rfl, hproducts, htotal⟩ := ih (Nat.succ.inj hlength) h
      refine ⟨p :: products, rfl, congrArg Nat.succ hproducts, ?_⟩
      rw [List.zip_cons_cons, List.foldlM_cons, Fallible.bind_eq_ok_iff]
      exact ⟨next, hcharge, htotal⟩

/-- Lines that can be priced were all answered for, and are priced at these answers. -/
theorem price_eq_ok {items : List LineItem} {answers : List Answer} {total : Decimal}
    (hlength : answers.length = items.length) (h : price items answers = .ok total) :
    ∃ products : List Product, answers = products.map .ok ∧ products.length = items.length ∧
      totalAt items products = .ok total :=
  foldlM_chargeAnswer_eq_ok hlength h

/-! ## Products that have been judged -/

namespace Complaints

theorem failure?_eq_none_iff {c : Complaints} :
    c.failure? = none ↔ c.unavailable = none ∧ c.missing = [] ∧ c.notForSale = [] := by
  unfold failure?
  cases c.unavailable with
  | some reason => simp
  | none =>
    by_cases hmissing : c.missing = []
    · by_cases hsale : c.notForSale = []
      · simp [hmissing, hsale]
      · simp [hmissing, hsale]
    · simp [hmissing]

/-- A note that is no complaint was made of a product. -/
theorem note_eq_none {c : Complaints} {q : ProductId × Answer} (h : (c.note q).failure? = none) :
    c.failure? = none ∧ ∃ p, q.2 = .ok p := by
  unfold note at h
  split at h
  · next p hp => exact ⟨h, p, hp⟩
  · simp [failure?_eq_none_iff] at h
  · simp [failure?_eq_none_iff] at h
  · simp [failure?_eq_none_iff] at h

theorem foldl_note_eq_none {qs : List (ProductId × Answer)} {c : Complaints}
    (h : (qs.foldl note c).failure? = none) :
    c.failure? = none ∧ ∀ q ∈ qs, ∃ p, q.2 = .ok p := by
  induction qs generalizing c with
  | nil => exact ⟨h, fun q hq => absurd hq List.not_mem_nil⟩
  | cons q qs ih =>
    obtain ⟨hnote, hrest⟩ := ih h
    obtain ⟨hc, hq⟩ := note_eq_none hnote
    refine ⟨hc, fun q' hq' => ?_⟩
    rcases List.mem_cons.1 hq' with rfl | hq'
    · exact hq
    · exact hrest q' hq'

end Complaints

theorem Answer.forSale_eq_ok {id : ProductId} {a : Answer} {p : Product}
    (h : a.forSale id = .ok p) : a = .ok p := by
  unfold forSale at h
  split at h
  · split at h
    · exact h
    · cases h
  · cases h

/-- Products that are judged good were all answered for. -/
theorem judge_eq_ok {ids : List ProductId} {answers : List Answer}
    {judged : List (ProductId × Product)} (hlength : answers.length = ids.length)
    (h : judge ids answers = .ok judged) :
    ∃ products : List Product, answers = products.map .ok ∧ products.length = ids.length ∧
      judged = ids.zip products := by
  unfold judge at h
  dsimp only at h
  split at h
  · cases h
  · next hnone =>
    cases h
    have hok := (Complaints.foldl_note_eq_none hnone).2
    clear hnone
    induction ids generalizing answers with
    | nil =>
      rw [List.length_nil, List.length_eq_zero_iff] at hlength
      exact ⟨[], hlength, rfl, by rw [hlength]; rfl⟩
    | cons id ids ih =>
      cases answers with
      | nil => cases hlength
      | cons a answers =>
        rw [List.zipWith_cons_cons] at hok ⊢
        obtain ⟨p, hp⟩ := hok _ (List.mem_cons_self ..)
        have hp : a.forSale id = .ok p := hp
        obtain ⟨products, rfl, hproducts, hzip⟩ :=
          ih (Nat.succ.inj hlength) fun q hq => hok q (List.mem_cons_of_mem _ hq)
        cases Answer.forSale_eq_ok hp
        refine ⟨p :: products, rfl, congrArg Nat.succ hproducts, ?_⟩
        rw [List.filterMap_cons, hp, hzip]
        rfl

/-- What is judged good can be bought. -/
theorem forSale_of_judge {ids : List ProductId} {answers : List Answer}
    {judged : List (ProductId × Product)} (h : judge ids answers = .ok judged) :
    ∀ q ∈ ids.zip answers, ∃ p, q.2.forSale q.1 = .ok p := by
  unfold judge at h
  dsimp only at h
  split at h
  · cases h
  · next hnone =>
    intro q hq
    refine (Complaints.foldl_note_eq_none hnone).2 (q.1, q.2.forSale q.1) ?_
    rw [← List.map_uncurry_zip_eq_zipWith]
    exact List.mem_map_of_mem hq

/-! ## Lines that look up their product -/

/-- Where no product stands twice, each line finds the product that stands for it. -/
theorem forall₂_lookup {items : List LineItem} {products : List Product}
    (hd : (items.map (·.product)).Nodup) (hlength : products.length = items.length) :
    List.Forall₂ (fun item p => ((items.map (·.product)).zip products).lookup item.product = some p)
      items products := by
  induction items generalizing products with
  | nil =>
    rw [List.length_nil, List.length_eq_zero_iff] at hlength
    exact hlength ▸ .nil
  | cons item items ih =>
    cases products with
    | nil => cases hlength
    | cons p products =>
      rw [List.map_cons, List.nodup_cons] at hd
      have hother : ∀ other ∈ items, other.product ≠ item.product :=
        fun other hmem heq => hd.1 (heq ▸ List.mem_map_of_mem hmem)
      rw [List.map_cons, List.zip_cons_cons]
      refine .cons (List.lookup_cons_self ..) ?_
      refine ((List.forall₂_and_left _ _).2 ⟨hother, ih hd.2 (Nat.succ.inj hlength)⟩).imp ?_
      rintro other q ⟨hne, hq⟩
      rw [List.lookup_cons, beq_false_of_ne hne]
      exact hq

/-- No line is without a product. -/
theorem lookup_isSome {items : List LineItem} {products : List Product}
    (hd : (items.map (·.product)).Nodup) (hlength : products.length = items.length) :
    ∀ item ∈ items, (((items.map (·.product)).zip products).lookup item.product).isSome := by
  have hfound := forall₂_lookup hd hlength
  generalize (items.map (·.product)).zip products = table at hfound ⊢
  clear hd hlength
  induction hfound with
  | nil => exact fun item hitem => absurd hitem List.not_mem_nil
  | cons hp _ ih =>
    intro item hitem
    rcases List.mem_cons.1 hitem with rfl | hitem
    · rw [hp]
      rfl
    · exact ih item hitem

/-- Lines that find their products in a table have the total of the lines at the prices of these. -/
theorem totalOf_eq_totalAt {table : List (ProductId × Product)} {items : List LineItem}
    {products : List Product}
    (hfound : List.Forall₂ (fun item p => table.lookup item.product = some p) items products) :
    totalOf table items = totalAt items products := by
  unfold totalOf totalAt
  generalize Decimal.zero = start
  induction hfound generalizing start with
  | nil => rfl
  | @cons item p items products hp _ ih =>
    rw [List.zip_cons_cons, List.foldlM_cons, List.foldlM_cons, hp]
    dsimp only
    exact congrArg (charge start p item.quantity >>= ·) (funext ih)

/-- A new order, whose lines look up their products, has the total of its lines at the prices that
were answered for them. -/
theorem totalOf_zip {items : List LineItem} {products : List Product}
    (hd : (items.map (·.product)).Nodup) (hlength : products.length = items.length) :
    totalOf ((items.map (·.product)).zip products) items = totalAt items products :=
  totalOf_eq_totalAt (forall₂_lookup hd hlength)

/-- What is judged good for the lines of a new order: an answer for each line, at whose price the
line is counted. -/
theorem judge_lines_eq_ok {items : List LineItem} {answers : List Answer}
    {judged : List (ProductId × Product)} (hd : (items.map (·.product)).Nodup)
    (hlength : answers.length = items.length)
    (h : judge (items.map (·.product)) answers = .ok judged) :
    (∃ products : List Product, answers = products.map .ok ∧ products.length = items.length ∧
      totalOf judged items = totalAt items products) ∧
    ∀ item ∈ items, (judged.lookup item.product).isSome := by
  obtain ⟨products, hanswers, hproducts, rfl⟩ :=
    judge_eq_ok (hlength.trans (List.length_map _).symm) h
  have hproducts : products.length = items.length := hproducts.trans (List.length_map _)
  exact ⟨⟨products, hanswers, hproducts, totalOf_zip hd hproducts⟩, lookup_isSome hd hproducts⟩

end OrderDesk
