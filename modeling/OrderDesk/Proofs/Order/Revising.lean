import OrderDesk.Proofs.Order.Sums

/-!
# What changes make of lines

Changes are applied to the lines of an order one after the other, but each of them is about the
lines of its own product only.  So what becomes of the lines of a product depends on these lines and
on the change of this product, and on nothing else (`LineItem.changed`).

* `LineItem.exists_revise_iff`, `LineItem.linesOf_revise`, `LineItem.added_revise` — when changes
  can be made, what becomes of each product, and which products are new.
* `LineItem.Alike` — what two revisions have in common whose changes came in different orders.
* `LineItem.exists_revise_iff_of_regular`, `LineItem.amountOf_revise` — where no product has two
  lines, a change adds to what there is of its product, and less than nothing is nothing.
* `LineItem.map_product_revise` — in which order the lines stand afterwards.
-/

namespace OrderDesk.LineItem

/-- The lines of a product. -/
def linesOf (p : ProductId) (items : List LineItem) : List LineItem := items.filter (·.product = p)

/-- What a change makes of the lines of its product. -/
def changed (d : Delta) (lines : List LineItem) : Except OrderError (List LineItem) :=
  (reviseStep ⟨lines, []⟩ d).map (·.items)

variable {p q : ProductId} {d : Delta} {deltas deltas' : List Delta}
  {items items' lines : List LineItem} {r r' : Revision}

/-! ## The lines of one product -/

theorem linesOf_cons_self {item : LineItem} (h : item.product = p) :
    linesOf p (item :: items) = item :: linesOf p items :=
  List.filter_cons_of_pos (by simpa using h)

theorem linesOf_cons_of_ne {item : LineItem} (h : item.product ≠ p) :
    linesOf p (item :: items) = linesOf p items :=
  List.filter_cons_of_neg (by simpa using h)

theorem linesOf_append (p : ProductId) (items items' : List LineItem) :
    linesOf p (items ++ items') = linesOf p items ++ linesOf p items' :=
  List.filter_append ..

theorem linesOf_linesOf (p : ProductId) (items : List LineItem) :
    linesOf p (linesOf p items) = linesOf p items := by
  simp [linesOf]

theorem linesOf_eq_nil_iff : linesOf p items = [] ↔ p ∉ items.map (·.product) := by
  simp [linesOf]

theorem any_product_iff : items.any (·.product = p) = true ↔ linesOf p items ≠ [] := by
  simp [linesOf]

/-- Lists with the same lines of each product have the same lines. -/
theorem perm_of_linesOf (h : ∀ p, linesOf p items = linesOf p items') : items.Perm items' := by
  refine List.perm_iff_count.2 fun item => ?_
  have hcount (l : List LineItem) : l.count item = (linesOf item.product l).count item :=
    (List.count_filter (by simp)).symm
  rw [hcount items, hcount items', h]

/-! ## One change -/

theorem linesOf_adjust (p : ProductId) (amount : Signed64) (items : List LineItem) :
    (adjust p amount items).map (linesOf p) = adjust p amount (linesOf p items) := by
  induction items with
  | nil => rfl
  | cons item rest ih =>
    by_cases hp : item.product = p
    · rw [linesOf_cons_self hp, adjust, adjust, if_pos hp, if_pos hp]
      cases (wide item.quantity).add? amount with
      | none => rfl
      | some sum =>
        dsimp only
        split
        · rfl
        · cases (Bounded.ofInt? sum.val : Option Quantity) with
          | none => rfl
          | some quantity => exact congrArg Except.ok (linesOf_cons_self rfl)
    · rw [linesOf_cons_of_ne hp, ← ih, adjust, if_neg hp]
      cases adjust p amount rest with
      | error e => rfl
      | ok rest' => exact congrArg Except.ok (linesOf_cons_of_ne hp)

theorem linesOf_adjust_of_ne {amount : Signed64} (h : adjust p amount items = .ok items')
    (hq : q ≠ p) : linesOf q items' = linesOf q items := by
  induction items generalizing items' with
  | nil =>
    cases h
    rfl
  | cons item rest ih =>
    rw [adjust] at h
    split at h
    · next hp =>
      have hne : item.product ≠ q := fun heq => hq (heq.symm.trans hp)
      split at h
      · cases h
      · split at h
        · cases h
          exact (linesOf_cons_of_ne hne).symm
        · split at h
          · cases h
            rw [linesOf_cons_of_ne hne, linesOf_cons_of_ne (Ne.symm hq)]
          · cases h
    · rw [Fallible.bind_eq_ok_iff] at h
      obtain ⟨rest', hrest, h⟩ := h
      cases h
      by_cases heq : item.product = q
      · rw [linesOf_cons_self heq, linesOf_cons_self heq, ih hrest]
      · rw [linesOf_cons_of_ne heq, linesOf_cons_of_ne heq, ih hrest]

/-- Of the lines of its product a change makes the same, whatever other lines there are. -/
theorem linesOf_reviseStep (r : Revision) (d : Delta) :
    (reviseStep r d).map (fun r => linesOf d.product r.items) =
      changed d (linesOf d.product r.items) := by
  unfold changed reviseStep
  have hany : (linesOf d.product r.items).any (·.product = d.product) =
      r.items.any (·.product = d.product) := by
    rw [Bool.eq_iff_iff, any_product_iff, any_product_iff, linesOf_linesOf]
  by_cases hzero : d.amount.val = 0
  · rw [if_pos hzero, if_pos hzero]
    rfl
  · rw [if_neg hzero, if_neg hzero]
    dsimp only
    rw [hany]
    by_cases hold : r.items.any (·.product = d.product) = true
    · rw [if_pos hold, if_pos hold, ← linesOf_adjust]
      cases adjust d.product d.amount r.items <;> rfl
    · rw [if_neg hold, if_neg hold]
      have hnone : linesOf d.product r.items = [] := by
        rw [any_product_iff, not_not] at hold
        exact hold
      split
      · cases hitem : d.toItem with
        | error e => rfl
        | ok item =>
          have hproduct := (Delta.toItem_eq_ok hitem).1
          show Except.ok (linesOf d.product (r.items ++ [item])) = .ok (linesOf _ r.items ++ [item])
          rw [linesOf_append, linesOf_cons_self hproduct]
          rfl
      · rfl

theorem linesOf_reviseStep_of_ne (h : reviseStep r d = .ok r') (hq : q ≠ d.product) :
    linesOf q r'.items = linesOf q r.items := by
  unfold reviseStep at h
  split at h
  · cases h
    rfl
  · split at h
    · rw [Fallible.bind_eq_ok_iff] at h
      obtain ⟨items, hitems, h⟩ := h
      cases h
      exact linesOf_adjust_of_ne hitems hq
    · split at h
      · rw [Fallible.bind_eq_ok_iff] at h
        obtain ⟨item, hitem, h⟩ := h
        cases h
        have hne : item.product ≠ q := (Delta.toItem_eq_ok hitem).1 ▸ Ne.symm hq
        show linesOf q (r.items ++ [item]) = _
        rw [linesOf_append, linesOf_cons_of_ne hne]
        exact List.append_nil _
      · cases h
        rfl

/-- A product is new if it is not on the order and more of it is wanted than nothing. -/
theorem added_reviseStep (h : reviseStep r d = .ok r') :
    r'.added = r.added ++
      if 0 < d.amount.val ∧ linesOf d.product r.items = [] then [d.product] else [] := by
  unfold reviseStep at h
  split at h
  · next hzero =>
    cases h
    rw [if_neg fun hnew => by omega, List.append_nil]
  · split at h
    · next hold =>
      rw [Fallible.bind_eq_ok_iff] at h
      obtain ⟨items, -, h⟩ := h
      cases h
      rw [if_neg fun hnew => any_product_iff.1 hold hnew.2, List.append_nil]
    · next hold =>
      have hnone : linesOf d.product r.items = [] := by
        rw [any_product_iff, not_not] at hold
        exact hold
      split at h
      · next hpos =>
        rw [Fallible.bind_eq_ok_iff] at h
        obtain ⟨item, -, h⟩ := h
        cases h
        rw [if_pos ⟨hpos, hnone⟩]
      · next hpos =>
        cases h
        rw [if_neg fun hnew => hpos hnew.1, List.append_nil]

/-! ## All changes -/

/-- Changes of different products can be made one after the other just if each of them can be made
of the lines of its product. -/
theorem exists_foldlM_reviseStep_iff (hd : (deltas.map (·.product)).Nodup) (r : Revision) :
    (∃ r', deltas.foldlM reviseStep r = .ok r') ↔
      ∀ d ∈ deltas, ∃ lines, changed d (linesOf d.product r.items) = .ok lines := by
  induction deltas generalizing r with
  | nil => exact ⟨fun _ d hmem => (by cases hmem), fun _ => ⟨r, rfl⟩⟩
  | cons d deltas ih =>
    rw [List.map_cons, List.nodup_cons] at hd
    rw [List.foldlM_cons, List.forall_mem_cons]
    cases hstep : reviseStep r d with
    | error e =>
      have hchanged := linesOf_reviseStep r d
      rw [hstep] at hchanged
      rw [← hchanged]
      exact ⟨fun ⟨_, h⟩ => (by cases h), fun ⟨⟨_, h⟩, _⟩ => (by cases h)⟩
    | ok next =>
      have hchanged := linesOf_reviseStep r d
      rw [hstep] at hchanged
      show (∃ r', deltas.foldlM reviseStep next = .ok r') ↔ _
      rw [ih hd.2, ← hchanged]
      have hother : ∀ d' ∈ deltas, linesOf d'.product next.items = linesOf d'.product r.items := by
        intro d' hd'
        refine linesOf_reviseStep_of_ne hstep fun heq => hd.1 (heq ▸ List.mem_map_of_mem hd')
      constructor
      · intro h
        exact ⟨⟨_, rfl⟩, fun d' hd' => hother d' hd' ▸ h d' hd'⟩
      · rintro ⟨-, h⟩ d' hd'
        exact (hother d' hd').symm ▸ h d' hd'

theorem linesOf_foldlM_reviseStep (hd : (deltas.map (·.product)).Nodup)
    (h : deltas.foldlM reviseStep r = .ok r') :
    (∀ d ∈ deltas, changed d (linesOf d.product r.items) = .ok (linesOf d.product r'.items)) ∧
      ∀ p, p ∉ deltas.map (·.product) → linesOf p r'.items = linesOf p r.items := by
  induction deltas generalizing r with
  | nil =>
    cases h
    exact ⟨List.forall_mem_nil _, fun _ _ => rfl⟩
  | cons d deltas ih =>
    rw [List.map_cons, List.nodup_cons] at hd
    rw [List.foldlM_cons, Fallible.bind_eq_ok_iff] at h
    obtain ⟨next, hstep, hrest⟩ := h
    obtain ⟨hchanged, hsame⟩ := ih hd.2 hrest
    constructor
    · intro d' hd'
      rcases List.mem_cons.1 hd' with rfl | hd'
      · rw [← linesOf_reviseStep, hstep, hsame _ hd.1]
        rfl
      · have hne : d'.product ≠ d.product := fun heq => hd.1 (heq ▸ List.mem_map_of_mem hd')
        rw [← linesOf_reviseStep_of_ne hstep hne]
        exact hchanged d' hd'
    · intro p hp
      rw [List.map_cons, List.mem_cons, not_or] at hp
      rw [hsame p hp.2, linesOf_reviseStep_of_ne hstep hp.1]

theorem added_foldlM_reviseStep (hd : (deltas.map (·.product)).Nodup)
    (h : deltas.foldlM reviseStep r = .ok r') :
    r'.added = r.added ++ (deltas.filter fun d =>
      0 < d.amount.val ∧ linesOf d.product r.items = []).map (·.product) := by
  induction deltas generalizing r with
  | nil =>
    cases h
    exact (List.append_nil _).symm
  | cons d deltas ih =>
    rw [List.map_cons, List.nodup_cons] at hd
    rw [List.foldlM_cons, Fallible.bind_eq_ok_iff] at h
    obtain ⟨next, hstep, hrest⟩ := h
    have hother : (deltas.filter fun d => 0 < d.amount.val ∧ linesOf d.product next.items = []) =
        deltas.filter fun d => 0 < d.amount.val ∧ linesOf d.product r.items = [] := by
      refine List.filter_congr fun d' hd' => ?_
      have hne : d'.product ≠ d.product := fun heq => hd.1 (heq ▸ List.mem_map_of_mem hd')
      rw [linesOf_reviseStep_of_ne hstep hne]
    rw [ih hd.2 hrest, hother, added_reviseStep hstep, List.append_assoc, List.filter_cons]
    by_cases hnew : 0 < d.amount.val ∧ linesOf d.product r.items = []
    · rw [if_pos hnew, if_pos (decide_eq_true hnew)]
      rfl
    · rw [if_neg hnew, if_neg (by simpa using hnew)]
      rfl

/-- **When changes can be made**: each of them is about its own product only. -/
theorem exists_revise_iff (hd : (deltas.map (·.product)).Nodup) (items : List LineItem) :
    (∃ r, revise items deltas = .ok r) ↔
      ∀ d ∈ deltas, ∃ lines, changed d (linesOf d.product items) = .ok lines :=
  exists_foldlM_reviseStep_iff hd ⟨items, []⟩

/-- **What becomes of each product**: what its change makes of its lines, or what was there. -/
theorem linesOf_revise (hd : (deltas.map (·.product)).Nodup) (h : revise items deltas = .ok r) :
    (∀ d ∈ deltas, changed d (linesOf d.product items) = .ok (linesOf d.product r.items)) ∧
      ∀ p, p ∉ deltas.map (·.product) → linesOf p r.items = linesOf p items :=
  linesOf_foldlM_reviseStep hd h

theorem added_revise (hd : (deltas.map (·.product)).Nodup) (h : revise items deltas = .ok r) :
    r.added = (deltas.filter fun d =>
      0 < d.amount.val ∧ linesOf d.product items = []).map (·.product) :=
  added_foldlM_reviseStep hd h

/-- A product on the changed lines was on the lines before, or was added. -/
theorem mem_products_revise (h : revise items deltas = .ok r) :
    ∀ p ∈ r.items.map (·.product), p ∈ items.map (·.product) ∨ p ∈ r.added := by
  refine Fallible.foldlM_preserves
    (P := fun r => ∀ p ∈ r.items.map (·.product), p ∈ items.map (·.product) ∨ p ∈ r.added)
    (fun r d r' hr hstep => ?_) (fun p hp => Or.inl hp) h
  unfold reviseStep at hstep
  split at hstep
  · cases hstep
    exact hr
  · split at hstep
    · rw [Fallible.bind_eq_ok_iff] at hstep
      obtain ⟨items', hitems, hstep⟩ := hstep
      cases hstep
      exact fun p hp => hr p ((adjust_eq_ok hitems).1.subset hp)
    · split at hstep
      · rw [Fallible.bind_eq_ok_iff] at hstep
        obtain ⟨item, hitem, hstep⟩ := hstep
        cases hstep
        intro p hp
        rw [List.map_append, List.map_singleton, (Delta.toItem_eq_ok hitem).1] at hp
        rcases List.mem_append.1 hp with hold | hnew
        · exact (hr p hold).imp_right (List.mem_append_left _)
        · exact Or.inr (List.mem_append_right _ hnew)
      · cases hstep
        exact hr

/-! ## Changes in another order -/

/-- Revisions with the same lines and the same new products, perhaps in different orders. -/
structure Alike (r r' : Revision) : Prop where
  items : r.items.Perm r'.items
  added : ∀ p, p ∈ r.added ↔ p ∈ r'.added

theorem exists_revise_of_perm (hd : (deltas.map (·.product)).Nodup) (hperm : deltas.Perm deltas') :
    (∃ r, revise items deltas = .ok r) ↔ ∃ r', revise items deltas' = .ok r' := by
  rw [exists_revise_iff hd, exists_revise_iff ((hperm.map _).nodup hd)]
  simp only [hperm.mem_iff]

/-- Changes of different products may be made in any order. -/
theorem alike_of_perm (hd : (deltas.map (·.product)).Nodup) (hperm : deltas.Perm deltas')
    (h : revise items deltas = .ok r) (h' : revise items deltas' = .ok r') : Alike r r' := by
  have hd' : (deltas'.map (·.product)).Nodup := (hperm.map _).nodup hd
  obtain ⟨hchanged, hsame⟩ := linesOf_revise hd h
  obtain ⟨hchanged', hsame'⟩ := linesOf_revise hd' h'
  constructor
  · refine perm_of_linesOf fun p => ?_
    by_cases hp : p ∈ deltas.map (·.product)
    · obtain ⟨d, hmem, rfl⟩ := List.mem_map.1 hp
      have heq := (hchanged d hmem).symm.trans (hchanged' d (hperm.mem_iff.1 hmem))
      exact Except.ok.inj heq
    · rw [hsame p hp, hsame' p fun hp' => hp ((hperm.map _).mem_iff.2 hp')]
  · intro p
    rw [added_revise hd h, added_revise hd' h', ((hperm.filter _).map _).mem_iff]

/-! ## Lines of which no product has two -/

/-- How much of a product lines come to. -/
def amountOf (p : ProductId) (items : List LineItem) : Int := Delta.amountOf p (items.map delta)

theorem amountOf_linesOf (p : ProductId) (items : List LineItem) :
    amountOf p (linesOf p items) = amountOf p items := by
  unfold amountOf
  induction items with
  | nil => rfl
  | cons item items ih =>
    by_cases hp : item.product = p
    · rw [linesOf_cons_self hp, List.map_cons, List.map_cons, Delta.amountOf_cons,
        Delta.amountOf_cons, ih]
    · have hother : item.delta.product ≠ p := hp
      rw [linesOf_cons_of_ne hp, List.map_cons, Delta.amountOf_cons, if_neg hother, Int.zero_add,
        ih]

theorem amountOf_eq_zero (h : linesOf p items = []) : amountOf p items = 0 := by
  rw [← amountOf_linesOf, h]
  rfl

/-- A product has one line, with a positive quantity, or none. -/
theorem Regular.linesOf_eq (h : Regular items) (p : ProductId) :
    linesOf p items = [] ∨ ∃ item, linesOf p items = [item] ∧ item.product = p ∧
      0 < item.quantity.val := by
  obtain ⟨hdistinct, hpositive⟩ := h
  induction items with
  | nil => exact Or.inl rfl
  | cons item items ih =>
    rw [List.map_cons, List.nodup_cons] at hdistinct
    by_cases hp : item.product = p
    · right
      have hrest : linesOf p items = [] := linesOf_eq_nil_iff.2 (hp ▸ hdistinct.1)
      exact ⟨item, by rw [linesOf_cons_self hp, hrest], hp, hpositive item (List.mem_cons_self ..)⟩
    · rw [linesOf_cons_of_ne hp]
      exact ih hdistinct.2 fun other hother => hpositive other (List.mem_cons_of_mem _ hother)

theorem amountOf_singleton {item : LineItem} (h : item.product = p) :
    amountOf p [item] = item.quantity.val := by
  have hproduct : item.delta.product = p := h
  rw [amountOf, List.map_singleton, Delta.amountOf_cons, if_pos hproduct, Delta.amountOf_nil,
    Int.add_zero]
  rfl

theorem Regular.pos_delta (h : Regular items) : ∀ d ∈ items.map delta, 0 < d.amount.val := by
  intro d hd
  obtain ⟨item, hitem, rfl⟩ := List.mem_map.1 hd
  exact h.positive item hitem

theorem Regular.amountOf_nonneg (h : Regular items) (p : ProductId) : 0 ≤ amountOf p items :=
  Delta.amountOf_nonneg h.pos_delta p

theorem Regular.amountOf_le (h : Regular items) (p : ProductId) : amountOf p items ≤ 2147483647 := by
  rcases h.linesOf_eq p with hnone | ⟨item, hone, hproduct, -⟩
  · rw [amountOf_eq_zero hnone]
    decide
  · rw [← amountOf_linesOf, hone, amountOf_singleton hproduct]
    exact item.quantity.le_hi

theorem Regular.amountOf_pos_iff (h : Regular items) :
    0 < amountOf p items ↔ p ∈ items.map (·.product) := by
  constructor
  · intro hpos
    by_contra hnot
    rw [amountOf_eq_zero (linesOf_eq_nil_iff.2 hnot)] at hpos
    omega
  · intro hmem
    exact Delta.amountOf_pos h.pos_delta (map_product_delta items ▸ hmem)

/-! ## Changes of such lines -/

theorem changed_nil_eq (d : Delta) :
    changed d [] = if 0 < d.amount.val then d.toItem.map fun item => [item] else .ok [] := by
  unfold changed reviseStep
  by_cases hzero : d.amount.val = 0
  · rw [if_pos hzero, if_neg (by omega)]
    rfl
  · rw [if_neg hzero, if_neg (by simp)]
    split
    · cases d.toItem <;> rfl
    · rfl

/-- A change that is refused comes to nothing. -/
theorem refused_iff {e : OrderError} {fits : Prop} {amount : Int} (h : ¬ fits) :
    ((∃ lines, (.error e : Except OrderError (List LineItem)) = .ok lines) ↔ fits) ∧
      ∀ lines, (.error e : Except OrderError (List LineItem)) = .ok lines →
        amountOf p lines = amount := by
  constructor
  · constructor
    · rintro ⟨_, ⟨⟩⟩
    · intro hfits
      exact absurd hfits h
  · rintro _ ⟨⟩

/-- A change that is made comes to what is there of its product afterwards. -/
theorem made_iff {fits : Prop} {amount : Int} (h : fits) (hamount : amountOf p lines = amount) :
    ((∃ lines', (.ok lines : Except OrderError (List LineItem)) = .ok lines') ↔ fits) ∧
      ∀ lines', (.ok lines : Except OrderError (List LineItem)) = .ok lines' →
        amountOf p lines' = amount := by
  refine ⟨⟨fun _ => h, fun _ => ⟨lines, rfl⟩⟩, ?_⟩
  rintro _ ⟨⟩
  exact hamount

/-- A change of a product that is not there. -/
theorem changed_nil (d : Delta) :
    ((∃ lines, changed d [] = .ok lines) ↔ d.amount.val ≤ 2147483647) ∧
      ∀ lines, changed d [] = .ok lines → amountOf d.product lines = max 0 d.amount.val := by
  rw [changed_nil_eq]
  by_cases hpos : 0 < d.amount.val
  · rw [if_pos hpos]
    cases hitem : d.toItem with
    | error e =>
      unfold Delta.toItem at hitem
      split at hitem
      · cases hitem
      · next hquantity =>
        have hout := Bounded.ofInt?_eq_none_iff.1 hquantity
        exact refused_iff (by omega)
    | ok item =>
      obtain ⟨hproduct, hquantity⟩ := Delta.toItem_eq_ok hitem
      have hle := item.quantity.le_hi
      refine made_iff (by omega) ?_
      rw [amountOf_singleton hproduct]
      omega
  · rw [if_neg hpos]
    refine made_iff (by omega) ?_
    rw [amountOf_eq_zero rfl]
    omega

/-- A change of a product that has a line. -/
theorem changed_singleton {item : LineItem} (hproduct : item.product = d.product)
    (hpos : 0 < item.quantity.val) :
    ((∃ lines, changed d [item] = .ok lines) ↔
        item.quantity.val + d.amount.val ≤ 2147483647) ∧
      ∀ lines, changed d [item] = .ok lines →
        amountOf d.product lines = max 0 (item.quantity.val + d.amount.val) := by
  have hle := item.quantity.le_hi
  unfold changed reviseStep
  by_cases hzero : d.amount.val = 0
  · rw [if_pos hzero]
    refine made_iff (by omega) ?_
    rw [amountOf_singleton hproduct]
    omega
  · rw [if_neg hzero, if_pos (by simp [hproduct]), adjust, if_pos hproduct]
    have hlo := d.amount.lo_le
    cases hsum : (wide item.quantity).add? d.amount with
    | none =>
      have hout := Bounded.ofInt?_eq_none_iff.1 hsum
      have hwide : (wide item.quantity).val = item.quantity.val := rfl
      exact refused_iff (by omega)
    | some sum =>
      have hsum : sum.val = item.quantity.val + d.amount.val := Bounded.add?_eq_some_iff.1 hsum
      dsimp only
      by_cases hgone : sum.val ≤ 0
      · rw [if_pos hgone]
        refine made_iff (by omega) ?_
        rw [amountOf_eq_zero rfl]
        omega
      · rw [if_neg hgone]
        cases hquantity : (Bounded.ofInt? sum.val : Option Quantity) with
        | none =>
          have hout := Bounded.ofInt?_eq_none_iff.1 hquantity
          exact refused_iff (by omega)
        | some quantity =>
          have hquantity : quantity.val = sum.val := Bounded.ofInt?_eq_some_iff.1 hquantity
          have hfits := quantity.le_hi
          have hnew : (⟨d.product, quantity⟩ : LineItem).product = d.product := rfl
          refine made_iff (by omega) ?_
          rw [amountOf_singleton hnew]
          show quantity.val = _
          omega

/-- A change adds to what there is of its product, if the sum fits 32 bits; less than nothing is
nothing. -/
theorem changed_linesOf (hi : Regular items) (d : Delta) :
    ((∃ lines, changed d (linesOf d.product items) = .ok lines) ↔
        amountOf d.product items + d.amount.val ≤ 2147483647) ∧
      ∀ lines, changed d (linesOf d.product items) = .ok lines →
        amountOf d.product lines = max 0 (amountOf d.product items + d.amount.val) := by
  rcases hi.linesOf_eq d.product with hnone | ⟨item, hone, hproduct, hpos⟩
  · rw [hnone, amountOf_eq_zero hnone, Int.zero_add]
    exact changed_nil d
  · rw [hone, ← amountOf_linesOf d.product items, hone, amountOf_singleton hproduct]
    exact changed_singleton hproduct hpos

/-- **When changes of regular lines can be made**: no product comes to more than 32 bits hold. -/
theorem exists_revise_iff_of_regular (hi : Regular items) (hd : (deltas.map (·.product)).Nodup) :
    (∃ r, revise items deltas = .ok r) ↔
      ∀ d ∈ deltas, amountOf d.product items + d.amount.val ≤ 2147483647 := by
  rw [exists_revise_iff hd]
  exact forall₂_congr fun d _ => (changed_linesOf hi d).1

/-- **What changes of regular lines come to.** -/
theorem amountOf_revise (hi : Regular items) (hd : (deltas.map (·.product)).Nodup)
    (h : revise items deltas = .ok r) (p : ProductId) :
    amountOf p r.items = max 0 (amountOf p items + Delta.amountOf p deltas) := by
  obtain ⟨hchanged, hsame⟩ := linesOf_revise hd h
  by_cases hp : p ∈ deltas.map (·.product)
  · obtain ⟨d, hmem, rfl⟩ := List.mem_map.1 hp
    rw [← amountOf_linesOf, (changed_linesOf hi d).2 _ (hchanged d hmem),
      Delta.amountOf_of_mem hd hmem]
  · have hnonneg := hi.amountOf_nonneg p
    rw [← amountOf_linesOf, hsame p hp, amountOf_linesOf, Delta.amountOf_eq_zero hp, Int.add_zero]
    omega

/-! ## The order of the lines -/

/-- A part of a list without repetitions is what its members leave of the list. -/
theorem filter_mem_of_sublist {ids kept : List ProductId} (hd : ids.Nodup)
    (h : kept.Sublist ids) : ids.filter (· ∈ kept) = kept := by
  induction h with
  | slnil => rfl
  | @cons kept ids id h ih =>
    obtain ⟨hid, hd⟩ := List.nodup_cons.1 hd
    rw [List.filter_cons_of_neg (by simpa using fun hmem => hid (h.subset hmem)), ih hd]
  | @cons_cons kept ids id h ih =>
    obtain ⟨hid, hd⟩ := List.nodup_cons.1 hd
    rw [List.filter_cons_of_pos (by simp)]
    refine congrArg (id :: ·) ((List.filter_congr fun other hmem => ?_).trans (ih hd))
    have hne : other ≠ id := fun heq => hid (heq ▸ hmem)
    simp [hne]

theorem amountOf_foldlM_of_not_mem (hd : (deltas.map (·.product)).Nodup)
    (h : deltas.foldlM reviseStep r = .ok r') (hp : p ∉ deltas.map (·.product)) :
    amountOf p r'.items = amountOf p r.items := by
  rw [← amountOf_linesOf, (linesOf_foldlM_reviseStep hd h).2 p hp, amountOf_linesOf]

/-- One change takes lines away, or adds one at the end. -/
theorem map_product_reviseStep (hr : Regular r.items) (h : reviseStep r d = .ok r') :
    r'.items.map (·.product) =
      (r.items.map (·.product)).filter (fun p => 0 < amountOf p r'.items) ++
        if 0 < d.amount.val ∧ linesOf d.product r.items = [] then [d.product] else [] := by
  have hr' : Regular r'.items := regular_reviseStep hr h
  simp only [hr'.amountOf_pos_iff]
  have hstays : ∀ p ∈ r.items.map (·.product), p ≠ d.product → p ∈ r'.items.map (·.product) := by
    intro p hp hne
    rw [← hr'.amountOf_pos_iff, ← amountOf_linesOf, linesOf_reviseStep_of_ne h hne,
      amountOf_linesOf, hr.amountOf_pos_iff]
    exact hp
  by_cases hnew : 0 < d.amount.val ∧ linesOf d.product r.items = []
  · rw [if_pos hnew]
    have hnot : d.product ∉ r.items.map (·.product) := linesOf_eq_nil_iff.1 hnew.2
    have hall : ∀ p ∈ r.items.map (·.product), p ∈ r'.items.map (·.product) :=
      fun p hp => hstays p hp fun heq => hnot (heq ▸ hp)
    rw [List.filter_eq_self.2 fun p hp => decide_eq_true (hall p hp)]
    have hold : ¬ r.items.any (·.product = d.product) = true := fun h => any_product_iff.1 h hnew.2
    rw [reviseStep, if_neg (by omega), if_neg hold, if_pos hnew.1, Fallible.bind_eq_ok_iff] at h
    obtain ⟨item, hitem, h⟩ := h
    cases h
    rw [List.map_append, List.map_singleton, (Delta.toItem_eq_ok hitem).1]
  · rw [if_neg hnew, List.append_nil]
    refine (filter_mem_of_sublist hr.distinct ?_).symm
    unfold reviseStep at h
    split at h
    · cases h
      exact .refl _
    · split at h
      · rw [Fallible.bind_eq_ok_iff] at h
        obtain ⟨items, hitems, h⟩ := h
        cases h
        exact (adjust_eq_ok hitems).1
      · next hold =>
        split at h
        · next hpos =>
          rw [any_product_iff, not_not] at hold
          exact absurd ⟨hpos, hold⟩ hnew
        · cases h
          exact .refl _

/-- The lines after changes: what is left of the old ones, in its order, and behind it the new
products in the order of the changes. -/
theorem map_product_foldlM (hr : Regular r.items) (hd : (deltas.map (·.product)).Nodup)
    (h : deltas.foldlM reviseStep r = .ok r') :
    r'.items.map (·.product) =
      (r.items.map (·.product)).filter (fun p => 0 < amountOf p r'.items) ++
        (deltas.filter fun d =>
          0 < d.amount.val ∧ linesOf d.product r.items = []).map (·.product) := by
  induction deltas generalizing r with
  | nil =>
    cases h
    rw [List.filter_nil, List.map_nil, List.append_nil]
    exact (List.filter_eq_self.2 fun p hp => decide_eq_true (hr.amountOf_pos_iff.2 hp)).symm
  | cons d deltas ih =>
    rw [List.map_cons, List.nodup_cons] at hd
    rw [List.foldlM_cons, Fallible.bind_eq_ok_iff] at h
    obtain ⟨next, hstep, hrest⟩ := h
    have hnext : Regular next.items := regular_reviseStep hr hstep
    have hproducts := map_product_reviseStep hr hstep
    -- the rest of the changes is not about the product of this one
    have hlast : amountOf d.product r'.items = amountOf d.product next.items :=
      amountOf_foldlM_of_not_mem hd.2 hrest hd.1
    have hother : (deltas.filter fun d => 0 < d.amount.val ∧ linesOf d.product next.items = []) =
        deltas.filter fun d => 0 < d.amount.val ∧ linesOf d.product r.items = [] := by
      refine List.filter_congr fun d' hd' => ?_
      have hne : d'.product ≠ d.product := fun heq => hd.1 (heq ▸ List.mem_map_of_mem hd')
      rw [linesOf_reviseStep_of_ne hstep hne]
    have hold : ((r.items.map (·.product)).filter (fun p => 0 < amountOf p next.items)).filter
          (fun p => 0 < amountOf p r'.items) =
        (r.items.map (·.product)).filter (fun p => 0 < amountOf p r'.items) := by
      rw [List.filter_filter]
      refine List.filter_congr fun p hp => ?_
      by_cases heq : p = d.product
      · rw [heq, hlast, Bool.and_self]
      · have hpos := hr.amountOf_pos_iff.2 hp
        rw [← amountOf_linesOf, ← linesOf_reviseStep_of_ne hstep heq, amountOf_linesOf] at hpos
        rw [decide_eq_true hpos, Bool.and_true]
    rw [ih hnext hd.2 hrest, hother, hproducts, List.filter_append, hold, List.append_assoc,
      List.filter_cons]
    by_cases hnew : 0 < d.amount.val ∧ linesOf d.product r.items = []
    · rw [if_pos hnew] at hproducts
      have hmem : d.product ∈ next.items.map (·.product) := by
        rw [hproducts]
        exact List.mem_append_right _ (List.mem_singleton_self _)
      have hstays : [d.product].filter (fun p => 0 < amountOf p r'.items) = [d.product] := by
        refine List.filter_eq_self.2 fun p hp => ?_
        rw [List.mem_singleton.1 hp, hlast]
        exact decide_eq_true (hnext.amountOf_pos_iff.2 hmem)
      rw [if_pos hnew, if_pos (decide_eq_true hnew), hstays]
      rfl
    · rw [if_neg hnew, if_neg (by simpa using hnew)]
      rfl

/-- **The order of the lines after changes**: what is left of the old ones comes first, in its
order, and behind it the new products in the order of the changes. -/
theorem map_product_revise (hi : Regular items) (hd : (deltas.map (·.product)).Nodup)
    (h : revise items deltas = .ok r) :
    r.items.map (·.product) =
      (items.map (·.product)).filter (fun p => 0 < amountOf p r.items) ++ r.added := by
  rw [added_revise hd h]
  exact map_product_foldlM (r := ⟨items, []⟩) hi hd h

end OrderDesk.LineItem
