import Mathlib.Algebra.BigOperators.Group.List.Basic
import Mathlib.Algebra.Ring.Int.Defs
import OrderDesk.Proofs.Store.Keys
import OrderDesk.User.Basic

/-!
# Postings

Three things move a balance: an order of the user is submitted, points are awarded to the user, and
the user redeems points.  A `Posting` is one of them, with its amount, and `Posting.post?` carries
it out: a credit stops at the largest balance, and more than the balance cannot be taken off.

* `val_add_debits` — as long as no credit stops at the largest balance (`InFull`), a balance is the
  sum of all credits without what was taken off.
* `OrderBook.submissions` — the orders of a user that were submitted between two states of the book;
  together with those that had been submitted before they are those that are in processing
  (`processed_put`).
-/

namespace OrderDesk

/-- What moves a balance. -/
inductive Posting where
  /-- An order was submitted, and earned what it has accrued. -/
  | earned (o : Order)
  | awarded (points : Unsigned64)
  | redeemed (points : Signed64)

namespace Posting

/-- The balance after a posting. -/
def post? (balance : Unsigned64) : Posting → Option Unsigned64
  | .earned o => some (balance.addSaturating o.accrued)
  | .awarded points => some (balance.addSaturating points)
  | .redeemed points => Bounded.ofInt? (balance.val - points.val)

/-- The order that was submitted. -/
def order? : Posting → Option Order
  | .earned o => some o
  | .awarded _ => none
  | .redeemed _ => none

/-- What was awarded. -/
def award : Posting → Int
  | .earned _ => 0
  | .awarded points => points.val
  | .redeemed _ => 0

/-- What is put on the balance. -/
def credit : Posting → Int
  | .earned o => o.accrued.val
  | .awarded points => points.val
  | .redeemed _ => 0

/-- What is taken off the balance. -/
def debit : Posting → Int
  | .earned _ => 0
  | .awarded _ => 0
  | .redeemed points => points.val

/-- No credit stops at the largest balance. -/
def InFull (balance : Unsigned64) : List Posting → Prop
  | [] => True
  | p :: ps => balance.val + p.credit ≤ Unsigned64.max.val ∧
      ∀ next ∈ p.post? balance, InFull next ps

instance decidableInFull : (balance : Unsigned64) → (ps : List Posting) →
    Decidable (InFull balance ps)
  | _, [] => inferInstanceAs (Decidable True)
  | balance, p :: ps =>
    have : ∀ next, Decidable (InFull next ps) := fun next => decidableInFull next ps
    inferInstanceAs (Decidable (_ ∧ ∀ next ∈ p.post? balance, InFull next ps))

variable {p : Posting} {ps : List Posting} {balance next : Unsigned64}

/-- A credit that is put on in full, or an amount that is taken off. -/
theorem val_of_post? (h : p.post? balance = some next)
    (hfull : balance.val + p.credit ≤ Unsigned64.max.val) :
    next.val + p.debit = balance.val + p.credit := by
  cases p with
  | earned o =>
    cases h
    rw [Unsigned64.addSaturating_val]
    simp only [credit, debit] at hfull ⊢
    omega
  | awarded points =>
    cases h
    rw [Unsigned64.addSaturating_val]
    simp only [credit, debit] at hfull ⊢
    omega
  | redeemed points =>
    have hnext : next.val = balance.val - points.val := Bounded.ofInt?_eq_some_iff.1 h
    simp only [credit, debit]
    omega

/-- Postings that are put on in full add up. -/
theorem val_add_debits (h : ps.foldlM post? balance = some next)
    (hfull : InFull balance ps) :
    next.val + (ps.map debit).sum = balance.val + (ps.map credit).sum := by
  induction ps generalizing balance with
  | nil =>
    cases h
    rfl
  | cons p ps ih =>
    rw [List.foldlM_cons] at h
    obtain ⟨middle, hpost, hrest⟩ := Option.bind_eq_some_iff.1 h
    have hfirst : middle.val + p.debit = balance.val + p.credit := val_of_post? hpost hfull.1
    have hothers := ih hrest (hfull.2 middle hpost)
    rw [List.map_cons, List.sum_cons, List.map_cons, List.sum_cons]
    omega

/-- What is put on a balance is earned by orders, or awarded. -/
theorem sum_credit (ps : List Posting) :
    (ps.map credit).sum =
      ((ps.filterMap order?).map (·.accrued.val)).sum + (ps.map award).sum := by
  induction ps with
  | nil => rfl
  | cons p ps ih =>
    cases p with
    | earned o =>
      rw [List.filterMap_cons_some (by rfl)]
      simp only [List.map_cons, List.sum_cons, credit, award, ih]
      omega
    | awarded points =>
      rw [List.filterMap_cons_none (by rfl)]
      simp only [List.map_cons, List.sum_cons, credit, award, ih]
      omega
    | redeemed points =>
      rw [List.filterMap_cons_none (by rfl)]
      simp only [List.map_cons, List.sum_cons, credit, award, ih]
      omega

end Posting

/-! ## Orders that are submitted -/

namespace OrderBook

/-- An order that is submitted, if it is one of the user. -/
def submitted? (u : UserId) (o o' : Order) : Option Order :=
  if o.status = .pending ∧ o'.status = .processing ∧ o'.owner = some u then some o' else none

/-- The orders of a user that are submitted between two states of the book. -/
def submissions (u : UserId) (before after : OrderBook) : List Order :=
  (before.orders.zip after.orders).filterMap fun p => submitted? u p.1 p.2

/-- The orders of a user that are in processing. -/
def processed (u : UserId) (b : OrderBook) : List Order :=
  b.orders.filter fun o => o.owner = some u ∧ o.status = .processing

variable {b : OrderBook} {slot : Nat} {o o' : Order} {u : UserId}

theorem submitted?_self (u : UserId) (o : Order) : submitted? u o o = none := by
  refine if_neg ?_
  rintro ⟨hpending, hprocessing, -⟩
  cases hpending.symm.trans hprocessing

theorem submissions_mk_self (u : UserId) (orders : List Order) :
    submissions u ⟨orders⟩ ⟨orders⟩ = [] := by
  induction orders with
  | nil => rfl
  | cons o rest ih =>
    rw [submissions, List.zip_cons_cons, List.filterMap_cons, submitted?_self]
    exact ih

/-- Where nothing changes nothing is submitted. -/
theorem submissions_self (u : UserId) (b : OrderBook) : submissions u b b = [] :=
  submissions_mk_self u b.orders

theorem submissions_insert (u : UserId) (b : OrderBook) (o : Order) :
    submissions u b (b.insert o) = [] := by
  have hzip : (b.orders ++ []).zip (b.orders ++ [o]) = b.orders.zip b.orders ++ [].zip [o] :=
    List.zip_append rfl
  rw [List.append_nil, List.zip_nil_left, List.append_nil] at hzip
  unfold submissions insert
  rw [hzip]
  exact submissions_self u b

theorem exists_put_eq (h : b.atSlot? slot = some o) (o' : Order) :
    ∃ front back, b.orders = front ++ o :: back ∧ (b.put slot o').orders = front ++ o' :: back := by
  obtain ⟨hlt, rfl⟩ := List.getElem?_eq_some_iff.1 h
  refine ⟨b.orders.take slot, b.orders.drop (slot + 1), ?_, ?_⟩
  · rw [← List.drop_eq_getElem_cons hlt, List.take_append_drop]
  · rw [put, List.set_eq_take_append_cons_drop, if_pos hlt]

/-- Putting an order in the place of a pending one submits it, or submits nothing. -/
theorem submissions_put (h : b.atSlot? slot = some o) (hp : o.status = .pending) :
    submissions u b (b.put slot o') =
      if o'.status = .processing ∧ o'.owner = some u then [o'] else [] := by
  obtain ⟨front, back, horders, hput⟩ := exists_put_eq h o'
  have hfront : (front.zip front).filterMap (fun p => submitted? u p.1 p.2) = [] :=
    submissions_mk_self u front
  have hback : (back.zip back).filterMap (fun p => submitted? u p.1 p.2) = [] :=
    submissions_mk_self u back
  rw [submissions, hput, horders, List.zip_append rfl, List.filterMap_append, hfront,
    List.zip_cons_cons, List.filterMap_cons, hback, List.nil_append]
  dsimp only [submitted?]
  by_cases ho' : o'.status = .processing ∧ o'.owner = some u
  · rw [if_pos ⟨hp, ho'⟩, if_pos ho']
  · rw [if_neg fun h => ho' h.2, if_neg ho']

theorem processed_insert (hp : o.status = .pending) :
    (b.insert o).processed u = b.processed u := by
  simp [processed, insert, hp]

/-- What is in processing was so before, or has been submitted. -/
theorem processed_put (h : b.atSlot? slot = some o) (hp : o.status = .pending) :
    ((b.put slot o').processed u).Perm (b.processed u ++ submissions u b (b.put slot o')) := by
  obtain ⟨front, back, horders, hput⟩ := exists_put_eq h o'
  rw [submissions_put h hp]
  unfold processed
  rw [hput, horders, List.filter_append, List.filter_append, List.filter_cons, List.filter_cons]
  by_cases ho' : o'.status = .processing ∧ o'.owner = some u
  · simp only [hp, ho', if_true, and_self, decide_true, reduceCtorEq, and_false, decide_false,
      Bool.false_eq_true, if_false]
    rw [List.append_assoc]
    exact (List.perm_append_singleton ..).symm.append_left _
  · rw [if_neg ho']
    simp [hp, ho', and_comm]

end OrderBook

end OrderDesk
