import OrderDesk.Proofs.Fallible
import OrderDesk.Store.Accounts

/-!
# What the operations on accounts do

Registering a user opens an account without points and without orders; a command on a balance
changes the user of one account and leaves its orders alone; noting an order changes the orders of
one account and leaves its user alone.

* `notedOrders?_of_register` and others — what each operation does to the orders that are noted.
* `balance_of_award` and others — what each operation does to the balances.
* `exists_redeem_iff` — points can be redeemed when they are at least one and at most the balance.
-/

namespace OrderDesk

namespace User

theorem register_eq_ok {id : UserId} {now : Timestamp} {r : Registration} {u : User}
    (h : register id now r = .ok u) : u.id = id ∧ u.points = .zero := by
  simp only [register, Fallible.bind_eq_ok_iff, Fallible.pure_eq_ok_iff] at h
  obtain ⟨_, _, _, _, _, _, _, _, username, _, email, _, rfl⟩ := h
  exact ⟨rfl, rfl⟩

theorem amount?_eq_some_iff {points : Signed64} {amount : Unsigned64} :
    amount? points = some amount ↔ 1 ≤ points.val ∧ amount.val = points.val := by
  unfold amount?
  by_cases h : points.val < 1
  · simp only [if_pos h]
    constructor
    · intro hnone
      cases hnone
    · intro hle
      omega
  · rw [if_neg h, Bounded.ofInt?_eq_some_iff]
    exact ⟨fun hval => ⟨by omega, hval⟩, fun hval => hval.2⟩

theorem exists_amount? {points : Signed64} (h : 1 ≤ points.val) :
    ∃ amount, amount? points = some amount ∧ amount.val = points.val := by
  have hle := points.le_hi
  refine ⟨⟨points.val, by omega, by omega⟩, ?_, rfl⟩
  exact amount?_eq_some_iff.2 ⟨h, rfl⟩

/-- Points can be redeemed just when they are at least one and at most the balance. -/
theorem decide_redeem_eq_ok_iff {u : User} {points : Signed64} {e : UserEvent} :
    u.decide (.redeem points) = .ok e ↔ ∃ amount balance, amount? points = some amount ∧
      u.points.sub? amount = some balance ∧ e = .redeemed amount balance := by
  simp only [decide]
  cases amount? points with
  | none => simp
  | some amount =>
    cases hsub : u.points.sub? amount with
    | none => simp [hsub]
    | some balance =>
      simp only [hsub, Except.ok.injEq, Option.some.injEq]
      constructor
      · rintro rfl
        exact ⟨amount, balance, rfl, hsub, rfl⟩
      · rintro ⟨_, _, rfl, hbalance, rfl⟩
        cases hsub.symm.trans hbalance
        rfl

theorem exists_decide_redeem_iff {u : User} {points : Signed64} :
    (∃ e, u.decide (.redeem points) = .ok e) ↔ 1 ≤ points.val ∧ points.val ≤ u.points.val := by
  constructor
  · rintro ⟨e, h⟩
    obtain ⟨amount, balance, hamount, hsub, -⟩ := decide_redeem_eq_ok_iff.1 h
    obtain ⟨hle, hval⟩ := amount?_eq_some_iff.1 hamount
    have hbalance := balance.lo_le
    rw [Unsigned64.sub?_eq_some_iff] at hsub
    omega
  · rintro ⟨hle, hbalance⟩
    obtain ⟨amount, hamount, hval⟩ := exists_amount? hle
    cases hsub : u.points.sub? amount with
    | none =>
      rw [Unsigned64.sub?_eq_none_iff] at hsub
      omega
    | some balance => exact ⟨_, decide_redeem_eq_ok_iff.2 ⟨amount, balance, hamount, hsub, rfl⟩⟩

end User

namespace Accounts

variable {s s' : Accounts} {id other : UserId} {now : Timestamp}

theorem register_eq_ok {r : Registration} {user : User}
    (h : s.register id now r = .ok (user, s')) :
    s' = s.insert id ⟨user, []⟩ ∧ user.points = .zero := by
  rw [register, Fallible.bind_eq_ok_iff] at h
  obtain ⟨u, hu, h⟩ := h
  split at h
  · cases h
  · split at h
    · cases h
    · cases h
      exact ⟨rfl, (User.register_eq_ok hu).2⟩

theorem execute_eq_ok {c : UserCommand} {balance : Unsigned64}
    (h : s.execute id now c = .ok (balance, s')) :
    ∃ account event, s.get? id = some account ∧ account.user.decide c = .ok event ∧
      balance = event.balance ∧
      s' = s.insert id { account with user := account.user.apply now event } := by
  unfold execute at h
  split at h
  · cases h
  · next account haccount =>
    rw [Fallible.bind_eq_ok_iff] at h
    obtain ⟨⟨user, event⟩, hexec, h⟩ := h
    rw [User.execute, Fallible.bind_eq_ok_iff] at hexec
    obtain ⟨e, he, hexec⟩ := hexec
    cases hexec
    cases h
    exact ⟨account, event, haccount, he, rfl, rfl⟩

theorem execute_of_decide {c : UserCommand} {account : Account} {event : UserEvent}
    (haccount : s.get? id = some account) (hevent : account.user.decide c = .ok event) :
    s.execute id now c = .ok (event.balance,
      s.insert id { account with user := account.user.apply now event }) := by
  simp only [execute, haccount, User.execute, hevent, bind, Except.bind, pure, Except.pure]

theorem user?_of_execute {c : UserCommand} {r : Unsigned64 × Accounts}
    (h : s.execute id now c = .ok r) (hne : id ≠ other) : user? r.2 other = s.user? other := by
  obtain ⟨account, event, -, -, -, hinsert⟩ := execute_eq_ok h
  rw [user?, hinsert, Table.get?_insert, if_neg hne]
  rfl

theorem noteOrder?_eq_some {order : OrderId} (h : s.noteOrder? id order = some s') :
    ∃ account, s.get? id = some account ∧
      s' = s.insert id { account with orders := account.orders ++ [order] } := by
  unfold noteOrder? at h
  split at h
  · next account haccount =>
    cases h
    exact ⟨account, haccount, rfl⟩
  · cases h

theorem noteOrder?_eq_none {order : OrderId} (h : s.get? id = none) :
    s.noteOrder? id order = none := by
  rw [noteOrder?, h]

/-! ## The orders that are noted -/

theorem notedOrders?_eq_some_iff {ids : List OrderId} :
    s.notedOrders? id = some ids ↔ ∃ account, s.get? id = some account ∧ account.orders = ids :=
  Option.map_eq_some_iff

theorem notedOrders?_eq_none_iff : s.notedOrders? id = none ↔ s.get? id = none :=
  Option.map_eq_none_iff

theorem notedOrders?_insert (s : Accounts) (id other : UserId) (a : Account) :
    notedOrders? (s.insert id a) other =
      if id = other then some a.orders else s.notedOrders? other := by
  rw [notedOrders?, Table.get?_insert]
  split
  · rfl
  · rfl

theorem notedOrders?_of_register {r : Registration} {user : User}
    (h : s.register id now r = .ok (user, s')) (other : UserId) :
    s'.notedOrders? other = if id = other then some [] else s.notedOrders? other := by
  rw [(register_eq_ok h).1, notedOrders?_insert]

theorem notedOrders?_of_execute {c : UserCommand} {balance : Unsigned64}
    (h : s.execute id now c = .ok (balance, s')) (other : UserId) :
    s'.notedOrders? other = s.notedOrders? other := by
  obtain ⟨account, event, haccount, -, -, rfl⟩ := execute_eq_ok h
  rw [notedOrders?_insert]
  split
  · next heq =>
    subst heq
    exact (notedOrders?_eq_some_iff.2 ⟨account, haccount, rfl⟩).symm
  · rfl

theorem notedOrders?_erase (s : Accounts) (id other : UserId) :
    notedOrders? (s.erase id) other = if id = other then none else s.notedOrders? other := by
  rw [notedOrders?, Table.get?_erase]
  split
  · rfl
  · rfl

theorem notedOrders?_of_noteOrder? {order : OrderId} (h : s.noteOrder? id order = some s')
    (other : UserId) :
    s'.notedOrders? other =
      (s.notedOrders? other).map fun ids => if id = other then ids ++ [order] else ids := by
  obtain ⟨account, haccount, rfl⟩ := noteOrder?_eq_some h
  rw [notedOrders?_insert]
  by_cases heq : id = other
  · subst heq
    rw [if_pos rfl, notedOrders?, haccount]
    simp
  · simp [heq]

/-! ## Balances -/

/-- The points of a user; who is not there has none. -/
def balance (s : Accounts) (id : UserId) : Unsigned64 := ((s.user? id).map (·.points)).getD .zero

theorem balance_of_get? {account : Account} (h : s.get? id = some account) :
    s.balance id = account.user.points := by
  rw [balance, user?, h]
  rfl

theorem balance_of_none (h : s.get? id = none) : s.balance id = .zero := by
  rw [balance, user?, h]
  rfl

theorem balance_insert (s : Accounts) (id other : UserId) (a : Account) :
    balance (s.insert id a) other = if id = other then a.user.points else s.balance other := by
  rw [balance, user?, Table.get?_insert]
  split
  · rfl
  · rfl

theorem balance_erase (s : Accounts) {id other : UserId} (h : id ≠ other) :
    balance (s.erase id) other = s.balance other := by
  rw [balance, user?, Table.get?_erase, if_neg h]
  rfl

theorem balance_of_register {r : Registration} {user : User}
    (h : s.register id now r = .ok (user, s')) (other : UserId) :
    s'.balance other = if id = other then .zero else s.balance other := by
  obtain ⟨rfl, hzero⟩ := register_eq_ok h
  rw [balance_insert, hzero]

theorem balance_of_execute {c : UserCommand} {points : Unsigned64}
    (h : s.execute id now c = .ok (points, s')) (other : UserId) :
    s'.balance other = if id = other then points else s.balance other := by
  obtain ⟨account, event, -, -, rfl, rfl⟩ := execute_eq_ok h
  rw [balance_insert]
  rfl

theorem balance_of_award {points total : Unsigned64} (h : s.award id now points = .ok (total, s'))
    (other : UserId) :
    s'.balance other =
      if id = other then (s.balance other).addSaturating points else s.balance other := by
  rw [balance_of_execute h]
  split
  · next heq =>
    subst heq
    obtain ⟨account, event, haccount, hevent, rfl, -⟩ := execute_eq_ok h
    cases hevent
    rw [balance_of_get? haccount]
    rfl
  · rfl

theorem balance_of_redeem {points : Signed64} {rest : Unsigned64}
    (h : s.redeem id now points = .ok (rest, s')) :
    (s'.balance id).val = (s.balance id).val - points.val := by
  obtain ⟨account, event, haccount, hevent, rfl, -⟩ := execute_eq_ok h
  obtain ⟨amount, left, hamount, hsub, rfl⟩ := User.decide_redeem_eq_ok_iff.1 hevent
  rw [balance_of_execute h, if_pos rfl, balance_of_get? haccount,
    ← (User.amount?_eq_some_iff.1 hamount).2]
  exact Unsigned64.sub?_eq_some_iff.1 hsub

theorem balance_of_noteOrder? {order : OrderId} (h : s.noteOrder? id order = some s')
    (other : UserId) : s'.balance other = s.balance other := by
  obtain ⟨account, haccount, rfl⟩ := noteOrder?_eq_some h
  rw [balance_insert]
  split
  · next heq =>
    subst heq
    exact (balance_of_get? haccount).symm
  · rfl

/-- A user can redeem just what is at least one and at most the balance. -/
theorem exists_redeem_iff {account : Account} (haccount : s.get? id = some account)
    (now : Timestamp) (points : Signed64) :
    (∃ r, s.redeem id now points = .ok r) ↔
      1 ≤ points.val ∧ points.val ≤ account.user.points.val := by
  rw [← User.exists_decide_redeem_iff]
  constructor
  · rintro ⟨⟨rest, s'⟩, h⟩
    obtain ⟨account', event, haccount', hevent, -⟩ := execute_eq_ok h
    cases haccount.symm.trans haccount'
    exact ⟨event, hevent⟩
  · rintro ⟨event, hevent⟩
    exact ⟨_, execute_of_decide haccount hevent⟩

end Accounts

end OrderDesk
