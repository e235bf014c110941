import OrderDesk.Proofs.Store.Accounts

/-!
# Credits in any order

A credit changes one account in its place: the balance goes up and stops at the largest one, and the
user is stamped with the time.  In which order credits come makes a difference to these stamps only.
`Accounts.timeless` blanks them.

* `Accounts.award_of_get?` — points are credited to whoever has an account.
* `Accounts.timeless_credit` — but for the stamps, a credit raises a balance.
* `Accounts.raise_comm` — balances can be raised in any order, whether they are of two users or of
  one, and even if one of them stops at the largest balance.
-/

namespace OrderDesk

/-- Two additions that stop at the largest number can change places. -/
theorem Unsigned64.addSaturating_right_comm (a b c : Unsigned64) :
    (a.addSaturating b).addSaturating c = (a.addSaturating c).addSaturating b := by
  refine Bounded.ext ?_
  have hb := b.lo_le
  have hc := c.lo_le
  simp only [addSaturating_val]
  omega

/-! ## Values changed in their places -/

namespace Table

variable {α β : Type} {f g : α → α} {id other : Uuid}

/-- Changes the first value with an identifier. -/
def amendEntry (id : Uuid) (f : α → α) : List (Uuid × α) → List (Uuid × α)
  | [] => []
  | (k, a) :: rest => if k = id then (k, f a) :: rest else (k, a) :: amendEntry id f rest

/-- The table with the value of an identifier changed, if there is one. -/
def amend (t : Table α) (id : Uuid) (f : α → α) : Table α := ⟨amendEntry id f t.entries⟩

/-- The table with every value changed. -/
def map (f : α → β) (t : Table α) : Table β := ⟨t.entries.map fun e => (e.1, f e.2)⟩

theorem get?_amend (t : Table α) (id other : Uuid) (f : α → α) :
    (t.amend id f).get? other = if id = other then (t.get? id).map f else t.get? other := by
  obtain ⟨entries⟩ := t
  unfold amend get?
  induction entries with
  | nil => simp [amendEntry, find?]
  | cons e rest ih =>
    obtain ⟨k, a⟩ := e
    by_cases hk : k = id
    · subst hk
      by_cases h : k = other <;> simp [amendEntry, find?, h]
    · by_cases h : k = other
      · subst h
        simp [amendEntry, find?, hk, Ne.symm hk]
      · simp [amendEntry, find?, hk, h, ih]

/-- Who is in the table stays in it, and nobody comes to it. -/
theorem get?_amend_eq_none_iff (t : Table α) (id other : Uuid) (f : α → α) :
    (t.amend id f).get? other = none ↔ t.get? other = none := by
  rw [get?_amend]
  split
  · next h => rw [h, Option.map_eq_none_iff]
  · rfl

theorem insert_eq_amend {t : Table α} {a : α} (h : t.get? id = some a) :
    t.insert id (f a) = t.amend id f := by
  obtain ⟨entries⟩ := t
  unfold insert amend
  refine congrArg mk ?_
  unfold get? at h
  induction entries with
  | nil => cases h
  | cons e rest ih =>
    obtain ⟨k, b⟩ := e
    rw [find?] at h
    rw [insertEntry, amendEntry]
    split at h
    · next hk =>
      cases h
      rw [if_pos hk, if_pos hk]
    · next hk => rw [if_neg hk, if_neg hk, ih h]

/-- Two changes can change places if they are of two values, or if they commute. -/
theorem amend_comm (t : Table α) (h : id = other → ∀ a, f (g a) = g (f a)) :
    (t.amend id f).amend other g = (t.amend other g).amend id f := by
  obtain ⟨entries⟩ := t
  unfold amend
  refine congrArg mk ?_
  induction entries with
  | nil => rfl
  | cons e rest ih =>
    obtain ⟨k, a⟩ := e
    by_cases hid : k = id
    · by_cases hother : k = other
      · simp [amendEntry, hid, hid ▸ hother, h (hid ▸ hother)]
      · simp [amendEntry, hid, hid ▸ hother]
    · by_cases hother : k = other
      · simp [amendEntry, hother, hother ▸ hid]
      · simp [amendEntry, hid, hother, ih]

theorem map_amend {f : α → α} {g : β → β} {m : α → β} (h : ∀ a, m (f a) = g (m a)) (t : Table α)
    (id : Uuid) : (t.amend id f).map m = (t.map m).amend id g := by
  obtain ⟨entries⟩ := t
  unfold amend map
  refine congrArg mk ?_
  induction entries with
  | nil => rfl
  | cons e rest ih =>
    obtain ⟨k, a⟩ := e
    by_cases hk : k = id
    · simp [amendEntry, hk, h]
    · simp [amendEntry, hk, ih]

end Table

/-! ## Accounts -/

namespace Account

/-- The account after points have been credited. -/
def credited (now : Timestamp) (points : Unsigned64) (a : Account) : Account :=
  { a with user := a.user.apply now (.awarded points (a.user.points.addSaturating points)) }

/-- The account as if its user had not changed since registering. -/
def timeless (a : Account) : Account :=
  { a with user := { a.user with updatedAt := a.user.createdAt } }

/-- The account with a higher balance. -/
def raised (points : Unsigned64) (a : Account) : Account :=
  { a with user := { a.user with points := a.user.points.addSaturating points } }

theorem raised_comm (p q : Unsigned64) (a : Account) :
    raised p (raised q a) = raised q (raised p a) := by
  simp only [raised, Unsigned64.addSaturating_right_comm]

end Account

namespace Accounts

variable {s s' : Accounts} {id : UserId} {now : Timestamp} {points balance : Unsigned64}

/-- The accounts after points have been credited to a user, if there is such a user. -/
def credit (s : Accounts) (id : UserId) (now : Timestamp) (points : Unsigned64) : Accounts :=
  s.amend id (Account.credited now points)

/-- The accounts as if no user had changed since registering. -/
def timeless (s : Accounts) : Accounts := s.map Account.timeless

/-- The accounts with a higher balance of a user, if there is such a user. -/
def raise (s : Accounts) (id : UserId) (points : Unsigned64) : Accounts :=
  s.amend id (Account.raised points)

/-- Points are credited to whoever has an account. -/
theorem award_of_get? {account : Account} (h : s.get? id = some account) (now : Timestamp)
    (points : Unsigned64) :
    ∃ balance, s.award id now points = .ok (balance, s.credit id now points) := by
  have hcredit : s.insert id (account.credited now points) = s.credit id now points :=
    Table.insert_eq_amend h
  rw [award, execute_of_decide h rfl, ← hcredit]
  exact ⟨_, rfl⟩

theorem award_of_none (h : s.get? id = none) : s.award id now points = .error (.notFound id) := by
  rw [award, execute, h]

theorem timeless_credit (s : Accounts) (id : UserId) (now : Timestamp) (points : Unsigned64) :
    (s.credit id now points).timeless = s.timeless.raise id points :=
  Table.map_amend (m := Account.timeless) (g := Account.raised points) (fun _ => rfl) s id

/-- Two balances, or one balance twice, can be raised in any order. -/
theorem raise_comm (s : Accounts) (u v : UserId) (p q : Unsigned64) :
    (s.raise u p).raise v q = (s.raise v q).raise u p :=
  Table.amend_comm s fun _ a => Account.raised_comm p q a

end Accounts

end OrderDesk
