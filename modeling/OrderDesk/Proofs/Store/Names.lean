import Mathlib.Data.List.Nodup
import OrderDesk.Proofs.Store.Accounts
import OrderDesk.Proofs.User.Names

/-!
# Whose name it is

A registration is turned down for the first of several reasons (`Registration.objections`) that
applies (`Accounts.Objects`): a field is missing, the name or the address has not the right form, or
somebody else has it (`register_eq_error_iff`).  If no reason applies it succeeds
(`exists_register_iff`).

So no two users ever have the same name or the same address (`Accounts.Unmistakable`): users who
register get a name that nobody has, and no other operation on accounts changes a name.
-/

namespace OrderDesk

/-! ## Reasons to turn down a registration -/

namespace Registration

/-- A field of the form. -/
def field (r : Registration) : UserField → String
  | .username => r.username
  | .email => r.email
  | .firstname => r.firstname
  | .lastname => r.lastname

/-- The reasons that have to do with the form alone, in the order in which they are looked at. -/
def formObjections (r : Registration) : List UserError :=
  [.fieldMissing .username, .fieldMissing .email, .fieldMissing .firstname, .fieldMissing .lastname,
    .usernameLength r.username.length, .invalidEmail r.email]

/-- All reasons for which a registration can be turned down, in the order in which they are looked
at. -/
def objections (r : Registration) : List UserError :=
  r.formObjections ++ [.duplicateUsername r.username, .duplicateEmail r.email]

end Registration

namespace Accounts

/-- Some user has a property. -/
def Holds (s : Accounts) (p : User → Prop) : Prop := ∃ id u, s.user? id = some u ∧ p u

/-- A reason to turn down a registration applies. -/
def Objects (s : Accounts) (r : Registration) : UserError → Prop
  | .fieldMissing field => Text.isBlank (r.field field)
  | .usernameLength _ => ¬ (3 ≤ r.username.length ∧ r.username.length ≤ 30)
  | .invalidEmail _ => ¬ Email.Grammar r.email.toList
  | .duplicateUsername text => s.Holds (·.username.text = text)
  | .duplicateEmail text => s.Holds (·.email.text = text)
  | _ => False

variable {s s' : Accounts} {id other : UserId} {now : Timestamp} {r : Registration}

theorem user?_eq_some_iff {u : User} :
    s.user? id = some u ↔ ∃ account, s.get? id = some account ∧ account.user = u :=
  Option.map_eq_some_iff

theorem user?_insert (s : Accounts) (id other : UserId) (a : Account) :
    user? (s.insert id a) other = if id = other then some a.user else s.user? other := by
  rw [user?, Table.get?_insert]
  split
  · rfl
  · rfl

theorem user?_erase (s : Accounts) (id other : UserId) :
    user? (s.erase id) other = if id = other then none else s.user? other := by
  rw [user?, Table.get?_erase]
  split
  · rfl
  · rfl

/-- Where no identifier stands twice, whoever is in the table is there under an identifier. -/
theorem any_iff_holds (hs : s.Keyed) (p : User → Prop) [DecidablePred p] :
    s.values.any (fun a => p a.user) ↔ s.Holds p := by
  rw [List.any_eq_true]
  constructor
  · rintro ⟨account, hmem, hp⟩
    obtain ⟨id, hid⟩ := hs.exists_get? hmem
    exact ⟨id, account.user, user?_eq_some_iff.2 ⟨account, hid, rfl⟩, of_decide_eq_true hp⟩
  · rintro ⟨id, u, hu, hp⟩
    obtain ⟨account, haccount, rfl⟩ := user?_eq_some_iff.1 hu
    exact ⟨account, Table.mem_values_of_get? haccount, decide_eq_true hp⟩

instance decidableHolds (s : Accounts) (p : User → Prop) [DecidablePred p] :
    Decidable (s.Holds p) :=
  decidable_of_iff (∃ e ∈ s.entries, ∃ u ∈ s.user? e.1, p u) <| by
    constructor
    · rintro ⟨e, -, u, hu, hp⟩
      exact ⟨e.1, u, hu, hp⟩
    · rintro ⟨id, u, hu, hp⟩
      obtain ⟨account, haccount, -⟩ := user?_eq_some_iff.1 hu
      exact ⟨(id, account), Table.mem_entries_of_get? haccount, u, hu, hp⟩

instance (s : Accounts) (r : Registration) : DecidablePred (s.Objects r)
  | .fieldMissing _ => inferInstanceAs (Decidable (_ = true))
  | .usernameLength _ => inferInstanceAs (Decidable (¬ _))
  | .invalidEmail _ => inferInstanceAs (Decidable (¬ _))
  | .duplicateUsername _ => inferInstanceAs (Decidable (Holds _ _))
  | .duplicateEmail _ => inferInstanceAs (Decidable (Holds _ _))
  | .malformedId _ => inferInstanceAs (Decidable False)
  | .notFound _ => inferInstanceAs (Decidable False)
  | .invalidAmount _ => inferInstanceAs (Decidable False)
  | .insufficientPoints _ _ => inferInstanceAs (Decidable False)

/-- A form is turned down for the first reason that applies. -/
theorem register_form_eq_error_iff (s : Accounts) {e : UserError} :
    User.register id now r = .error e ↔ r.formObjections.find? (s.Objects r ·) = some e := by
  -- One check of the chain for each reason.  That a name or an address is blank has been ruled out
  -- before it is read.
  unfold User.register Registration.formObjections
  refine Fallible.bind_eq_error_iff_find? (fun h => if_pos h) fun husername =>
    ⟨(), if_neg husername, ?_⟩
  refine Fallible.bind_eq_error_iff_find? (fun h => if_pos h) fun hemail =>
    ⟨(), if_neg hemail, ?_⟩
  refine Fallible.bind_eq_error_iff_find? (fun h => if_pos h) fun hfirstname =>
    ⟨(), if_neg hfirstname, ?_⟩
  refine Fallible.bind_eq_error_iff_find? (fun h => if_pos h) fun hlastname =>
    ⟨(), if_neg hlastname, ?_⟩
  refine Fallible.bind_eq_error_iff_find? (Username.parse_of_length husername) fun hlength => ?_
  obtain ⟨username, hname⟩ := Username.exists_parse husername (Decidable.not_not.1 hlength)
  refine ⟨username, hname, ?_⟩
  refine Fallible.bind_eq_error_iff_find? (Email.parse_of_form hemail) fun hform => ?_
  obtain ⟨email, haddress⟩ := Email.exists_parse hemail (Decidable.not_not.1 hform)
  refine ⟨email, haddress, ?_⟩
  simp [pure, Except.pure]

/-- Who registers is what is on the form. -/
theorem fields_of_register_form {user : User} (h : User.register id now r = .ok user) :
    user.username.text = r.username ∧ user.email.text = r.email ∧ user.firstname = r.firstname ∧
      user.lastname = r.lastname := by
  simp only [User.register, Fallible.bind_eq_ok_iff, Fallible.pure_eq_ok_iff] at h
  obtain ⟨_, _, _, _, _, _, _, _, username, husername, email, hemail, rfl⟩ := h
  exact ⟨Username.parse_eq_ok husername, Email.parse_eq_ok hemail, rfl, rfl⟩

theorem names_of_register_form {user : User} (h : User.register id now r = .ok user) :
    user.username.text = r.username ∧ user.email.text = r.email := by
  obtain ⟨husername, hemail, -⟩ := fields_of_register_form h
  exact ⟨husername, hemail⟩

theorem form_of_register {user : User} (h : s.register id now r = .ok (user, s')) :
    User.register id now r = .ok user := by
  rw [register, Fallible.bind_eq_ok_iff] at h
  obtain ⟨u, hform, h⟩ := h
  split at h
  · cases h
  · split at h <;> cases h
    exact hform

theorem names_of_register {user : User} (h : s.register id now r = .ok (user, s')) :
    user.username.text = r.username ∧ user.email.text = r.email :=
  names_of_register_form (form_of_register h)

/-- A registration is turned down for the first reason that applies. -/
theorem register_eq_error_iff (hs : s.Keyed) {e : UserError} :
    s.register id now r = .error e ↔ r.objections.find? (s.Objects r ·) = some e := by
  rw [register, Registration.objections, List.find?_append]
  cases hform : User.register id now r with
  | error e' =>
    rw [(register_form_eq_error_iff s).1 hform]
    simp [bind, Except.bind]
  | ok user =>
    obtain ⟨husername, hemail⟩ := names_of_register_form hform
    have hnone : r.formObjections.find? (s.Objects r ·) = none := by
      cases hfind : r.formObjections.find? (s.Objects r ·) with
      | none => rfl
      | some e' =>
        have herror : User.register id now r = .error e' := (register_form_eq_error_iff s).2 hfind
        cases hform.symm.trans herror
    have hname : s.values.any (fun a => a.user.username = user.username) ↔
        s.Objects r (.duplicateUsername r.username) := by
      rw [any_iff_holds hs (·.username = user.username)]
      simp only [Objects, ← husername, Username.text_inj]
    have haddress : s.values.any (fun a => a.user.email = user.email) ↔
        s.Objects r (.duplicateEmail r.email) := by
      rw [any_iff_holds hs (·.email = user.email)]
      simp only [Objects, ← hemail, Email.text_inj]
    rw [hnone, Option.none_or]
    simp only [bind, Except.bind]
    by_cases hfirst : s.Objects r (.duplicateUsername r.username)
    · rw [if_pos (hname.2 hfirst), List.find?_cons_of_pos (by simpa using hfirst), husername]
      simp
    · rw [if_neg fun h => hfirst (hname.1 h), List.find?_cons_of_neg (by simpa using hfirst)]
      by_cases hsecond : s.Objects r (.duplicateEmail r.email)
      · rw [if_pos (haddress.2 hsecond), List.find?_cons_of_pos (by simpa using hsecond), hemail]
        simp
      · rw [if_neg fun h => hsecond (haddress.1 h),
          List.find?_cons_of_neg (by simpa using hsecond)]
        simp [pure, Except.pure]

/-- A registration succeeds if no reason to turn it down applies. -/
theorem exists_register_iff (hs : s.Keyed) :
    (∃ user s', s.register id now r = .ok (user, s')) ↔ ∀ e ∈ r.objections, ¬ s.Objects r e := by
  have hnone : (∀ e ∈ r.objections, ¬ s.Objects r e) ↔
      r.objections.find? (s.Objects r ·) = none := by
    simp
  rw [hnone]
  cases hregister : s.register id now r with
  | ok result =>
    have hno : ∀ e, r.objections.find? (s.Objects r ·) ≠ some e := fun e he => by
      cases hregister.symm.trans ((register_eq_error_iff hs).2 he)
    exact ⟨fun _ => Option.eq_none_iff_forall_ne_some.2 hno, fun _ => ⟨_, _, rfl⟩⟩
  | error e =>
    have he := (register_eq_error_iff hs).1 hregister
    rw [he]
    simp

/-- What it takes for no reason to apply. -/
theorem no_objection_iff : (∀ e ∈ r.objections, ¬ s.Objects r e) ↔
    (∀ field, ¬ Text.isBlank (r.field field)) ∧
      (3 ≤ r.username.length ∧ r.username.length ≤ 30) ∧ Email.Grammar r.email.toList ∧
      ∀ id u, s.user? id = some u → u.username.text ≠ r.username ∧ u.email.text ≠ r.email := by
  simp only [Registration.objections, Registration.formObjections, List.cons_append,
    List.nil_append, List.forall_mem_cons, List.not_mem_nil, false_implies, implies_true, and_true,
    Objects, Holds, not_exists, not_not]
  constructor
  · rintro ⟨husername, hemail, hfirstname, hlastname, hlength, hform, hname, haddress⟩
    refine ⟨fun field => ?_, hlength, hform,
      fun id u hu => ⟨fun h => hname id u ⟨hu, h⟩, fun h => haddress id u ⟨hu, h⟩⟩⟩
    cases field with
    | username => exact husername
    | email => exact hemail
    | firstname => exact hfirstname
    | lastname => exact hlastname
  · rintro ⟨hfields, hlength, hform, hfree⟩
    exact ⟨hfields .username, hfields .email, hfields .firstname, hfields .lastname, hlength, hform,
      fun id u h => (hfree id u h.1).1 h.2, fun id u h => (hfree id u h.1).2 h.2⟩

/-! ## Users who cannot be mistaken for each other -/

/-- Users with the same text are one user. -/
def TellsApart (s : Accounts) (f : User → String) : Prop :=
  ∀ id other u v, s.user? id = some u → s.user? other = some v → f u = f v → id = other

namespace TellsApart

variable {f : User → String}

theorem empty (f : User → String) : TellsApart .empty f := fun _ _ _ _ h => by cases h

/-- A table in which no text stands twice. -/
theorem of_nodup (h : (s.entries.map fun e => f e.2.user).Nodup) : s.TellsApart f := by
  intro id other u v hu hv huv
  obtain ⟨a, ha, rfl⟩ := user?_eq_some_iff.1 hu
  obtain ⟨a', ha', rfl⟩ := user?_eq_some_iff.1 hv
  have hsame := List.inj_on_of_nodup_map h (Table.mem_entries_of_get? ha)
    (Table.mem_entries_of_get? ha') huv
  exact congrArg Prod.fst hsame

theorem insert (h : s.TellsApart f) {a : Account}
    (hnew : ∀ other v, s.user? other = some v → f v = f a.user → id = other) :
    TellsApart (s.insert id a) f := by
  intro i j u v hu hv huv
  rw [user?_insert] at hu hv
  -- The new user can be either of the two.
  by_cases hi : id = i
  · subst hi
    rw [if_pos rfl] at hu
    cases hu
    by_cases hj : id = j
    · exact hj
    · rw [if_neg hj] at hv
      exact hnew j v hv huv.symm
  · rw [if_neg hi] at hu
    by_cases hj : id = j
    · subst hj
      rw [if_pos rfl] at hv
      cases hv
      exact (hnew i u hu huv).symm
    · rw [if_neg hj] at hv
      exact h i j u v hu hv huv

/-- A user with the same text can stand in the place of another. -/
theorem replace (h : s.TellsApart f) {a a' : Account} (ha : s.get? id = some a)
    (hsame : f a'.user = f a.user) : TellsApart (s.insert id a') f :=
  h.insert fun other v hv heq =>
    h id other a.user v (user?_eq_some_iff.2 ⟨a, ha, rfl⟩) hv (hsame.symm.trans heq.symm)

theorem erase (h : s.TellsApart f) (id : UserId) : TellsApart (s.erase id) f := by
  intro i j u v hu hv huv
  rw [user?_erase] at hu hv
  split at hu
  · cases hu
  · split at hv
    · cases hv
    · exact h i j u v hu hv huv

end TellsApart

/-- No identifier stands twice, and no two users have the same name or the same address. -/
structure Unmistakable (s : Accounts) : Prop where
  keyed : s.Keyed
  username : s.TellsApart (·.username.text)
  email : s.TellsApart (·.email.text)

namespace Unmistakable

theorem empty : Unmistakable .empty := ⟨Table.keyed_empty, .empty _, .empty _⟩

theorem replace (h : s.Unmistakable) {a a' : Account} (ha : s.get? id = some a)
    (husername : a'.user.username = a.user.username) (hemail : a'.user.email = a.user.email) :
    Unmistakable (s.insert id a') :=
  ⟨h.keyed.insert id a', h.username.replace ha (congrArg _ husername),
    h.email.replace ha (congrArg _ hemail)⟩

theorem of_execute (h : s.Unmistakable) {c : UserCommand} {balance : Unsigned64}
    (hexec : s.execute id now c = .ok (balance, s')) : s'.Unmistakable := by
  obtain ⟨account, event, haccount, -, -, rfl⟩ := execute_eq_ok hexec
  exact h.replace haccount rfl rfl

theorem of_noteOrder? (h : s.Unmistakable) {order : OrderId}
    (hnote : s.noteOrder? id order = some s') : s'.Unmistakable := by
  obtain ⟨account, haccount, rfl⟩ := noteOrder?_eq_some hnote
  exact h.replace haccount rfl rfl

theorem erase (h : s.Unmistakable) (id : UserId) : Unmistakable (s.erase id) :=
  ⟨h.keyed.erase id, h.username.erase id, h.email.erase id⟩

/-- Who registers has a name and an address that nobody has. -/
theorem of_register (h : s.Unmistakable) {user : User}
    (hregister : s.register id now r = .ok (user, s')) : s'.Unmistakable := by
  have hfree := (exists_register_iff h.keyed).1 ⟨user, s', hregister⟩
  obtain ⟨husername, hemail⟩ := names_of_register hregister
  obtain ⟨rfl, -⟩ := register_eq_ok hregister
  refine ⟨h.keyed.insert id _, h.username.insert fun other v hv heq => ?_,
    h.email.insert fun other v hv heq => ?_⟩
  · have hno := hfree (.duplicateUsername r.username) (by simp [Registration.objections])
    exact absurd ⟨other, v, hv, heq.trans husername⟩ hno
  · have hno := hfree (.duplicateEmail r.email) (by simp [Registration.objections])
    exact absurd ⟨other, v, hv, heq.trans hemail⟩ hno

/-- Nobody has the name or the address of a user who is gone. -/
theorem names_of_erase (h : s.Unmistakable) {u v : User} (hu : s.user? id = some u)
    (hv : user? (s.erase id) other = some v) :
    v.username.text ≠ u.username.text ∧ v.email.text ≠ u.email.text := by
  rw [user?_erase] at hv
  split at hv
  · cases hv
  · next hne =>
    exact ⟨fun heq => hne (h.username id other u v hu hv heq.symm),
      fun heq => hne (h.email id other u v hu hv heq.symm)⟩

/-- The name and the address of a user who is gone can be had again. -/
theorem exists_register_of_erase (h : s.Unmistakable) {u : User} (hu : s.user? id = some u)
    (husername : r.username = u.username.text) (hemail : r.email = u.email.text)
    (hfirstname : ¬ Text.isBlank r.firstname) (hlastname : ¬ Text.isBlank r.lastname) :
    ∃ user s', Accounts.register (s.erase id) other now r = .ok (user, s') := by
  rw [exists_register_iff (h.erase id).keyed, no_objection_iff]
  refine ⟨fun field => ?_, ?_, ?_, ?_⟩
  · cases field with
    | username =>
      rw [Registration.field, husername, u.username.notBlank]
      exact Bool.false_ne_true
    | email =>
      rw [Registration.field, hemail]
      exact u.email.not_isBlank
    | firstname => exact hfirstname
    | lastname => exact hlastname
  · rw [husername]
    exact ⟨u.username.min_le, u.username.le_max⟩
  · rw [hemail]
    exact Email.isAddress_iff.1 u.email.wellFormed
  · intro i v hv
    rw [husername, hemail]
    exact h.names_of_erase hu hv

end Unmistakable

end Accounts

end OrderDesk
