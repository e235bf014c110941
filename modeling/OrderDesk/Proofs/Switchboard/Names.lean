import OrderDesk.Proofs.Store.Names
import OrderDesk.Proofs.Switchboard.Identifiers
import OrderDesk.Demo

/-!
# Names in every run

Users register, are deleted, and get and redeem points, while orders come and go.  Whatever happens,
no two users have the same name or the same address (`unmistakable_run`), and so it is clear who may
register: `names_are_never_shared`.
-/

namespace OrderDesk

/-! ## Demo data -/

namespace Demo

/-- The identifiers, the names and the addresses of the demo users. -/
def names : List (UserId × String × String) :=
  registrations.map fun (n, r, _) => (userId n, r.username, r.email)

theorem names_load (now : Timestamp) :
    (load now .empty).map (fun s => s.users.entries.map fun e =>
      (e.1, e.2.user.username.text, e.2.user.email.text)) = .ok names :=
  rfl

/-- What no two of the demo users share stands once in the accounts. -/
theorem nodup_of_names {β : Type} {now : Timestamp} {s : Service} (h : load now .empty = .ok s)
    (g : UserId × String × String → β) (hg : (names.map g).Nodup) :
    (s.users.entries.map fun e =>
      g (e.1, e.2.user.username.text, e.2.user.email.text)).Nodup := by
  have hnames := names_load now
  rw [h, Except.map, Except.ok.injEq] at hnames
  rw [← hnames, List.map_map] at hg
  exact hg

theorem unmistakable_load {now : Timestamp} {s : Service} (h : load now .empty = .ok s) :
    s.users.Unmistakable where
  keyed := nodup_of_names h (·.1) (by decide)
  username := .of_nodup (nodup_of_names h (·.2.1) (by decide))
  email := .of_nodup (nodup_of_names h (·.2.2) (by decide))

end Demo

/-! ## Steps -/

variable {fresh : Uuid} {now : Timestamp} {answers : List Answer} {s s' : Service}
  {request : Request} {c c' : Call}

theorem Starts.unmistakable (h : Starts fresh now s request s' c) (hs : s.users.Unmistakable) :
    s'.users.Unmistakable := by
  cases h with
  | creating | createFailed | looking | reviseFailed | acting | actFailed | registerFailed
  | redeemFailed | awardFailed | removeFailed => exact hs
  | registered hregister => exact hs.of_register hregister
  | redeemed hredeem => exact hs.of_execute hredeem
  | awarded haward => exact hs.of_execute haward
  | removed => exact hs.erase _

theorem Advances.unmistakable (h : Advances fresh now answers s c s' c')
    (hs : s.users.Unmistakable) : s'.users.Unmistakable := by
  cases h with
  | looked | lookFailed | held | confirmed | revised | askFailed | cancelled | actFailed | finished
  | passedOver | found | swept | spared => exact hs
  | placed _ _ _ husers =>
    rcases husers with ⟨-, hsame⟩ | ⟨u, -, hnote⟩
    · exact hsame ▸ hs
    · exact hs.of_noteOrder? hnote
  | submitted _ _ _ husers =>
    rcases husers with ⟨-, hsame⟩ | ⟨u, balance, -, haward⟩
    · exact hsame ▸ hs
    · exact hs.of_execute haward

namespace Service

variable {id : UserId} {r : Registration}

theorem register_eq_error_iff {e : UserError} :
    (s.register fresh now r).2 = .error e ↔ s.users.register fresh now r = .error e := by
  rw [register]
  cases s.users.register fresh now r with
  | error e' => simp
  | ok result => simp

theorem exists_register_iff :
    (∃ user, (s.register fresh now r).2 = .ok user) ↔
      ∃ user users, s.users.register fresh now r = .ok (user, users) := by
  rw [register]
  cases s.users.register fresh now r with
  | error e => simp
  | ok result =>
    obtain ⟨user, users⟩ := result
    simp

/-- Who has registered is there, as on the form. -/
theorem user?_of_register {user : User} (h : (s.register fresh now r).2 = .ok user) :
    user.username.text = r.username ∧ user.email.text = r.email ∧ user.firstname = r.firstname ∧
      user.lastname = r.lastname ∧ (s.register fresh now r).1.users.user? fresh = some user := by
  rw [register] at h ⊢
  cases hregister : s.users.register fresh now r with
  | error e =>
    rw [hregister] at h
    cases h
  | ok result =>
    obtain ⟨registered, users⟩ := result
    rw [hregister] at h
    cases h
    obtain ⟨husername, hemail, hfirstname, hlastname⟩ :=
      Accounts.fields_of_register_form (Accounts.form_of_register hregister)
    refine ⟨husername, hemail, hfirstname, hlastname, ?_⟩
    show users.user? fresh = some user
    rw [(Accounts.register_eq_ok hregister).1, Accounts.user?_insert, if_pos rfl]

theorem users_deleteUser {user : User} (h : s.users.user? id = some user) :
    (s.deleteUser id).1.users = s.users.erase id := by
  obtain ⟨account, haccount, -⟩ := Accounts.user?_eq_some_iff.1 h
  rw [deleteUser, removeUser, Accounts.notedOrders?, haccount]
  rfl

end Service

namespace Switchboard

variable {b b' : Switchboard} {e : Event} {es : List Event}

theorem unmistakable_step (hb : b.service.users.Unmistakable) (h : b.step e = some b') :
    b'.service.users.Unmistakable := by
  cases moves_of_step h with
  | start _ hstart => exact hstart.unmistakable hb
  | advance _ _ hadv => exact hadv.unmistakable hb

/-! ## Every run -/

theorem unmistakable_run (hs : s = .empty ∨ ∃ now, Demo.load now .empty = .ok s)
    (h : (ofService s).run es = some b) : b.service.users.Unmistakable := by
  have hstart : (ofService s).service.users.Unmistakable := by
    rcases hs with rfl | ⟨now, hload⟩
    · exact .empty
    · exact Demo.unmistakable_load hload
  exact run_preserves (P := fun b => b.service.users.Unmistakable)
    (fun _ _ _ hb h => unmistakable_step hb h) hstart h

namespace Rehearsal

def mary : Registration := ⟨"marysmith", "mary@example.com", "Mary", "Smith"⟩

/-- A user registers beside the demo users. -/
def joining : List Event := [.start (call 14) (.register mary) (user 9) midnight]

end Rehearsal

/-- **Names are never shared**, in every state that is reached from nothing or from the demo data.

* Users with the same name, or with the same address, are one user.
* Who fills in every field, gives a name of 3 to 30 characters and an address of the form of an
  address, and is neither called nor addressed like a user who is there, can register.  Everyone
  else is told the first of the objections that applies.
* Who has registered is among the users afterwards, with the names and the address given.
* Nobody has the name or the address of a user who is deleted, and so whoever gives both can
  register. -/
theorem names_are_never_shared (hs : s = .empty ∨ ∃ now, Demo.load now .empty = .ok s)
    (h : (ofService s).run es = some b) :
    (∀ id other u v, b.service.users.user? id = some u → b.service.users.user? other = some v →
      u.username.text = v.username.text ∨ u.email.text = v.email.text → id = other) ∧
    (∀ fresh now r,
      ((∃ user, (b.service.register fresh now r).2 = .ok user) ↔
        (∀ field, ¬ Text.isBlank (r.field field)) ∧
        (3 ≤ r.username.length ∧ r.username.length ≤ 30) ∧ Email.Grammar r.email.toList ∧
        ∀ id u, b.service.users.user? id = some u →
          u.username.text ≠ r.username ∧ u.email.text ≠ r.email) ∧
      (∀ e, (b.service.register fresh now r).2 = .error e ↔
        r.objections.find? (b.service.users.Objects r ·) = some e) ∧
      ∀ user, (b.service.register fresh now r).2 = .ok user →
        user.username.text = r.username ∧ user.email.text = r.email ∧
        user.firstname = r.firstname ∧ user.lastname = r.lastname ∧
        (b.service.register fresh now r).1.users.user? fresh = some user) ∧
    ∀ id u, b.service.users.user? id = some u →
      (∀ other v, (b.service.deleteUser id).1.users.user? other = some v →
        v.username.text ≠ u.username.text ∧ v.email.text ≠ u.email.text) ∧
      ∀ fresh now r, r.username = u.username.text → r.email = u.email.text →
        ¬ Text.isBlank r.firstname → ¬ Text.isBlank r.lastname →
        ∃ user, ((b.service.deleteUser id).1.register fresh now r).2 = .ok user := by
  have hb : b.service.users.Unmistakable := unmistakable_run hs h
  refine ⟨?_, ?_, ?_⟩
  · rintro id other u v hu hv (husername | hemail)
    · exact hb.username id other u v hu hv husername
    · exact hb.email id other u v hu hv hemail
  · intro fresh now r
    refine ⟨?_, fun e => ?_, fun user => Service.user?_of_register⟩
    · rw [Service.exists_register_iff, Accounts.exists_register_iff hb.keyed,
        Accounts.no_objection_iff]
    · rw [Service.register_eq_error_iff, Accounts.register_eq_error_iff hb.keyed]
  · intro id u hu
    have husers := Service.users_deleteUser hu
    refine ⟨fun other v hv => hb.names_of_erase hu (husers ▸ hv),
      fun fresh now r husername hemail hfirstname hlastname => ?_⟩
    rw [Service.exists_register_iff, husers]
    exact hb.exists_register_of_erase hu husername hemail hfirstname hlastname

open Rehearsal in
theorem names_are_never_shared_beside_demo :
    ∃ s b u, Demo.load midnight .empty = .ok s ∧ (ofService s).run joining = some b ∧
      b.service.users.user? (Demo.userId 0) = some u ∧ u.username.text = john.username ∧
      (b.service.register (user 10) midnight john).2 = .error (.duplicateUsername john.username) ∧
      ∃ user', ((b.service.deleteUser (Demo.userId 0)).1.register (user 10) midnight john).2 =
        .ok user' := by
  obtain ⟨s, hs⟩ := Demo.exists_load midnight
  have hrun : ((Demo.load midnight .empty).toOption.bind fun s =>
      ((ofService s).run joining).bind fun b =>
        (b.service.users.user? (Demo.userId 0)).map fun u =>
          ((u.username.text, u.email.text),
            john.objections.find? (b.service.users.Objects john ·))) =
      some ((john.username, john.email), some (.duplicateUsername john.username)) := by
    decide +kernel
  rw [hs] at hrun
  obtain ⟨s', hs', hrun⟩ := Option.bind_eq_some_iff.1 hrun
  cases hs'
  obtain ⟨b, hb, hrun⟩ := Option.bind_eq_some_iff.1 hrun
  obtain ⟨u, hu, hrun⟩ := Option.map_eq_some_iff.1 hrun
  obtain ⟨hnames, herror⟩ := Prod.mk.inj hrun
  obtain ⟨husername, hemail⟩ := Prod.mk.inj hnames
  obtain ⟨-, hregister, hagain⟩ := names_are_never_shared (.inr ⟨midnight, hs⟩) hb
  exact ⟨s, b, u, hs, hb, hu, husername, ((hregister _ _ _).2.1 _).2 herror,
    (hagain _ u hu).2 _ _ john husername.symm hemail.symm (by decide) (by decide)⟩

end Switchboard

end OrderDesk
