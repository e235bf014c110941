import Mathlib.Data.List.TakeWhile
import OrderDesk.User.Name

/-!
# The form of user names and email addresses

Addresses are read from left to right up to the at sign and from right to left up to the last dot
(`Email.isAddress`).  What is read that way is just what has the form of an address: a local part,
an at sign, a name, a dot and two letters or more (`Email.Grammar`, `isAddress_iff`).  The name may
have dots in it, so it is the last dot that counts.

A text that is not blank becomes a user name or an address just as it is, or it has not the form.
-/

namespace OrderDesk

/-! ## User names -/

namespace Username

theorem text_inj {n m : Username} : n.text = m.text ↔ n = m := by
  cases n
  cases m
  simp

theorem parse_eq_ok {text : String} {n : Username} (h : parse text = .ok n) : n.text = text := by
  unfold parse at h
  split at h
  · cases h
  · split at h <;> cases h
    rfl

theorem exists_parse {text : String} (hblank : ¬ Text.isBlank text)
    (hlength : 3 ≤ text.length ∧ text.length ≤ 30) : ∃ n, parse text = .ok n := by
  refine ⟨⟨text, by simpa using hblank, hlength.1, hlength.2⟩, ?_⟩
  unfold parse
  rw [dif_neg hblank]
  exact dif_pos hlength

theorem parse_of_length {text : String} (hblank : ¬ Text.isBlank text)
    (hlength : ¬ (3 ≤ text.length ∧ text.length ≤ 30)) :
    parse text = .error (.usernameLength text.length) := by
  unfold parse
  rw [dif_neg hblank]
  exact dif_neg hlength

end Username

/-! ## Email addresses -/

namespace Email

/-- The form of an email address. -/
def Grammar (s : List Char) : Prop :=
  ∃ front name top, s = front ++ '@' :: (name ++ '.' :: top) ∧
    (front ≠ [] ∧ ∀ c ∈ front, isLocalChar c) ∧ (name ≠ [] ∧ ∀ c ∈ name, isDomainChar c) ∧
    2 ≤ top.length ∧ ∀ c ∈ top, isLetter c

theorem isDomainChar_of_isLetter {c : Char} (h : isLetter c) : isDomainChar c := by
  simp [isDomainChar, h]

/-- Read from its end, a domain is split at its last dot. -/
theorem hasTopLevel_iff {domain : List Char} :
    hasTopLevel domain ↔ ∃ name top, domain = name ++ '.' :: top ∧ name ≠ [] ∧ 2 ≤ top.length ∧
      ∀ c ∈ top, isLetter c := by
  unfold hasTopLevel
  rw [Bool.and_eq_true, decide_eq_true_iff]
  constructor
  · rintro ⟨hlength, hrest⟩
    split at hrest
    · next rest hdrop =>
      have hback : domain.reverse = domain.reverse.takeWhile isLetter ++ '.' :: rest := by
        rw [← hdrop, List.takeWhile_append_dropWhile]
      have hdomain := congrArg List.reverse hback
      rw [List.reverse_reverse, List.reverse_append, List.reverse_cons] at hdomain
      refine ⟨rest.reverse, (domain.reverse.takeWhile isLetter).reverse, ?_, ?_, ?_, ?_⟩
      · exact hdomain.trans (List.append_assoc ..)
      · simpa using hrest
      · rwa [List.length_reverse]
      · intro c hc
        exact List.mem_takeWhile_imp (List.mem_reverse.1 hc)
    · cases hrest
  · rintro ⟨name, top, rfl, hname, hlength, htop⟩
    have hletters : ∀ c ∈ top.reverse, isLetter c = true :=
      fun c hc => htop c (List.mem_reverse.1 hc)
    have hdot : ¬ isLetter '.' = true := by decide
    have hback : (name ++ '.' :: top).reverse = top.reverse ++ '.' :: name.reverse := by simp
    rw [hback, List.takeWhile_append_of_pos hletters, List.takeWhile_cons_of_neg hdot,
      List.append_nil, List.length_reverse, List.dropWhile_append_of_pos hletters,
      List.dropWhile_cons_of_neg hdot]
    exact ⟨hlength, by simpa using hname⟩

/-- The addresses are the texts of the form of an address. -/
theorem isAddress_iff {s : List Char} : isAddress s ↔ Grammar s := by
  unfold isAddress
  rw [Bool.and_eq_true]
  constructor
  · rintro ⟨hfront, hrest⟩
    split at hrest
    · next domain hdrop =>
      rw [Bool.and_eq_true, List.all_eq_true, hasTopLevel_iff] at hrest
      obtain ⟨hdomain, name, top, rfl, hname, hlength, htop⟩ := hrest
      refine ⟨s.takeWhile isLocalChar, name, top, ?_, ⟨?_, ?_⟩, ⟨hname, ?_⟩, hlength, htop⟩
      · rw [← hdrop, List.takeWhile_append_dropWhile]
      · simpa using hfront
      · exact fun c hc => List.mem_takeWhile_imp hc
      · exact fun c hc => hdomain c (List.mem_append_left _ hc)
    · cases hrest
  · rintro ⟨front, name, top, rfl, ⟨hfront, hlocal⟩, ⟨hname, hdomain⟩, hlength, htop⟩
    have hat : ¬ isLocalChar '@' = true := by decide
    rw [List.takeWhile_append_of_pos hlocal, List.takeWhile_cons_of_neg hat, List.append_nil,
      List.dropWhile_append_of_pos hlocal, List.dropWhile_cons_of_neg hat]
    refine ⟨by simpa using hfront, ?_⟩
    show ((name ++ '.' :: top).all isDomainChar && hasTopLevel (name ++ '.' :: top)) = true
    rw [Bool.and_eq_true, List.all_eq_true, hasTopLevel_iff]
    refine ⟨fun c hc => ?_, name, top, rfl, hname, hlength, htop⟩
    rcases List.mem_append.1 hc with hc | hc
    · exact hdomain c hc
    · rcases List.mem_cons.1 hc with rfl | hc
      · decide
      · exact isDomainChar_of_isLetter (htop c hc)

instance (s : List Char) : Decidable (Grammar s) := decidable_of_iff _ isAddress_iff

theorem text_inj {n m : Email} : n.text = m.text ↔ n = m := by
  cases n
  cases m
  simp

theorem parse_eq_ok {text : String} {n : Email} (h : parse text = .ok n) : n.text = text := by
  unfold parse at h
  split at h
  · cases h
  · split at h <;> cases h
    rfl

theorem exists_parse {text : String} (hblank : ¬ Text.isBlank text)
    (hform : Grammar text.toList) : ∃ n, parse text = .ok n := by
  refine ⟨⟨text, isAddress_iff.2 hform⟩, ?_⟩
  unfold parse
  rw [if_neg hblank, dif_pos]

theorem parse_of_form {text : String} (hblank : ¬ Text.isBlank text)
    (hform : ¬ Grammar text.toList) : parse text = .error (.invalidEmail text) := by
  unfold parse
  rw [if_neg hblank, dif_neg fun h => hform (isAddress_iff.1 h)]

/-- There is an at sign in every address. -/
theorem not_isBlank (n : Email) : ¬ Text.isBlank n.text := by
  obtain ⟨front, name, top, htext, -⟩ := isAddress_iff.1 n.wellFormed
  intro hblank
  have hat : '@' ∈ n.text.toList := by
    rw [htext]
    exact List.mem_append_right _ (List.mem_cons_self ..)
  exact absurd (Text.isBlank_iff.1 hblank '@' hat) (by decide)

end Email

end OrderDesk
