import Mathlib.Tactic.SplitIfs
import OrderDesk.Text.Digit

/-!
# Letters of either case

Hexadecimal digits are read with letters of either case: the value of a character is the value of
its lower case (`Text.hexValue?_toLower`), and the digit written for that value is the lower case
(`Text.digit_of_hexValue?`).  Only the ASCII letters have a case here.
-/

namespace OrderDesk.Text

/-- The digits of hexadecimal numbers, with letters of either case. -/
def hexDigits : List Char :=
  ['0', '1', '2', '3', '4', '5', '6', '7', '8', '9', 'a', 'b', 'c', 'd', 'e', 'f',
    'A', 'B', 'C', 'D', 'E', 'F']

/-- A character in a range of code points is one of finitely many, so that what is said of it can
be decided. -/
theorem eq_ofNat_add {c : Char} {low width : Nat} (hlow : low ≤ c.toNat)
    (hhigh : c.toNat < low + width) : ∃ n < width, c = Char.ofNat (low + n) := by
  refine ⟨c.toNat - low, by omega, ?_⟩
  rw [Nat.add_sub_of_le hlow, Char.ofNat_toNat]

theorem toLower_eq_or_capital (c : Char) : c.toLower = c ∨ ∃ n < 26, c = Char.ofNat (65 + n) := by
  by_cases h : 'A' ≤ c ∧ c ≤ 'Z'
  · exact .inr (eq_ofNat_add h.1 (Nat.lt_succ_of_le h.2))
  · exact .inl (dif_neg h)

theorem toUpper_eq_or_small (c : Char) : c.toUpper = c ∨ ∃ n < 26, c = Char.ofNat (97 + n) := by
  by_cases h : 'a' ≤ c ∧ c ≤ 'z'
  · exact .inr (eq_ofNat_add h.1 (Nat.lt_succ_of_le h.2))
  · exact .inl (dif_neg h)

@[simp] theorem toLower_toUpper (c : Char) : c.toUpper.toLower = c.toLower := by
  rcases toUpper_eq_or_small c with h | ⟨n, hn, rfl⟩
  · rw [h]
  · revert n
    decide

@[simp] theorem hexValue?_toLower (c : Char) : hexValue? c.toLower = hexValue? c := by
  rcases toLower_eq_or_capital c with h | ⟨n, hn, rfl⟩
  · rw [h]
  · revert n
    decide

theorem toLower_eq_hyphen {c : Char} : c.toLower = '-' ↔ c = '-' := by
  rcases toLower_eq_or_capital c with h | ⟨n, hn, rfl⟩
  · rw [h]
  · revert n
    decide

theorem toList_toLower (s : String) : s.toLower.toList = s.toList.map Char.toLower :=
  String.toList_map

/-- The characters with a value are the hexadecimal digits. -/
theorem isSome_hexValue? {c : Char} : (hexValue? c).isSome ↔ c ∈ hexDigits := by
  constructor
  · intro h
    have hten : ∀ n < 10, Char.ofNat (48 + n) ∈ hexDigits := by decide
    have hsmall : ∀ n < 6, Char.ofNat (97 + n) ∈ hexDigits := by decide
    have hlarge : ∀ n < 6, Char.ofNat (65 + n) ∈ hexDigits := by decide
    rw [hexValue?] at h
    split_ifs at h with hc hc hc
    · obtain ⟨n, hn, rfl⟩ : ∃ n < 10, c = Char.ofNat (48 + n) :=
        eq_ofNat_add hc.1 (Nat.lt_succ_of_le hc.2)
      exact hten n hn
    · obtain ⟨n, hn, rfl⟩ : ∃ n < 6, c = Char.ofNat (97 + n) :=
        eq_ofNat_add hc.1 (Nat.lt_succ_of_le hc.2)
      exact hsmall n hn
    · obtain ⟨n, hn, rfl⟩ : ∃ n < 6, c = Char.ofNat (65 + n) :=
        eq_ofNat_add hc.1 (Nat.lt_succ_of_le hc.2)
      exact hlarge n hn
    · cases h
  · have hall : hexDigits.all (fun c => (hexValue? c).isSome) := by decide
    exact List.all_eq_true.1 hall c

/-- The digit written for the value of a character is the character in lower case. -/
theorem digit_of_hexValue? {c : Char} {d : Nat} (h : hexValue? c = some d) :
    d < 16 ∧ digit d = c.toLower := by
  have hall : hexDigits.all (fun c => (hexValue? c).all fun d => d < 16 ∧ digit d = c.toLower) := by
    decide
  have hc := List.all_eq_true.1 hall c (isSome_hexValue?.1 (Option.isSome_of_eq_some h))
  rw [h] at hc
  exact of_decide_eq_true hc

end OrderDesk.Text
