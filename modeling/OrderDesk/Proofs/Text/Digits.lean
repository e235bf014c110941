import Mathlib.Data.List.Induction
import OrderDesk.Json.Numeral
import OrderDesk.Text.Blank

/-!
# Digits that are written and read again

Numbers are written with as many digits as they need, or with a fixed width.  Either way the digits
have the value of the number (`Numeral.ofDigits_digitsOf`, `Text.ofDigits_toDigits`), and they are
told from everything else that may stand around them: blanks and signs.
-/

namespace OrderDesk

namespace Text

theorem lt_of_value? {c : Char} {d : Nat} (h : value? c = some d) : d < 10 := by
  unfold value? at h
  split at h
  · next hc =>
    cases h
    have hle : c.toNat ≤ '9'.toNat := hc.2
    have hnine : '9'.toNat = 57 := rfl
    omega
  · cases h

theorem ofDigits_append (base : Nat) (ds es : List Nat) :
    ofDigits base (ds ++ es) = ofDigits base ds * Nat.pow base es.length + ofDigits base es := by
  induction es using List.reverseRecOn with
  | nil => simp
  | append_singleton es d ih =>
    have hpow : Nat.pow base (es.length + 1) = Nat.pow base es.length * base := rfl
    rw [← List.append_assoc, ofDigits_append_singleton, ih, ofDigits_append_singleton,
      List.length_append, List.length_singleton, hpow, Nat.mul_add, Nat.mul_left_comm,
      Nat.mul_comm base (Nat.pow base es.length), Nat.add_assoc]

theorem ofDigits_replicate_zero (base n : Nat) : ofDigits base (List.replicate n 0) = 0 := by
  induction n with
  | zero => rfl
  | succ n ih => rw [List.replicate_succ', ofDigits_append_singleton, ih, Nat.mul_zero]

theorem ofDigits_lt {base : Nat} {ds : List Nat} (h : ∀ d ∈ ds, d < base) :
    ofDigits base ds < Nat.pow base ds.length := by
  induction ds using List.reverseRecOn with
  | nil => exact Nat.one_pos
  | append_singleton ds d ih =>
    have hds := ih fun e he => h e (List.mem_append_left _ he)
    have hd := h d (List.mem_append_right _ (List.mem_singleton_self d))
    have hpow : Nat.pow base (ds.length + 1) = base * Nat.pow base ds.length := Nat.mul_comm _ _
    rw [ofDigits_append_singleton, List.length_append, List.length_singleton, hpow]
    calc base * ofDigits base ds + d < base * ofDigits base ds + base := Nat.add_lt_add_left hd _
      _ = base * (ofDigits base ds + 1) := (Nat.mul_succ ..).symm
      _ ≤ base * Nat.pow base ds.length := Nat.mul_le_mul_left base hds

/-- A row of digits is written again for its value. -/
theorem toDigits_ofDigits {base : Nat} {ds : List Nat} (h : ∀ d ∈ ds, d < base) :
    toDigits base ds.length (ofDigits base ds) = ds := by
  induction ds using List.reverseRecOn with
  | nil => rfl
  | append_singleton ds d ih =>
    have hds := ih fun e he => h e (List.mem_append_left _ he)
    have hd := h d (List.mem_append_right _ (List.mem_singleton_self d))
    have hbase : 0 < base := Nat.zero_lt_of_lt hd
    rw [ofDigits_append_singleton, List.length_append, List.length_singleton, toDigits,
      Nat.mul_add_div hbase, Nat.div_eq_of_lt hd, Nat.add_zero, hds, Nat.mul_add_mod,
      Nat.mod_eq_of_lt hd]

theorem isBlankChar_digit {d : Nat} (h : d < 10) : isBlankChar (digit d) = false := by
  revert d
  decide

theorem digit_ne_sign {d : Nat} (h : d < 10) : digit d ≠ '-' ∧ digit d ≠ '+' := by
  revert d
  decide

theorem value?_digitChar {d : Nat} (h : d < 10) : value? d.digitChar = some d := by
  revert d
  decide

/-- A number that is written with a width begins with a digit. -/
theorem exists_padded_succ (width n : Nat) :
    ∃ d ds, d < 10 ∧ padded (width + 1) n = digit d :: ds := by
  cases hdigits : toDigits 10 (width + 1) n with
  | nil =>
    have hlength := length_toDigits 10 (width + 1) n
    rw [hdigits] at hlength
    cases hlength
  | cons d ds =>
    refine ⟨d, ds.map digit, ?_, ?_⟩
    · exact lt_of_mem_toDigits (by decide) (hdigits ▸ List.mem_cons_self ..)
    · rw [padded, hdigits]
      rfl

theorem trimStart_cons {c : Char} (h : isBlankChar c = false) (s : List Char) :
    trimStart (c :: s) = c :: s := by
  rw [trimStart, List.dropWhile_cons_of_neg (by rw [h]; decide)]

theorem trimStart_padded (width n : Nat) (s : List Char) :
    trimStart (padded (width + 1) n ++ s) = padded (width + 1) n ++ s := by
  obtain ⟨d, ds, hd, hpadded⟩ := exists_padded_succ width n
  rw [hpadded]
  exact trimStart_cons (isBlankChar_digit hd) _

end Text

namespace Numeral

theorem digitsOf_of_lt {n : Nat} (h : n < 10) : digitsOf n = [n] := by
  rw [digitsOf, Nat.toDigits_of_lt_base h, List.filterMap_cons, Text.value?_digitChar h]
  rfl

theorem digitsOf_of_le {n : Nat} (h : 10 ≤ n) : digitsOf n = digitsOf (n / 10) ++ [n % 10] := by
  rw [digitsOf, Nat.toDigits_of_base_le (by decide) h, List.filterMap_append, List.filterMap_cons,
    Text.value?_digitChar (Nat.mod_lt n (by decide))]
  rfl

/-- The digits of a whole number have its value. -/
theorem ofDigits_digitsOf (n : Nat) : Text.ofDigits 10 (digitsOf n) = n := by
  induction n using Nat.strongRecOn with
  | ind n ih =>
    by_cases h : n < 10
    · rw [digitsOf_of_lt h]
      exact Nat.zero_add n
    · rw [digitsOf_of_le (Nat.le_of_not_lt h), Text.ofDigits_append_singleton,
        ih (n / 10) (by omega)]
      exact Nat.div_add_mod n 10

theorem lt_of_mem_digitsOf {n d : Nat} (h : d ∈ digitsOf n) : d < 10 := by
  obtain ⟨c, -, hc⟩ := List.mem_filterMap.1 h
  exact Text.lt_of_value? hc

/-- A number has no more digits than it needs. -/
theorem pow_length_digitsOf_le {n : Nat} (h : 0 < n) :
    Nat.pow 10 (digitsOf n).length ≤ 10 * n := by
  induction n using Nat.strongRecOn with
  | ind n ih =>
    by_cases hlt : n < 10
    · rw [digitsOf_of_lt hlt]
      exact Nat.mul_le_mul_left 10 h
    · have hpow := ih (n / 10) (by omega) (by omega)
      rw [digitsOf_of_le (Nat.le_of_not_lt hlt), List.length_append, List.length_singleton]
      show Nat.pow 10 (digitsOf (n / 10)).length * 10 ≤ 10 * n
      omega

/-- A number is written with the characters of its digits. -/
theorem map_digit_digitsOf (n : Nat) : (digitsOf n).map Text.digit = Nat.toDigits 10 n := by
  have hchar {d : Nat} (hd : d < 10) : Text.digit d = d.digitChar := by
    revert d
    decide
  induction n using Nat.strongRecOn with
  | ind n ih =>
    by_cases h : n < 10
    · rw [digitsOf_of_lt h, Nat.toDigits_of_lt_base h, List.map_singleton, hchar h]
    · have hle := Nat.le_of_not_lt h
      rw [digitsOf_of_le hle, Nat.toDigits_of_base_le (by decide) hle, List.map_append,
        ih (n / 10) (by omega), List.map_singleton, hchar (Nat.mod_lt n (by decide))]

/-- A number is known by its digits. -/
theorem toString_inj {n m : Nat} : toString n = toString m ↔ n = m := by
  refine ⟨fun h => ?_, congrArg toString⟩
  have hdigits : Nat.toDigits 10 n = Nat.toDigits 10 m := by
    rw [← Nat.toList_repr, ← Nat.toList_repr]
    exact congrArg String.toList h
  rw [← ofDigits_digitsOf n, ← ofDigits_digitsOf m, digitsOf, digitsOf, hdigits]

/-- A whole number of 64 bits, with or without a sign, is read back. -/
theorem toInt?_ofInt {n : Int} (hlow : -9223372036854775808 ≤ n)
    (hhigh : n ≤ 18446744073709551615) : (ofInt n).toInt? = some n := by
  simp only [toInt?, ofInt, ofDigits_digitsOf, significandLimit]
  by_cases hneg : n < 0
  · rw [if_pos (decide_eq_true hneg), if_neg (by omega)]
    exact congrArg some (by omega)
  · rw [if_neg (by simpa using hneg), if_pos (by omega)]
    exact congrArg some (by omega)

end Numeral

end OrderDesk
