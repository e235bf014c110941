import Mathlib.Data.Nat.Cast.Order.Field
import OrderDesk.Decimal.Float
import OrderDesk.Proofs.Number.Nearest
import OrderDesk.Proofs.Text.Digits

/-!
# Which texts are read as decimals

A decimal has room for a whole part of less than 96 bits, while its places are rounded off where
they do not fit.  So a number in positional notation is read unless its whole part is too large; one
more unit has to fit as well, since the places may round up (`readFrom?_places`).  The whole part of
`Shortest.positional` is not above the number, so this is a bound on the number:
`ofPlain?_positional`.
-/

namespace OrderDesk

namespace Decimal

variable {negative : Bool} {m s : ℕ} {cs : List Char}

/-! ## Places -/

theorem ofParts?_isSome (hm : m < magnitudeLimit) (hs : s ≤ 28) :
    (ofParts? negative m s).isSome = true := by
  rw [ofParts?, dif_pos ⟨hm, hs⟩]
  rfl

theorem mapM_value?_isSome (h : ∀ c ∈ cs, (Text.value? c).isSome = true) :
    ∃ ds, cs.mapM Text.value? = some ds := by
  induction cs with
  | nil => exact ⟨[], rfl⟩
  | cons c cs ih =>
    obtain ⟨d, hd⟩ := Option.isSome_iff_exists.1 (h c (List.mem_cons_self ..))
    obtain ⟨ds, hds⟩ := ih fun c hc => h c (List.mem_cons_of_mem _ hc)
    exact ⟨d :: ds, by simp [List.mapM_cons, hd, hds]⟩

/-- Places are rounded off, if there is room for a carry or a place to give up for it. -/
theorem roundBy?_isSome (hcs : ∀ c ∈ cs, (Text.value? c).isSome = true) (hm : m < magnitudeLimit)
    (hs : s ≤ 28) (hroom : m + 1 < magnitudeLimit ∨ 0 < s) :
    (roundBy? negative m s cs).isSome = true := by
  have hdigits : ∀ c ∈ cs.filter (· ≠ '_'), (Text.value? c).isSome = true := fun c hc =>
    hcs c (List.mem_of_mem_filter hc)
  obtain ⟨ds, hds⟩ := mapM_value?_isSome hdigits
  have hrounded : (if 5 ≤ ds.headD 0 then m + 1 else m) ≤ m + 1 := by split <;> omega
  simp only [roundBy?, hds, Option.bind_eq_bind, Option.bind_some]
  generalize (if 5 ≤ ds.headD 0 then m + 1 else m) = rounded at hrounded ⊢
  split
  · next hfits => exact ofParts?_isSome hfits hs
  · next hfits =>
    have hscale : s ≠ 0 := by omega
    have hlimit : 10 ≤ magnitudeLimit := by decide
    rw [if_neg hscale]
    exact ofParts?_isSome (by omega) (by omega)

/-- Behind the point, digits are read or rounded off. -/
theorem readFrom?_places (hcs : ∀ c ∈ cs, (Text.value? c).isSome = true)
    (hm : m < magnitudeLimit) (hs : s ≤ 28) (hroom : m + 1 < magnitudeLimit ∨ 0 < s) :
    (readFrom? negative ⟨m, s, true, true⟩ cs).isSome = true := by
  induction cs generalizing m s with
  | nil => exact ofParts?_isSome hm hs
  | cons c cs ih =>
    obtain ⟨d, hd⟩ := Option.isSome_iff_exists.1 (hcs c (List.mem_cons_self ..))
    simp only [readFrom?, hd, if_true]
    split
    · exact roundBy?_isSome hcs hm hs hroom
    · split
      · next hfull hfits =>
        have hplaces := fun c hc => hcs c (List.mem_cons_of_mem _ hc)
        exact ih hplaces hfits (by omega) (Or.inr (by omega))
      · exact roundBy?_isSome hcs hm hs hroom

/-! ## Whole digits -/

theorem le_foldl_digits (ds : List ℕ) (m : ℕ) : m ≤ ds.foldl (fun v d => 10 * v + d) m := by
  induction ds generalizing m with
  | nil => exact Nat.le_refl m
  | cons d ds ih => exact Nat.le_trans (by omega) (ih (10 * m + d))

/-- Digits in front of the point are collected as long as the number fits. -/
theorem readFrom?_whole {ds : List ℕ} (hds : ∀ d ∈ ds, d < 10) (hne : ds ≠ []) (started : Bool)
    (hfits : ds.foldl (fun v d => 10 * v + d) m < magnitudeLimit) :
    readFrom? negative ⟨m, 0, false, started⟩ (ds.map Text.digit ++ cs) =
      readFrom? negative ⟨ds.foldl (fun v d => 10 * v + d) m, 0, false, true⟩ cs := by
  induction ds generalizing m started with
  | nil => exact absurd rfl hne
  | cons d ds ih =>
    have hd := Text.value?_digit (hds d (List.mem_cons_self ..))
    have hstep : 10 * m + d < magnitudeLimit := (le_foldl_digits ds _).trans_lt hfits
    have hread : readFrom? negative ⟨m, 0, false, started⟩ ((d :: ds).map Text.digit ++ cs) =
        readFrom? negative ⟨10 * m + d, 0, false, true⟩ (ds.map Text.digit ++ cs) := by
      simp [readFrom?, hd, hstep]
    rw [hread]
    by_cases hempty : ds = []
    · rw [hempty]
      rfl
    · exact ih (fun d hd => hds d (List.mem_cons_of_mem _ hd)) hempty true hfits

end Decimal

/-! ## Positional notation -/

namespace Shortest

/-- Whole digits, whose value is not above a number, and possibly a point and places. -/
def IsPositional (v : ℚ) (text : List Char) : Prop :=
  ∃ (ds : List ℕ) (rest : List Char), text = ds.map Text.digit ++ rest ∧ ds ≠ [] ∧
    (∀ d ∈ ds, d < 10) ∧ (Text.ofDigits 10 ds : ℚ) ≤ v ∧
    (rest = [] ∨ ∃ places, rest = '.' :: places ∧ ∀ c ∈ places, (Text.value? c).isSome = true)

theorem digitsOf_ne_nil (c : ℕ) : Numeral.digitsOf c ≠ [] := by
  intro hnil
  have hempty := Numeral.map_digit_digitsOf c
  rw [hnil] at hempty
  exact List.length_pos_iff.1 Nat.length_toDigits_pos hempty.symm

theorem lt_of_mem_replicate {n d : ℕ} (h : d ∈ List.replicate n 0) : d < 10 := by
  rw [List.eq_of_mem_replicate h]
  decide

/-- Without places, zeros stand behind the digits. -/
theorem isPositional_of_nonneg {c : ℕ} {k : ℤ} (hk : 0 ≤ k) :
    IsPositional (c * 10 ^ k) (positional c k) := by
  rw [positional, if_pos hk]
  by_cases hc : c = 0
  · refine ⟨[0], [], if_pos hc, by simp, by simp, ?_, Or.inl rfl⟩
    rw [hc, Nat.cast_zero, zero_mul]
    rfl
  · refine ⟨Numeral.digitsOf c ++ List.replicate k.toNat 0, [], ?_, ?_, ?_, ?_, Or.inl rfl⟩
    · rw [if_neg hc, ← Numeral.map_digit_digitsOf, List.map_append, List.map_replicate,
        List.append_nil]
      rfl
    · exact List.append_ne_nil_of_left_ne_nil (digitsOf_ne_nil c) _
    · exact List.forall_mem_append.2
        ⟨fun d => Numeral.lt_of_mem_digitsOf, fun d => lt_of_mem_replicate⟩
    · rw [Text.ofDigits_append, Text.ofDigits_replicate_zero, Numeral.ofDigits_digitsOf,
        List.length_replicate, Nat.add_zero, Nat.pow_eq]
      push_cast
      rw [← zpow_natCast, Int.toNat_of_nonneg hk]

/-- With places, the digits in front of them have the value of the number rounded down. -/
theorem isPositional_of_neg {c : ℕ} {k : ℤ} (hk : ¬ 0 ≤ k) :
    IsPositional (c * 10 ^ k) (positional c k) := by
  let places := (-k).toNat
  let padded := List.replicate (places + 1 - (Numeral.digitsOf c).length) 0 ++ Numeral.digitsOf c
  have hpadded : padded.map Text.digit =
      List.replicate (places + 1 - (Nat.toDigits 10 c).length) '0' ++ Nat.toDigits 10 c := by
    rw [← Numeral.map_digit_digitsOf, List.length_map, List.map_append, List.map_replicate]
    rfl
  have hlength : places < padded.length := by
    rw [List.length_append, List.length_replicate]
    omega
  have hlt : ∀ d ∈ padded, d < 10 := List.forall_mem_append.2
    ⟨fun d => lt_of_mem_replicate, fun d => Numeral.lt_of_mem_digitsOf⟩
  rw [positional, if_neg hk]
  dsimp only
  rw [← hpadded, List.length_map, ← List.map_take, ← List.map_drop]
  refine ⟨padded.take (padded.length - places), _, rfl, ?_, ?_, ?_, ?_⟩
  · exact fun h => absurd (congrArg List.length h) (by simp; omega)
  · exact fun d hd => hlt d (List.mem_of_mem_take hd)
  · have hvalue : Text.ofDigits 10 padded = c := by
      rw [Text.ofDigits_append, Text.ofDigits_replicate_zero, Numeral.ofDigits_digitsOf,
        Nat.zero_mul, Nat.zero_add]
    have hsplit := Text.ofDigits_append 10 (padded.take (padded.length - places))
      (padded.drop (padded.length - places))
    have hplaces : padded.length - (padded.length - places) = places := by omega
    rw [List.take_append_drop, hvalue, List.length_drop, hplaces, Nat.pow_eq] at hsplit
    have hpow : (10 : ℚ) ^ k = (10 ^ places)⁻¹ := by
      have hneg : -((-k).toNat : ℤ) = k := by omega
      rw [← zpow_natCast, ← zpow_neg, hneg]
    rw [hpow, ← div_eq_mul_inv, le_div_iff₀ (by positivity)]
    exact_mod_cast hsplit ▸ Nat.le_add_right _ _
  · split
    · exact Or.inl rfl
    · refine Or.inr ⟨_, rfl, fun ch hch => ?_⟩
      have hmem := (List.dropWhile_sublist _).mem (List.mem_reverse.1 hch)
      obtain ⟨d, hd, rfl⟩ := List.mem_map.1 (List.mem_reverse.1 hmem)
      rw [Text.value?_digit (hlt d (List.mem_of_mem_drop hd))]
      rfl

theorem isPositional_positional (c : ℕ) (k : ℤ) : IsPositional (c * 10 ^ k) (positional c k) := by
  by_cases hk : 0 ≤ k
  · exact isPositional_of_nonneg hk
  · exact isPositional_of_neg hk

end Shortest

namespace Decimal

/-- **A number in positional notation is read if its whole part leaves room for one more.** -/
theorem ofPlain?_positional (negative : Bool) {c : ℕ} {k : ℤ}
    (h : (c : ℚ) * 10 ^ k < 2 ^ 96 - 1) :
    (ofPlain? ((if negative then ['-'] else []) ++ Shortest.positional c k)).isSome = true := by
  obtain ⟨ds, rest, htext, hne, hlt, hvalue, hrest⟩ := Shortest.isPositional_positional c k
  have hroom : Text.ofDigits 10 ds + 1 < magnitudeLimit := by
    have hcast : (Text.ofDigits 10 ds : ℚ) < 2 ^ 96 - 1 := lt_of_le_of_lt hvalue h
    have hnat : ((Text.ofDigits 10 ds + 1 : ℕ) : ℚ) < (2 ^ 96 : ℕ) := by
      push_cast
      linarith
    exact Nat.cast_lt.1 hnat
  have hread (negative : Bool) :
      (readFrom? negative ⟨0, 0, false, false⟩ (Shortest.positional c k)).isSome = true := by
    rw [htext, readFrom?_whole hlt hne false (Nat.lt_of_succ_lt hroom)]
    rcases hrest with rfl | ⟨places, rfl, hplaces⟩
    · exact ofParts?_isSome (Nat.lt_of_succ_lt hroom) (Nat.zero_le _)
    · have hpoint : readFrom? negative ⟨Text.ofDigits 10 ds, 0, false, true⟩ ('.' :: places) =
          readFrom? negative ⟨Text.ofDigits 10 ds, 0, true, true⟩ places := rfl
      exact hpoint ▸ readFrom?_places hplaces (Nat.lt_of_succ_lt hroom) (Nat.zero_le _)
        (Or.inl hroom)
  cases negative with
  | true => exact hread true
  | false =>
    -- A sign is looked for first, and a digit is none.
    obtain ⟨d, ds, rfl⟩ := List.exists_cons_of_ne_nil hne
    have hsign := Text.digit_ne_sign (hlt d (List.mem_cons_self ..))
    have hplain : ofPlain? (Shortest.positional c k) =
        readFrom? false ⟨0, 0, false, false⟩ (Shortest.positional c k) := by
      rw [htext, List.map_cons, List.cons_append]
      unfold ofPlain?
      split
      · next heq => exact absurd (List.cons.inj heq).1 hsign.1
      · next heq => exact absurd (List.cons.inj heq).1 hsign.2
      · rfl
    rw [if_neg Bool.false_ne_true, List.nil_append, hplain]
    exact hread false

end Decimal

end OrderDesk
