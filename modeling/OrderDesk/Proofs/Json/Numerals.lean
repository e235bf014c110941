import OrderDesk.Json.Numeral
import OrderDesk.Proofs.Number.Bits
import OrderDesk.Proofs.Number.Shortest
import OrderDesk.Proofs.Text.Digits

/-!
# Floating-point numbers as numerals

A floating-point number is written with the digits of its shortest decimal, and a numeral is read
with one or two roundings, so a number may be read back as its neighbour.  What stands in a numeral
is an exact number (`Numeral.exact`): for a floating-point number this is the shortest decimal
(`exact_ofDigits`), and reading never takes more digits than there are (`collectPlaces_le`).

The numbers below `2 ^ 96` are read back as numbers below `2 ^ 96` (`value?_ofFinite`).  The largest
of them has to be tried, as two roundings could lead it across; for the others one of the two
factors is exact, and half a unit less than what is left is enough (`times_power_le`).
-/

namespace OrderDesk.Numeral

open Binary64 (Magnitude Finite IsNearest nearest leastExponent)

/-! ## What stands in a numeral -/

/-- The number `0.ds`. -/
def fraction (ds : List ℕ) : ℚ := Text.ofDigits 10 ds / 10 ^ ds.length

/-- The exponent of a numeral, zero if there is none. -/
def shift (n : Numeral) : ℤ :=
  match n.exponent with
  | none => 0
  | some (negative, ds) => if negative then -(Text.ofDigits 10 ds : ℤ) else Text.ofDigits 10 ds

/-- The number that a numeral stands for, without its sign. -/
def exact (n : Numeral) : ℚ :=
  (Text.ofDigits 10 n.whole + fraction (n.places.getD [])) * 10 ^ n.shift

variable {negative : Bool} {ds : List ℕ} {point : ℤ}

@[simp] theorem fraction_nil : fraction [] = 0 := by simp [fraction]

theorem fraction_append (ds es : List ℕ) :
    fraction (ds ++ es) = (Text.ofDigits 10 ds + fraction es) / 10 ^ ds.length := by
  rw [fraction, fraction, Text.ofDigits_append, List.length_append, Nat.pow_eq]
  push_cast
  rw [pow_add]
  field_simp

@[simp] theorem fraction_singleton_zero : fraction [0] = 0 := by
  simp [fraction, Text.ofDigits]

/-- Zeros at the end do not matter. -/
theorem fraction_strip (ds : List ℕ) :
    fraction (ds.reverse.dropWhile (· = 0)).reverse = fraction ds := by
  induction ds using List.reverseRecOn with
  | nil => rfl
  | append_singleton ds d ih =>
    rw [List.reverse_append, List.reverse_singleton, List.singleton_append]
    by_cases hd : d = 0
    · have hzero : decide (d = 0) = true := decide_eq_true hd
      rw [List.dropWhile_cons, if_pos hzero, ih, fraction_append, hd, fraction_singleton_zero,
        add_zero, fraction]
    · rw [List.dropWhile_cons_of_neg (by simpa using hd), List.reverse_cons, List.reverse_reverse]

theorem shift_ofDigits_of_ne (h : ¬ (0 < point ∧ point ≤ 16)) (h' : ¬ (-5 < point ∧ point ≤ 0)) :
    (ofDigits negative ds point).shift = point - 1 := by
  simp only [ofDigits, if_neg h, if_neg h', shift, ofDigits_digitsOf, decide_eq_true_eq]
  split <;> omega

theorem fraction_take_drop (n : ℕ) (ds : List ℕ) :
    fraction ds =
      (Text.ofDigits 10 (ds.take n) + fraction (ds.drop n)) / 10 ^ (ds.take n).length := by
  rw [← fraction_append, List.take_append_drop]

/-- With the point among the digits or behind them, zeros fill the whole part. -/
theorem exact_ofDigits_of_pos (h : 0 < point ∧ point ≤ 16) :
    (ofDigits negative ds point).exact = fraction ds * 10 ^ point := by
  obtain ⟨w, rfl⟩ := Int.eq_ofNat_of_zero_le h.1.le
  have hplaces : fraction (if (ds.drop w).isEmpty then [0] else ds.drop w) =
      fraction (ds.drop w) := by
    split
    · next hempty => rw [List.isEmpty_iff.1 hempty, fraction_nil, fraction_singleton_zero]
    · rfl
  simp only [exact, ofDigits, if_pos h, shift, zpow_zero, mul_one, Int.toNat_natCast,
    Option.getD_some, zpow_natCast, hplaces, Text.ofDigits_append, Text.ofDigits_replicate_zero,
    List.length_replicate, Nat.pow_eq, fraction_take_drop w ds, List.length_take]
  rcases le_total w ds.length with hle | hle
  · rw [Nat.sub_eq_zero_of_le hle, min_eq_left hle]
    push_cast
    field_simp
    ring
  · obtain ⟨k, rfl⟩ := Nat.exists_eq_add_of_le hle
    rw [min_eq_right hle, Nat.add_sub_cancel_left, List.drop_eq_nil_of_le hle, fraction_nil]
    push_cast
    rw [pow_add]
    field_simp
    ring

/-- With the point in front of the digits, zeros stand between. -/
theorem exact_ofDigits_of_nonpos (h : -5 < point ∧ point ≤ 0) :
    (ofDigits negative ds point).exact = fraction ds * 10 ^ point := by
  have hwhole : ¬ (0 < point ∧ point ≤ 16) := by omega
  have hpow : (10 : ℚ) ^ point = (10 ^ point.natAbs)⁻¹ := by
    have hneg : -(point.natAbs : ℤ) = point := by omega
    rw [← zpow_natCast, ← zpow_neg, hneg]
  simp only [exact, ofDigits, if_neg hwhole, if_pos h, shift, zpow_zero, mul_one,
    Option.getD_some, fraction_append, Text.ofDigits_replicate_zero, List.length_replicate, hpow]
  simp [Text.ofDigits, div_eq_mul_inv]

/-- Otherwise the point stands behind the first digit, and the exponent says where it belongs. -/
theorem exact_ofDigits_of_ne (h : ¬ (0 < point ∧ point ≤ 16)) (h' : ¬ (-5 < point ∧ point ≤ 0)) :
    (ofDigits negative ds point).exact = fraction ds * 10 ^ point := by
  have hplaces :
      (if (ds.drop 1).isEmpty then none else some (ds.drop 1)).getD [] = ds.drop 1 := by
    split
    · next hempty => exact (List.isEmpty_iff.1 hempty).symm
    · rfl
  have hpow : (10 : ℚ) ^ point = 10 ^ (point - 1) * 10 := by
    rw [← zpow_add_one₀ (by norm_num), sub_add_cancel]
  rw [exact, shift_ofDigits_of_ne h h']
  simp only [ofDigits, if_neg h, if_neg h', hplaces, fraction_take_drop 1 ds, hpow]
  cases ds with
  | nil => simp
  | cons d ds =>
    simp only [List.take_succ_cons, List.take_zero, List.length_singleton, pow_one]
    ring

/-- A numeral written for some digits stands for the number with these digits. -/
theorem exact_ofDigits (negative : Bool) (ds : List ℕ) (point : ℤ) :
    (ofDigits negative ds point).exact = fraction ds * 10 ^ point := by
  by_cases hpos : 0 < point ∧ point ≤ 16
  · exact exact_ofDigits_of_pos hpos
  · by_cases hnonpos : -5 < point ∧ point ≤ 0
    · exact exact_ofDigits_of_nonpos hnonpos
    · exact exact_ofDigits_of_ne hpos hnonpos

/-! ## Collecting digits -/

/-- Whole digits that fit are all taken. -/
theorem collectWhole_eq (h : Text.ofDigits 10 ds ≤ significandLimit) :
    collectWhole ds = (Text.ofDigits 10 ds, 0, false) := by
  induction ds using List.reverseRecOn with
  | nil => rfl
  | append_singleton ds d ih =>
    rw [Text.ofDigits_append_singleton] at h
    have hds := ih (by omega)
    rw [collectWhole] at hds ⊢
    rw [List.foldl_append, hds, Text.ofDigits_append_singleton]
    simp only [List.foldl_cons, List.foldl_nil, Bool.false_or, decide_eq_true_eq]
    rw [if_neg (Nat.not_lt.2 h)]

/-- What is collected from places: as long as none is left out, all of them. -/
structure Collected (start : ℕ) (ds : List ℕ) (r : ℕ × ℕ × Bool) : Prop where
  fits : r.1 ≤ significandLimit
  value_le : (r.1 : ℚ) / 10 ^ r.2.1 ≤ start + fraction ds
  taken_eq : r.2.2 = false → r.2.1 = ds.length
  value_eq : r.2.2 = false → (r.1 : ℚ) / 10 ^ r.2.1 = start + fraction ds

theorem fraction_append_singleton (ds : List ℕ) (d : ℕ) :
    fraction (ds ++ [d]) = fraction ds + d / 10 ^ (ds.length + 1) := by
  have hone : fraction [d] = d / 10 := by simp [fraction, Text.ofDigits]
  rw [fraction_append, hone, fraction, pow_succ]
  field_simp

theorem collected (start : ℕ) (h : start ≤ significandLimit) (ds : List ℕ) :
    Collected start ds (ds.foldl collectPlace (start, 0, false)) := by
  induction ds using List.reverseRecOn with
  | nil => exact ⟨h, by simp, fun _ => rfl, fun _ => by simp⟩
  | append_singleton ds d ih =>
    have hgrow : fraction ds ≤ fraction (ds ++ [d]) := by
      rw [fraction_append_singleton]
      exact le_add_of_nonneg_right (by positivity)
    rw [List.foldl_append, List.foldl_cons, List.foldl_nil]
    generalize ds.foldl collectPlace (start, 0, false) = r at ih ⊢
    obtain ⟨significand, taken, full⟩ := r
    obtain ⟨hfits, hle, htaken, heq⟩ := ih
    rw [collectPlace]
    split
    · exact ⟨hfits, hle.trans (by linarith), fun hfull => absurd hfull (by simp),
        fun hfull => absurd hfull (by simp)⟩
    · next hroom =>
      simp only [Bool.or_eq_true, decide_eq_true_eq, not_or, Bool.not_eq_true, not_lt] at hroom
      have hvalue : ((10 * significand + d : ℕ) : ℚ) / 10 ^ (taken + 1) =
          start + fraction (ds ++ [d]) := by
        rw [fraction_append_singleton, ← add_assoc, ← heq hroom.1, ← htaken hroom.1, pow_succ]
        push_cast
        field_simp
      refine ⟨hroom.2, hvalue.le, fun _ => ?_, fun _ => hvalue⟩
      rw [List.length_append, List.length_singleton, ← htaken hroom.1]

/-- The places that are taken make no more than what is there. -/
theorem collectPlaces_le {start : ℕ} (h : start ≤ significandLimit) (ds : List ℕ) :
    (collectPlaces start ds).1 ≤ significandLimit ∧
      ((collectPlaces start ds).1 : ℚ) / 10 ^ (collectPlaces start ds).2 ≤
        start + fraction ds :=
  ⟨(collected start h ds).fits, (collected start h ds).value_le⟩

/-! ## Putting a number together -/

theorem isNearest_power (e : ℕ) : IsNearest (10 ^ e) (power e) := by
  have hcast := IsNearest.natCast (Nat.pow 10 e)
  rwa [Nat.pow_eq, Nat.cast_pow, Nat.cast_ofNat] at hcast

theorem one_le_power (e : ℕ) : 1 ≤ (power e).value :=
  (isNearest_power e).one_le (one_le_pow₀ (by norm_num))

/-- Small powers of ten are not rounded up: five to such a power has 53 bits at most. -/
theorem power_le {e : ℕ} (h : e < 23) : (power e).value ≤ 10 ^ e := by
  have hfive : 5 ^ e ≤ 2 ^ 53 := (Nat.pow_le_pow_right (by decide) (by omega)).trans
    (by decide : 5 ^ 22 ≤ 2 ^ 53)
  have hsplit : (10 : ℚ) ^ e = (5 ^ e : ℕ) * 2 ^ (e : ℤ) := by
    rw [zpow_natCast, Nat.cast_pow, Nat.cast_ofNat, ← mul_pow]
    norm_num
  have hle := (isNearest_power e).le hfive (by unfold leastExponent; omega) hsplit.le
  rwa [← hsplit] at hle

/-- Small whole numbers are not rounded up. -/
theorem value_nearest_le_self {n : ℕ} (h : n ≤ 2 ^ 53) : (nearest n 1).value ≤ n := by
  have hle := (IsNearest.natCast n).le (e := 0) h (by decide) (by rw [zpow_zero, mul_one])
  rwa [zpow_zero, mul_one] at hle

/-- Dividing leads to a number that is not larger. -/
theorem scaleDown_spec {x : Magnitude} (fuel : ℕ) (e : ℤ) (hx : x.Canonical)
    (hle : x.value ≤ 2 ^ (64 : ℤ)) :
    (scaleDown fuel x e).Canonical ∧ (scaleDown fuel x e).value ≤ 2 ^ (64 : ℤ) := by
  induction fuel generalizing x e with
  | zero => exact ⟨hx, hle⟩
  | succ fuel ih =>
    have hquotient (n : ℕ) :
        (x.dividedBy (power n)).Canonical ∧ (x.dividedBy (power n)).value ≤ 2 ^ (64 : ℤ) := by
      have hone := one_le_power n
      have hnearest := x.isNearest_dividedBy (by linarith : 0 < (power n).value)
      refine ⟨hnearest.canonical, hnearest.le_two_zpow (by decide) ?_⟩
      exact (div_le_self x.value_nonneg hone).trans hle
    rw [scaleDown]
    split
    · exact hquotient _
    · split
      · exact ⟨hx, hle⟩
      · exact ih _ (hquotient 308).1 (hquotient 308).2

theorem value_nearest_le {n : ℕ} (h : n ≤ significandLimit) :
    (nearest n 1).value ≤ 2 ^ (64 : ℤ) := by
  refine (IsNearest.natCast n).le_two_zpow (by decide) ?_
  have hlt : n < 2 ^ 64 := Nat.lt_succ_of_le h
  exact_mod_cast hlt.le

/-- One of the two factors is exact, so the product is too large by one part in `2 ^ 53` at most. -/
theorem times_power_le {s e : ℕ} (h : (s : ℚ) * 10 ^ e < 2 ^ 96) :
    (nearest s 1).value * (power e).value ≤ s * 10 ^ e + s * 10 ^ e / 2 ^ 53 := by
  rcases Nat.eq_zero_or_pos s with rfl | hs
  · have hzero : (nearest 0 1).value = 0 := by simp [nearest, Magnitude.value]
    rw [hzero, zero_mul, Nat.cast_zero, zero_mul, zero_div, add_zero]
  rcases Nat.lt_or_ge e 23 with he | he
  · have hnear := (IsNearest.natCast s).le_mul (Nat.one_le_cast.2 hs)
    calc (nearest s 1).value * (power e).value
        ≤ (s + s / 2 ^ 53) * 10 ^ e :=
          mul_le_mul hnear (power_le he) (power e).value_nonneg (by positivity)
      _ = s * 10 ^ e + s * 10 ^ e / 2 ^ 53 := by ring
  · have hsmall : s ≤ 2 ^ 53 := by
      have hlarge : (10 : ℚ) ^ 23 ≤ 10 ^ e := pow_le_pow_right₀ (by norm_num) he
      have hmul : (s : ℚ) * 10 ^ 23 ≤ s * 10 ^ e := mul_le_mul_of_nonneg_left hlarge (by positivity)
      have hcast : (s : ℚ) ≤ (2 ^ 53 : ℕ) := by
        push_cast
        linarith
      exact Nat.cast_le.1 hcast
    have hnear := (isNearest_power e).le_mul (one_le_pow₀ (by norm_num))
    calc (nearest s 1).value * (power e).value
        ≤ s * (10 ^ e + 10 ^ e / 2 ^ 53) :=
          mul_le_mul (value_nearest_le_self hsmall) hnear (power e).value_nonneg (by positivity)
      _ = s * 10 ^ e + s * 10 ^ e / 2 ^ 53 := by ring

/-- A number that leaves half a unit for each rounding is put together, and stays below `2 ^ 96`. -/
theorem assemble?_of_le {s : ℕ} {e : ℤ} (hs : s ≤ significandLimit)
    (h : (s : ℚ) * 10 ^ e ≤ 2 ^ 96 - 3 * 2 ^ 42) :
    ∃ x, assemble? s e = some x ∧ x.Canonical ∧ x.value < 2 ^ 96 := by
  have hnearest := IsNearest.natCast s
  have hsmall := value_nearest_le hs
  unfold assemble?
  dsimp only
  split
  · have hscaled := scaleDown_spec 4 e hnearest.canonical hsmall
    exact ⟨_, rfl, hscaled.1, hscaled.2.trans_lt (by norm_num)⟩
  next hneg =>
  obtain ⟨n, rfl⟩ := Int.eq_ofNat_of_zero_le (not_lt.1 hneg)
  rw [zpow_natCast] at h
  split
  · have hexact := times_power_le (lt_of_le_of_lt h (by norm_num))
    have hproduct := (nearest s 1).isNearest_times (power n)
    have hvalue : ((nearest s 1).times (power n)).value ≤ (2 ^ 53 - 1 : ℕ) * 2 ^ (43 : ℤ) := by
      refine hproduct.le_of_lt_half (by norm_num) (by norm_num) (by decide) ?_
      norm_num at h ⊢
      linarith
    have hlt : ((nearest s 1).times (power n)).value < 2 ^ 96 := hvalue.trans_lt (by norm_num)
    rw [Int.toNat_natCast, if_pos (hproduct.canonical.isFinite hlt.le)]
    exact ⟨_, rfl, hproduct.canonical, hlt⟩
  · next hlarge =>
    -- A significand that is not zero would make the number too large.
    have hzero : s = 0 := by
      by_contra hne
      have hone : (1 : ℚ) ≤ s := Nat.one_le_cast.2 (Nat.pos_of_ne_zero hne)
      have hn : 29 ≤ n := by unfold powerLimit at hlarge; omega
      have hpow : (10 : ℚ) ^ 29 ≤ 10 ^ n := pow_le_pow_right₀ (by norm_num) hn
      have hmul : (1 : ℚ) * 10 ^ n ≤ s * 10 ^ n := mul_le_mul_of_nonneg_right hone (by positivity)
      linarith
    rw [if_pos hzero]
    exact ⟨_, rfl, hnearest.canonical, hsmall.trans_lt (by norm_num)⟩

/-! ## Reading a numeral -/

/-- The exponent of a numeral may be looked at, or the numeral is zero. -/
def HasShift (n : Numeral) : Prop := n.shift ≤ exponentLimit ∨ n.exact = 0

theorem ofDigits_le_significandLimit (hlength : ds.length ≤ 16) (hdigits : ∀ d ∈ ds, d < 10) :
    Text.ofDigits 10 ds ≤ significandLimit := by
  have hlt := Text.ofDigits_lt hdigits
  have hpow : Nat.pow 10 ds.length ≤ Nat.pow 10 16 := Nat.pow_le_pow_right (by decide) hlength
  have hlimit : Nat.pow 10 16 ≤ significandLimit := by decide
  omega

/-- A numeral with few whole digits that leaves half a unit for each rounding is read, and as a
number below `2 ^ 96`. -/
theorem magnitude?_of_le {n : Numeral} (hlength : n.whole.length ≤ 16)
    (hdigits : ∀ d ∈ n.whole, d < 10) (hshift : n.HasShift)
    (h : n.exact ≤ 2 ^ 96 - 3 * 2 ^ 42) :
    ∃ x, n.magnitude? = some x ∧ x.Canonical ∧ x.value < 2 ^ 96 := by
  have hfits := ofDigits_le_significandLimit hlength hdigits
  obtain ⟨hsignificand, hvalue⟩ := collectPlaces_le hfits (n.places.getD [])
  simp only [magnitude?, collectWhole_eq hfits]
  generalize collectPlaces (Text.ofDigits 10 n.whole) (n.places.getD []) = r
    at hsignificand hvalue ⊢
  obtain ⟨s, taken⟩ := r
  have hexact : (s : ℚ) * 10 ^ (n.shift - taken) ≤ n.exact := by
    rw [zpow_sub₀ (by norm_num), zpow_natCast, exact, mul_div_assoc', mul_div_right_comm]
    exact mul_le_mul_of_nonneg_right hvalue (by positivity)
  have hassemble := assemble?_of_le hsignificand (hexact.trans h)
  cases hexponent : n.exponent with
  | none =>
    have hzero : n.shift = 0 := by rw [shift, hexponent]
    rw [hzero] at hassemble
    simpa using hassemble
  | some p =>
    obtain ⟨negative, ds⟩ := p
    have heq : n.shift = if negative then -(Text.ofDigits 10 ds : ℤ) else Text.ofDigits 10 ds := by
      rw [shift, hexponent]
    dsimp only
    split
    · have hsum : (if negative then ((0 : ℕ) : ℤ) - taken - Text.ofDigits 10 ds
          else ((0 : ℕ) : ℤ) - taken + Text.ofDigits 10 ds) = n.shift - taken := by
        rw [heq]
        split <;> omega
      rw [hsum]
      exact hassemble
    · next hlimit =>
      have hskipped : ¬ (s ≠ 0 ∧ negative = false) := by
        rintro ⟨hne, rfl⟩
        rw [if_neg Bool.false_ne_true] at heq
        rcases hshift with hshift | hzero
        · omega
        · rw [hzero] at hexact
          have hpos : (0 : ℚ) < s * 10 ^ (n.shift - taken) :=
            mul_pos (Nat.cast_pos.2 (Nat.pos_of_ne_zero hne)) (by positivity)
          linarith
      rw [if_neg hskipped]
      refine ⟨_, rfl, (IsNearest.natCast 0).canonical, ?_⟩
      exact (value_nearest_le (Nat.zero_le _)).trans_lt (by norm_num)

/-! ## Floating-point numbers -/

theorem length_whole_ofDigits (negative : Bool) (ds : List ℕ) (point : ℤ) :
    (ofDigits negative ds point).whole.length ≤ 16 := by
  unfold ofDigits
  split
  · simp; omega
  · split
    · simp
    · simp

theorem lt_of_mem_whole_ofDigits (negative : Bool) (point : ℤ) (h : ∀ d ∈ ds, d < 10) :
    ∀ d ∈ (ofDigits negative ds point).whole, d < 10 := by
  unfold ofDigits
  split
  · refine List.forall_mem_append.2 ⟨fun d hd => h d (List.mem_of_mem_take hd), fun d hd => ?_⟩
    rw [List.eq_of_mem_replicate hd]
    decide
  · split
    · simp
    · exact fun d hd => h d (List.mem_of_mem_take hd)

theorem shift_ofDigits_le (negative : Bool) (ds : List ℕ) (point : ℤ) :
    (ofDigits negative ds point).shift ≤ max 0 (point - 1) := by
  by_cases hwhole : 0 < point ∧ point ≤ 16
  · rw [ofDigits, if_pos hwhole]
    exact le_max_left _ _
  · by_cases hzeros : -5 < point ∧ point ≤ 0
    · rw [ofDigits, if_neg hwhole, if_pos hzeros]
      exact le_max_left _ _
    · rw [shift_ofDigits_of_ne hwhole hzeros]
      exact le_max_right _ _

theorem toInt?_ofDigits (negative : Bool) (ds : List ℕ) (point : ℤ) :
    (ofDigits negative ds point).toInt? = none := by
  unfold ofDigits
  split
  · rfl
  · split
    · rfl
    · dsimp only
      cases (ds.drop 1).isEmpty with
      | true => rfl
      | false => rfl

theorem fraction_digitsOf (c : ℕ) : fraction (digitsOf c) = c / 10 ^ (digitsOf c).length := by
  rw [fraction, ofDigits_digitsOf]

/-- The digits of a decimal that leaves half a unit for each rounding are read. -/
theorem magnitude?_decimal (negative : Bool) {c : ℕ} {k : ℤ}
    (h : (c : ℚ) * 10 ^ k ≤ 2 ^ 96 - 3 * 2 ^ 42) :
    ∃ x, (ofDigits negative ((digitsOf c).reverse.dropWhile (· = 0)).reverse
        ((digitsOf c).length + k)).magnitude? = some x ∧ x.Canonical ∧ x.value < 2 ^ 96 := by
  have hexact : (ofDigits negative ((digitsOf c).reverse.dropWhile (· = 0)).reverse
      ((digitsOf c).length + k)).exact = c * 10 ^ k := by
    rw [exact_ofDigits, fraction_strip, fraction_digitsOf, zpow_add₀ (by norm_num), zpow_natCast]
    field_simp
  refine magnitude?_of_le (length_whole_ofDigits _ _ _) ?_ ?_ (hexact.trans_le h)
  · refine lt_of_mem_whole_ofDigits _ _ fun d hd => ?_
    have hmem := (List.dropWhile_sublist _).mem (List.mem_reverse.1 hd)
    exact lt_of_mem_digitsOf (List.mem_reverse.1 hmem)
  · rcases Nat.eq_zero_or_pos c with rfl | hc
    · exact Or.inr (by rw [hexact, Nat.cast_zero, zero_mul])
    -- The first digit alone is not above the number.
    have hfirst : (10 : ℚ) ^ (((digitsOf c).length : ℤ) + k) ≤ 10 * (c * 10 ^ k) := by
      have hdigits : (10 : ℚ) ^ (digitsOf c).length ≤ 10 * c := by
        exact_mod_cast pow_length_digitsOf_le hc
      rw [zpow_add₀ (by norm_num), zpow_natCast, ← mul_assoc]
      exact mul_le_mul_of_nonneg_right hdigits (by positivity)
    have hlt : (10 : ℚ) ^ (((digitsOf c).length : ℤ) + k) < 10 ^ (30 : ℤ) := by
      norm_num at h ⊢
      linarith
    have hpoint := (zpow_lt_zpow_iff_right₀ (by norm_num)).1 hlt
    refine Or.inl ((shift_ofDigits_le _ _ _).trans ?_)
    unfold exponentLimit
    omega

theorem negative_ofDigits (negative : Bool) (ds : List ℕ) (point : ℤ) :
    (ofDigits negative ds point).negative = negative := by
  unfold ofDigits
  split
  · rfl
  · split <;> rfl

/-- The largest number below `2 ^ 96` is read back as itself. -/
theorem magnitude?_largest (negative : Bool) :
    (ofFinite ⟨negative, 2 ^ 53 - 1, 43⟩).magnitude? = some ⟨2 ^ 53 - 1, 43⟩ := by
  cases negative with
  | false => decide +kernel
  | true => decide +kernel

/-- **A floating-point number below `2 ^ 96` is read back as one.** -/
theorem value?_ofFinite {x : Finite} (hx : x.magnitude.Canonical)
    (hcarry : x.magnitude.mantissa < 2 ^ 53) (h : x.magnitude.value < 2 ^ 96) :
    ∃ y : Magnitude, (ofFinite x).value? = some (.floating (Binary64.ofFinite ⟨x.negative, y⟩)) ∧
      y.Canonical ∧ y.value < 2 ^ 96 := by
  obtain ⟨negative, mantissa, exponent⟩ := x
  have hread : (ofFinite ⟨negative, mantissa, exponent⟩).toInt? = none ∧
      (ofFinite ⟨negative, mantissa, exponent⟩).negative = negative ∧
      ∃ y, (ofFinite ⟨negative, mantissa, exponent⟩).magnitude? = some y ∧ y.Canonical ∧
        y.value < 2 ^ 96 := by
    by_cases hzero : mantissa = 0
    · have heq : ofFinite ⟨negative, mantissa, exponent⟩ = ⟨negative, [0], some [0], none⟩ :=
        if_pos hzero
      have hexact : exact ⟨negative, [0], some [0], none⟩ = 0 := by
        simp [exact, Text.ofDigits]
      rw [heq]
      refine ⟨rfl, rfl, magnitude?_of_le (by simp) (by simp) (Or.inr hexact) ?_⟩
      rw [hexact]
      norm_num
    · have heq : ofFinite ⟨negative, mantissa, exponent⟩ = ofDigits negative _ _ := if_neg hzero
      have hmagnitude : ∃ y, (ofFinite ⟨negative, mantissa, exponent⟩).magnitude? = some y ∧
          y.Canonical ∧ y.value < 2 ^ 96 := by
        rcases (hx.half_unit_le hcarry h).2 with hlargest | hhalf
        · cases hlargest
          exact ⟨_, magnitude?_largest negative, hx, h⟩
        · rw [heq]
          exact magnitude?_decimal negative ((Shortest.decimal_le _ mantissa exponent).trans hhalf)
      refine ⟨?_, ?_, hmagnitude⟩
      · rw [heq, toInt?_ofDigits]
      · rw [heq, negative_ofDigits]
  obtain ⟨hint, hnegative, y, hy, hcanonical, hvalue⟩ := hread
  refine ⟨y, ?_, hcanonical, hvalue⟩
  rw [value?, hint, hy, hnegative]
  rfl

end OrderDesk.Numeral
