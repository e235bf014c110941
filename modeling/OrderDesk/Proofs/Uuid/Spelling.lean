import Mathlib.Algebra.GroupWithZero.Nat
import OrderDesk.Uuid.Spelling

/-!
# Identifiers that are written and read again

An identifier is read back from its hyphenated form (`Uuid.ofAnySpelling?_text`).  The form is 36
characters long, so no other spelling is taken for it.
-/

namespace OrderDesk.Uuid

open Text (digit)

theorem takeHex_append {ds : List Nat} (hlt : ∀ d ∈ ds, d < 16) (s : List Char) :
    takeHex ds.length (ds.map digit ++ s) = some (ds, s) := by
  induction ds with
  | nil => rfl
  | cons d ds ih =>
    obtain ⟨hd, hds⟩ := List.forall_mem_cons.1 hlt
    rw [List.map_cons, List.cons_append, List.length_cons, takeHex, Text.hexValue?_digit hd,
      ih hds]
    rfl

/-- Digits are read as far as the size of their group goes. -/
theorem takeHex_take {n : Nat} {ds : List Nat} (hlt : ∀ d ∈ ds, d < 16) (hle : n ≤ ds.length)
    (s : List Char) : takeHex n ((ds.map digit).take n ++ s) = some (ds.take n, s) := by
  have htake := @takeHex_append (ds.take n) (fun d hd => hlt d (List.mem_of_mem_take hd)) s
  rw [List.length_take, Nat.min_eq_left hle, List.map_take] at htake
  exact htake

/-- Groups of digits are read one by one. -/
theorem takeGroups_hyphenate {sizes : List Nat} {ds : List Nat} (hlt : ∀ d ∈ ds, d < 16)
    (hlength : ds.length = sizes.sum) :
    takeGroups sizes (hyphenate sizes (ds.map digit)) = some (ds, []) := by
  induction sizes generalizing ds with
  | nil =>
    rw [List.eq_nil_of_length_eq_zero hlength]
    rfl
  | cons n sizes ih =>
    rw [List.sum_cons] at hlength
    have hle : n ≤ ds.length := by omega
    cases sizes with
    | nil =>
      have hall : ds.take n = ds := List.take_of_length_le (by simpa using Nat.le_of_eq hlength)
      have htake := takeHex_take hlt hle []
      rw [List.append_nil, hall] at htake
      exact htake
    | cons m sizes =>
      have hrest : ∀ d ∈ ds.drop n, d < 16 := fun d hd => hlt d (List.mem_of_mem_drop hd)
      have hgroups := ih hrest (by rw [List.length_drop]; omega)
      rw [hyphenate, takeGroups, takeHex_take hlt hle]
      · rw [List.map_drop] at hgroups
        show ((takeGroups (m :: sizes) _).bind _) = _
        rw [hgroups]
        show some (ds.take n ++ ds.drop n, []) = _
        rw [List.take_append_drop]
      · nofun
      · nofun

theorem length_hyphenate {sizes : List Nat} {ds : List Char} (hsome : sizes ≠ [])
    (hlength : ds.length = sizes.sum) :
    (hyphenate sizes ds).length + 1 = sizes.sum + sizes.length := by
  induction sizes generalizing ds with
  | nil => exact absurd rfl hsome
  | cons n sizes ih =>
    rw [List.sum_cons] at hlength
    cases sizes with
    | nil =>
      rw [hyphenate, List.length_take]
      simp only [List.sum_cons, List.sum_nil, List.length_cons, List.length_nil] at hlength ⊢
      omega
    | cons m sizes =>
      have hrest := @ih (ds.drop n) (List.cons_ne_nil m sizes) (by rw [List.length_drop]; omega)
      rw [hyphenate, List.length_append, List.length_cons, List.length_take]
      · simp only [List.sum_cons, List.length_cons] at hrest hlength ⊢
        omega
      · nofun

/-- An identifier is read back from its hyphenated form. -/
theorem ofChars?_hyphenate (u : Uuid) : ofChars? (hyphenate groups u.digits) = some u := by
  have hlt : ∀ d ∈ Text.toDigits 16 32 u.val, d < 16 := fun d =>
    Text.lt_of_mem_toDigits (by decide)
  have hval : u.val < Nat.pow 16 32 := u.bits.isLt
  have hgroups : takeGroups groups (hyphenate groups u.digits) =
      some (Text.toDigits 16 32 u.val, []) :=
    takeGroups_hyphenate hlt (Text.length_toDigits 16 32 u.val)
  rw [ofChars?, hgroups]
  show some (ofNat (Text.ofDigits 16 (Text.toDigits 16 32 u.val))) = some u
  rw [Text.ofDigits_toDigits hval, ofNat_val]

/-- An identifier is read back from its text. -/
theorem ofAnySpelling?_text (u : Uuid) : ofAnySpelling? u.text = some u := by
  have hdigits : u.digits.length = groups.sum := by
    rw [digits, List.length_map, Text.length_toDigits]
    rfl
  have hlength : (hyphenate groups u.digits).length = 36 :=
    Nat.succ.inj (length_hyphenate (by decide) hdigits)
  rw [ofAnySpelling?, text, String.toList_ofList]
  simp only [hlength]
  exact ofChars?_hyphenate u

end OrderDesk.Uuid
