import OrderDesk.Proofs.Fallible
import OrderDesk.Proofs.Text.Digits
import OrderDesk.Proofs.Timestamp.Calendar
import OrderDesk.Timestamp.Text

/-!
# Points in time that are written and read again

Numbers are written with a fixed width, so each of them ends where it should although reading is
more generous (`number?_padded`, `places?_placesChars`).

* `Timestamp.ofText?_text` — a point in time of the years 0 to 9999 is read back from its text, to
  the nanosecond and with its leap second.
* `Timestamp.proper_ofNanoseconds`, `Timestamp.proper_of_ofText?` — the clock and the reader give
  nothing but points in time for which this holds, as far as the year permits.
-/

namespace OrderDesk

open Text (padded digit)

namespace Timestamp

open Text (value?)

/-! ## Numbers of a width -/

/-- Digits are taken up to the limit or to the first character that is none. -/
theorem takeDigits_append {limit : Nat} {ds : List Nat} {s : List Char} (hlt : ∀ d ∈ ds, d < 10)
    (hle : ds.length ≤ limit) (hstop : ds.length < limit → ∀ c ∈ s.head?, value? c = none) :
    takeDigits limit (ds.map digit ++ s) = (ds, s) := by
  induction ds generalizing limit with
  | nil =>
    cases limit with
    | zero => rw [List.map_nil, List.nil_append, takeDigits]; simp
    | succ limit =>
      cases s with
      | nil => rfl
      | cons c s =>
        have hnone : value? c = none := hstop (by simp) c rfl
        rw [List.map_nil, List.nil_append, takeDigits, hnone]
  | cons d ds ih =>
    cases limit with
    | zero => simp at hle
    | succ limit =>
      obtain ⟨hd, hds⟩ := List.forall_mem_cons.1 hlt
      have hrest := ih hds (Nat.le_of_succ_le_succ hle) fun h => hstop (Nat.succ_lt_succ h)
      rw [List.map_cons, List.cons_append, takeDigits, Text.value?_digit hd, hrest]

theorem number?_padded {width n : Nat} (h : n < Nat.pow 10 (width + 1)) (s : List Char) :
    number? (width + 1) (padded (width + 1) n ++ s) = some (n, s) := by
  have hlength := Text.length_toDigits 10 (width + 1) n
  have htake : takeDigits (width + 1) (padded (width + 1) n ++ s) =
      (Text.toDigits 10 (width + 1) n, s) :=
    takeDigits_append (fun d => Text.lt_of_mem_toDigits (by decide)) (Nat.le_of_eq hlength)
      fun hlt => absurd hlength (Nat.ne_of_lt hlt)
  rw [number?, htake]
  split
  · next hnil =>
    rw [Prod.mk.injEq] at hnil
    rw [hnil.1] at hlength
    cases hlength
  · next _ hpair =>
    obtain ⟨rfl, rfl⟩ := Prod.mk.inj hpair
    rw [Text.ofDigits_toDigits h]

theorem field?_padded {n : Nat} (h : n < 100) (s : List Char) :
    field? (padded 2 n ++ s) = some (n, s) := by
  rw [field?, Text.trimStart_padded]
  exact number?_padded h s

theorem year?_padded {n : Nat} (h : n < 10000) (s : List Char) :
    year? (padded 4 n ++ s) = some ((n : Int), s) := by
  have hnumber : number? 4 (padded 4 n ++ s) = some (n, s) := number?_padded h s
  obtain ⟨d, ds, hd, hpadded⟩ := Text.exists_padded_succ 3 n
  have hsign := Text.digit_ne_sign hd
  rw [year?, Text.trimStart_padded]
  rw [hpadded] at hnumber ⊢
  split
  · next heq => exact absurd (List.cons.inj heq).1 hsign.1
  · next heq => exact absurd (List.cons.inj heq).1 hsign.2
  · rw [hnumber]
    rfl

theorem mark?_cons {c : Char} (h : Text.isBlankChar c = false) (s : List Char) :
    mark? c (c :: s) = some s := by
  rw [mark?, Text.trimStart_cons h]
  exact if_pos rfl

/-! ## Places -/

/-- Places that are written with a width stand for so many units of this width. -/
theorem places?_padded {width n nano : Nat} (h : n < Nat.pow 10 (width + 1))
    (hwidth : width + 1 ≤ 9) (hunits : n * Nat.pow 10 (9 - (width + 1)) = nano) (s : List Char)
    (hstop : ∀ c ∈ s.head?, value? c = none) :
    places? ('.' :: (padded (width + 1) n ++ s)) = some (nano, s) := by
  have hlength := Text.length_toDigits 10 (width + 1) n
  have htake : takeDigits 9 (padded (width + 1) n ++ s) = (Text.toDigits 10 (width + 1) n, s) :=
    takeDigits_append (fun d => Text.lt_of_mem_toDigits (by decide))
      (Nat.le_trans (Nat.le_of_eq hlength) hwidth)
      fun _ => hstop
  have hdrop : s.dropWhile (fun c => (value? c).isSome) = s := by
    cases s with
    | nil => rfl
    | cons c s => rw [List.dropWhile_cons_of_neg (by simp [hstop c rfl])]
  rw [places?, htake]
  split
  · next hnil =>
    rw [Prod.mk.injEq] at hnil
    rw [hnil.1] at hlength
    cases hlength
  · next _ hpair =>
    obtain ⟨rfl, rfl⟩ := Prod.mk.inj hpair
    rw [Text.ofDigits_toDigits h, hlength, hdrop, hunits]

/-- Nanoseconds are read back, however many places they take. -/
theorem places?_placesChars {nano : Nat} (h : nano < 1000000000) :
    places? (placesChars nano ++ ['Z']) = some (nano, ['Z']) := by
  have hstop : ∀ c ∈ ['Z'].head?, value? c = none := by
    rintro c ⟨⟩
    decide
  unfold placesChars
  split
  · next hzero =>
    subst hzero
    rfl
  · split
    · next hmilli =>
      have hlt : nano / 1000000 < 1000 := by omega
      have hunits : nano / 1000000 * 1000000 = nano := by omega
      exact places?_padded hlt (by decide) hunits ['Z'] hstop
    · split
      · next hmicro =>
        have hlt : nano / 1000 < 1000000 := by omega
        have hunits : nano / 1000 * 1000 = nano := by omega
        exact places?_padded hlt (by decide) hunits ['Z'] hstop
      · exact places?_padded h (by decide) (Nat.mul_one nano) ['Z'] hstop

/-! ## Points in time -/

/-- A point in time has a second of the day, and a nanosecond that belongs to this second or, at the
end of a minute, to a leap second. -/
structure Proper (t : Timestamp) : Prop where
  second_lt : t.second < secondsPerDay
  nano_lt : t.nano < 1000000000 ∨ t.second % 60 = 59 ∧ t.nano < 2000000000

/-- Is it in the years that are written with four digits and without a sign? -/
def InFourDigits (t : Timestamp) : Prop :=
  0 ≤ (Calendar.dateOf t.day).year ∧ (Calendar.dateOf t.day).year ≤ 9999

/-- Numbers of the right widths with the marks between them are read one by one. -/
theorem ofChars?_padded {year month day hour minute second nano : Nat} (hyear : year < 10000)
    (hmonth : month < 100) (hday : day < 100) (hhour : hour < 100) (hminute : minute < 100)
    (hsecond : second < 100) (hnano : nano < 1000000000) :
    ofChars? (padded 4 year ++ '-' :: padded 2 month ++ '-' :: padded 2 day ++ 'T' ::
      padded 2 hour ++ ':' :: padded 2 minute ++ ':' :: padded 2 second ++ placesChars nano ++
      ['Z']) = assemble? ⟨year, month, day⟩ hour minute second nano 0 := by
  have hhyphen (s : List Char) : mark? '-' ('-' :: s) = some s := mark?_cons (by decide) s
  have hcolon (s : List Char) : mark? ':' (':' :: s) = some s := mark?_cons (by decide) s
  have hzone : zone? (Text.trimStart ['Z']) = some (0, []) := by decide
  simp only [List.append_assoc, List.cons_append]
  refine (Fallible.bind_of_eq_some (year?_padded hyear _) _).trans ?_
  refine (Fallible.bind_of_eq_some (hhyphen _) _).trans ?_
  refine (Fallible.bind_of_eq_some (field?_padded hmonth _) _).trans ?_
  refine (Fallible.bind_of_eq_some (hhyphen _) _).trans ?_
  refine (Fallible.bind_of_eq_some (field?_padded hday _) _).trans ?_
  refine (Fallible.bind_of_eq_some (field?_padded hhour _) _).trans ?_
  refine (Fallible.bind_of_eq_some (hcolon _) _).trans ?_
  refine (Fallible.bind_of_eq_some (field?_padded hminute _) _).trans ?_
  refine (Fallible.bind_of_eq_some (hcolon _) _).trans ?_
  refine (Fallible.bind_of_eq_some (field?_padded hsecond _) _).trans ?_
  refine (Fallible.bind_of_eq_some (places?_placesChars hnano) _).trans ?_
  exact Fallible.bind_of_eq_some hzone _

/-- The second and the nanosecond that are written for a point in time. -/
def clock (t : Timestamp) : Nat × Nat :=
  if 1000000000 ≤ t.nano then (t.second % 60 + 1, t.nano - 1000000000)
  else (t.second % 60, t.nano)

theorem clock_lt {t : Timestamp} (h : t.Proper) : t.clock.1 ≤ 60 ∧ t.clock.2 < 1000000000 := by
  have hnano := h.nano_lt
  unfold clock
  split <;> dsimp only <;> omega

/-- A second of the day and a nanosecond that have been written are put together again. -/
theorem unclock {t : Timestamp} (h : t.Proper) :
    (if t.clock.1 = 60 then (59, t.clock.2 + 1000000000) else (t.clock.1, t.clock.2)) =
      (t.second % 60, t.nano) := by
  have hnano := h.nano_lt
  unfold clock
  by_cases hleap : 1000000000 ≤ t.nano
  · have hlast : t.second % 60 = 59 := by omega
    rw [if_pos hleap, hlast, if_pos rfl, Nat.sub_add_cancel hleap]
  · rw [if_neg hleap, if_neg (by dsimp only; omega)]

theorem yearInRange_of_inFourDigits {t : Timestamp} (h : t.InFourDigits) :
    Calendar.yearInRange (Calendar.dateOf t.day).year = true := by
  obtain ⟨hlow, hhigh⟩ := h
  simp only [Calendar.yearInRange, Bool.and_eq_true, decide_eq_true_eq]
  omega

theorem assemble?_dateOf {t : Timestamp} (h : t.Proper) (hyears : t.InFourDigits) :
    assemble? (Calendar.dateOf t.day) (t.second / 3600) (t.second / 60 % 60) t.clock.1 t.clock.2 0 =
      some t := by
  have hsecond := h.second_lt
  unfold secondsPerDay at hsecond
  have hrange := yearInRange_of_inFourDigits hyears
  have hhour : t.second / 3600 < 24 := by omega
  have hminute : t.second / 60 % 60 < 60 := by omega
  -- the seconds since 1970 give back the day and the second of the day
  have htotal : (t.second / 3600 * 3600 + t.second / 60 % 60 * 60 + t.second % 60 : Nat) =
      t.second := by omega
  have hday : (t.day * (86400 : Nat) + (t.second : Nat) - 0) / ((86400 : Nat) : Int) = t.day := by
    omega
  have hrest : ((t.day * (86400 : Nat) + (t.second : Nat) - 0) % ((86400 : Nat) : Int)).toNat =
      t.second := by omega
  rw [assemble?, if_pos (by simp [Calendar.isValid_dateOf, hrange, hhour, hminute, (clock_lt h).1])]
  rw [unclock h]
  dsimp only
  rw [Calendar.dayNumber_dateOf, htotal, secondsPerDay, hday, hrest, if_pos hrange]

/-- A point in time is read back from its text. -/
theorem ofText?_text {t : Timestamp} (h : t.Proper) (hyears : t.InFourDigits) :
    ofText? t.text = some t := by
  have hassemble := assemble?_dateOf h hyears
  obtain ⟨hmonth, hday⟩ := Calendar.Date.le_of_isValid (Calendar.isValid_dateOf t.day)
  obtain ⟨hclock, hnano⟩ := clock_lt h
  obtain ⟨hlow, hhigh⟩ := hyears
  have hsecond := h.second_lt
  unfold secondsPerDay at hsecond
  have hread := @ofChars?_padded (Calendar.dateOf t.day).year.toNat (Calendar.dateOf t.day).month
    (Calendar.dateOf t.day).day (t.second / 3600) (t.second / 60 % 60) t.clock.1 t.clock.2
    (by omega) (by omega) (by omega) (by omega) (by omega) (by omega) hnano
  have hyear : yearChars (Calendar.dateOf t.day).year =
      padded 4 (Calendar.dateOf t.day).year.toNat := if_pos ⟨hlow, hhigh⟩
  rw [Int.toNat_of_nonneg hlow, ← hyear, hassemble] at hread
  rw [ofText?, text, String.toList_ofList]
  exact hread

/-! ## All points in time are proper -/

theorem proper_ofNanoseconds (n : Int) : (ofNanoseconds n).Proper := by
  unfold ofNanoseconds secondsPerDay
  refine ⟨?_, Or.inl ?_⟩
  · show (n / 1000000000 % (86400 : Nat)).toNat < 86400
    omega
  · show (n % 1000000000).toNat < 1000000000
    omega

theorem length_takeDigits_le (limit : Nat) (s : List Char) :
    (takeDigits limit s).1.length ≤ limit := by
  fun_induction takeDigits limit s with
  | case1 limit c rest d hd ds rest' htake ih =>
    rw [htake] at ih
    exact Nat.succ_le_succ ih
  | case2 => exact Nat.zero_le _
  | case3 => exact Nat.zero_le _

theorem lt_of_mem_takeDigits {limit d : Nat} {s : List Char} (h : d ∈ (takeDigits limit s).1) :
    d < 10 := by
  fun_induction takeDigits limit s with
  | case1 limit c rest e he ds rest' htake ih =>
    rw [htake] at ih
    rcases List.mem_cons.1 h with rfl | hmem
    · exact Text.lt_of_value? he
    · exact ih hmem
  | case2 => cases h
  | case3 => cases h

/-- Places of a second stand for less than a second. -/
theorem lt_of_places? {s rest : List Char} {nano : Nat} (h : places? s = some (nano, rest)) :
    nano < 1000000000 := by
  unfold places? at h
  split at h
  · next digits =>
    have hlength := length_takeDigits_le 9 digits
    have hlt : ∀ d ∈ (takeDigits 9 digits).1, d < 10 := fun d => lt_of_mem_takeDigits
    split at h
    · cases h
    · next ds _ _ htake =>
      rw [htake] at hlength hlt
      have hle : ds.length ≤ 9 := hlength
      have hbound : Text.ofDigits 10 ds < 10 ^ ds.length := Text.ofDigits_lt hlt
      simp only [Option.some.injEq, Prod.mk.injEq] at h
      obtain ⟨rfl, -⟩ := h
      calc Text.ofDigits 10 ds * Nat.pow 10 (9 - ds.length)
          < 10 ^ ds.length * 10 ^ (9 - ds.length) :=
            Nat.mul_lt_mul_of_pos_right hbound (Nat.pow_pos (by decide))
        _ = 10 ^ 9 := by rw [← Nat.pow_add, Nat.add_sub_cancel' hle]
  · cases h
    decide

theorem dvd_of_distance? {negative : Bool} {s rest : List Char} {distance : Int}
    (h : distance? negative s = some (distance, rest)) : (60 : Int) ∣ distance := by
  simp only [distance?, Option.bind_eq_bind, Option.bind_eq_some_iff] at h
  obtain ⟨⟨hours, _⟩, -, ⟨minutes, _⟩, -, h⟩ := h
  dsimp only at h
  split at h
  · simp only [Option.some.injEq, Prod.mk.injEq] at h
    obtain ⟨rfl, -⟩ := h
    split <;> omega
  · cases h

/-- Times are at a distance of whole minutes from universal time. -/
theorem dvd_of_zone? {s rest : List Char} {distance : Int}
    (h : zone? s = some (distance, rest)) : (60 : Int) ∣ distance := by
  unfold zone? at h
  split at h
  · cases h
    decide
  · split at h
    · cases h
      decide
    · cases h
      decide
    · exact dvd_of_distance? h
    · exact dvd_of_distance? h
    · exact dvd_of_distance? h
    · cases h

theorem proper_of_assemble? {date : Calendar.Date} {hour minute second nano : Nat} {distance : Int}
    {t : Timestamp} (hnano : nano < 1000000000) (hdistance : (60 : Int) ∣ distance)
    (h : assemble? date hour minute second nano distance = some t) : t.Proper := by
  unfold assemble? secondsPerDay at h
  split at h
  · next hchecked =>
    have hsecond : second ≤ 60 := by
      simp only [Bool.and_eq_true, decide_eq_true_eq] at hchecked
      exact hchecked.2
    by_cases hleap : second = 60
    · simp only [if_pos hleap] at h
      split at h
      · cases h
        refine ⟨?_, Or.inr ⟨?_, ?_⟩⟩
        · show Int.toNat _ < 86400
          omega
        · show Int.toNat _ % 60 = 59
          omega
        · show nano + 1000000000 < 2000000000
          omega
      · cases h
    · simp only [if_neg hleap] at h
      split at h
      · cases h
        refine ⟨?_, Or.inl hnano⟩
        show Int.toNat _ < 86400
        omega
      · cases h
  · cases h

/-- What is read is proper. -/
theorem proper_of_ofText? {s : String} {t : Timestamp} (h : ofText? s = some t) : t.Proper := by
  obtain ⟨year, -, h⟩ := Option.bind_eq_some_iff.1 h
  obtain ⟨_, -, h⟩ := Option.bind_eq_some_iff.1 h
  obtain ⟨month, -, h⟩ := Option.bind_eq_some_iff.1 h
  obtain ⟨_, -, h⟩ := Option.bind_eq_some_iff.1 h
  obtain ⟨day, -, h⟩ := Option.bind_eq_some_iff.1 h
  dsimp only at h
  split at h
  on_goal 4 => cases h
  -- whichever mark stands between date and time
  all_goals
    obtain ⟨_, -, h⟩ := Option.bind_eq_some_iff.1 h
    obtain ⟨hour, -, h⟩ := Option.bind_eq_some_iff.1 h
    obtain ⟨_, -, h⟩ := Option.bind_eq_some_iff.1 h
    obtain ⟨minute, -, h⟩ := Option.bind_eq_some_iff.1 h
    obtain ⟨_, -, h⟩ := Option.bind_eq_some_iff.1 h
    obtain ⟨second, -, h⟩ := Option.bind_eq_some_iff.1 h
    obtain ⟨⟨nano, _⟩, hplaces, h⟩ := Option.bind_eq_some_iff.1 h
    obtain ⟨⟨distance, _⟩, hzone, h⟩ := Option.bind_eq_some_iff.1 h
    dsimp only at h
    split at h
    · exact proper_of_assemble? (lt_of_places? hplaces) (dvd_of_zone? hzone) h
    · cases h

end Timestamp

end OrderDesk
