import Mathlib.Tactic.IntervalCases
import OrderDesk.Timestamp.Calendar

/-!
# Dates and days

A day has one date, and the date tells the day (`dayNumber_dateOf`, `isValid_dateOf`).

Years start in March here, so the leap day is the last day of its year.  A day is then so many eras
of 400 years, centuries, cycles of four years, years and days (`Split`): every cycle has the length
of its first years and one day more, which belongs to its last year; every century has one day less
than 25 cycles; and every era one day more than four centuries.
-/

namespace OrderDesk.Calendar

/-- The date of a day of a year that starts in March. -/
def fromMarch (year dayOfYear : Int) : Date :=
  let monthFromMarch := (5 * dayOfYear + 2) / 153
  let day := dayOfYear - (153 * monthFromMarch + 2) / 5 + 1
  let month := if monthFromMarch < 10 then monthFromMarch + 3 else monthFromMarch - 9
  ⟨if month ≤ 2 then year + 1 else year, month.toNat, day.toNat⟩

/-- The days of an era that come before a year of the era. -/
def daysBefore (yearOfEra : Int) : Int := yearOfEra * 365 + yearOfEra / 4 - yearOfEra / 100

/-- A day since the first of March of year zero, as an era, a century of the era, a cycle of the
century, a year of the cycle, and a day of the year.  Only the last year of a cycle has a 366th day,
and of the cycles at the end of a century only the last one of the era. -/
structure Split (z era century cycle year day : Int) : Prop where
  eq : z = 146097 * era + 36524 * century + 1461 * cycle + 365 * year + day
  century_mem : 0 ≤ century ∧ century ≤ 3
  cycle_mem : 0 ≤ cycle ∧ cycle ≤ 24
  year_mem : 0 ≤ year ∧ year ≤ 3
  day_mem : 0 ≤ day ∧ day ≤ 365
  leap : day = 365 → year = 3 ∧ (cycle = 24 → century = 3)

theorem exists_split (z : Int) :
    ∃ era century cycle year day, Split z era century cycle year day := by
  obtain ⟨era, d, hz, hd⟩ : ∃ era d, z = 146097 * era + d ∧ 0 ≤ d ∧ d < 146097 :=
    ⟨z / 146097, z % 146097, by omega, by omega⟩
  obtain ⟨c, e, hd', hc, he⟩ : ∃ c e, d = 36524 * c + e ∧ (0 ≤ c ∧ c ≤ 3) ∧
      0 ≤ e ∧ e ≤ 36524 ∧ (e = 36524 → c = 3) :=
    ⟨min 3 (d / 36524), d - 36524 * min 3 (d / 36524), by omega, by omega, by omega⟩
  obtain ⟨q, r, he', hq, hr⟩ : ∃ q r, e = 1461 * q + r ∧ (0 ≤ q ∧ q ≤ 24) ∧
      0 ≤ r ∧ r ≤ 1460 ∧ (r = 1460 ∧ q = 24 → c = 3) :=
    ⟨e / 1461, e % 1461, by omega, by omega, by omega⟩
  refine ⟨era, c, q, min 3 (r / 365), r - 365 * min 3 (r / 365), ?_, hc, hq, ?_, ?_, ?_⟩ <;> omega

namespace Split

variable {z era century cycle year day : Int} (h : Split z era century cycle year day)

include h

theorem era_eq : z / 146097 = era := by
  obtain ⟨hz, hc, hq, hk, hs, hleap⟩ := h
  omega

theorem yearOfEra_eq {d : Int} (hd : d = z - era * 146097) :
    (d - d / 1460 + d / 36524 - d / 146096) / 365 = 100 * century + 4 * cycle + year := by
  obtain ⟨hz, hc, hq, hk, hs, hleap⟩ := h
  have hd' : d = 36524 * century + 1461 * cycle + 365 * year + day := by omega
  -- the last day of an era counts as one century too many, and is taken off again
  have hcenturies : d / 36524 - d / 146096 = century := by
    rcases (by omega : 1461 * cycle + 365 * year + day < 36524 ∨ d = 146096 ∧ century = 3) with
      hlt | ⟨rfl, rfl⟩
    · have hera : d / 146096 = 0 := by omega
      omega
    · rfl
  obtain ⟨b, hcycles, hb⟩ : ∃ b, d / 1460 = 25 * century + cycle + b ∧
      b = (24 * century + cycle + 365 * year + day) / 1460 := ⟨_, by omega, rfl⟩
  have hrest : 0 ≤ day - b ∧ day - b ≤ 364 := by omega
  omega

theorem daysBefore_eq : daysBefore (100 * century + 4 * cycle + year) =
    36524 * century + 1461 * cycle + 365 * year := by
  obtain ⟨hz, hc, hq, hk, hs, hleap⟩ := h
  unfold daysBefore
  omega

/-- The date of a day that has been split. -/
theorem dateOf_eq : dateOf (z - epoch) =
    fromMarch (400 * era + (100 * century + 4 * cycle + year)) day := by
  have hera := h.era_eq
  have hyear := h.yearOfEra_eq rfl
  have hbefore := h.daysBefore_eq
  have hz := h.eq
  have hday : z - era * 146097 - daysBefore (100 * century + 4 * cycle + year) = day := by omega
  unfold daysBefore at hday
  unfold dateOf fromMarch
  dsimp only
  rw [Int.sub_add_cancel, hera, hyear]
  have hcomm : ∀ y : Int, 365 * y = y * 365 := fun y => Int.mul_comm ..
  have hyears : ∀ y : Int, y + era * 400 = 400 * era + y := fun y => by omega
  rw [hcomm, hday, hyears]

end Split

/-! ## Days of a year -/

variable {year dayOfYear : Int}

/-- The date of a day tells the year and the day of the year, both counted from March. -/
theorem fromMarch_back (h : 0 ≤ dayOfYear ∧ dayOfYear ≤ 365) :
    (if (fromMarch year dayOfYear).month ≤ 2 then (fromMarch year dayOfYear).year - 1
      else (fromMarch year dayOfYear).year) = year ∧
    (153 * ((((fromMarch year dayOfYear).month : Int) + 9) % 12) + 2) / 5 +
      (fromMarch year dayOfYear).day - 1 = dayOfYear := by
  obtain ⟨m, hm⟩ : ∃ m, m = (5 * dayOfYear + 2) / 153 := ⟨_, rfl⟩
  unfold fromMarch
  dsimp only
  rw [← hm]
  constructor
  · split <;> split <;> omega
  · have hmonth : ((((if m < 10 then m + 3 else m - 9).toNat : Nat) : Int) + 9) % 12 = m := by
      split <;> omega
    rw [hmonth]
    omega

theorem dayNumber_fromMarch (h : 0 ≤ dayOfYear ∧ dayOfYear ≤ 365) :
    dayNumber (fromMarch year dayOfYear) =
      year / 400 * 146097 + (daysBefore (year - year / 400 * 400) + dayOfYear) - epoch := by
  obtain ⟨hyear, hday⟩ := @fromMarch_back year dayOfYear h
  unfold dayNumber
  dsimp only
  rw [hyear, hday]
  rfl

theorem isValid_fromMarch (h : 0 ≤ dayOfYear ∧ dayOfYear ≤ 365)
    (hleap : dayOfYear = 365 → isLeapYear (year + 1) = true) :
    (fromMarch year dayOfYear).isValid = true := by
  obtain ⟨m, hm⟩ : ∃ m, m = (5 * dayOfYear + 2) / 153 := ⟨_, rfl⟩
  unfold fromMarch Date.isValid
  dsimp only
  rw [← hm]
  have hm0 : 0 ≤ m := by omega
  have hm11 : m ≤ 11 := by omega
  by_cases hfebruary : m = 11
  · have hlast : dayOfYear = 365 ∨ dayOfYear ≤ 364 := by omega
    subst hfebruary
    rcases hlast with hlast | hlast
    · simp [daysInMonth, hlast, hleap hlast]
    · have hlength : 28 ≤ daysInMonth (year + 1) 2 := by
        unfold daysInMonth
        split <;> split <;> omega
      simp
      omega
  · interval_cases m <;> simp [daysInMonth] <;> omega

theorem daysInMonth_le (year : Int) (month : Nat) : daysInMonth year month ≤ 31 := by
  unfold daysInMonth
  split
  · split <;> omega
  · split <;> omega

theorem Date.le_of_isValid {d : Date} (h : d.isValid = true) : d.month ≤ 12 ∧ d.day ≤ 31 := by
  have hdays := daysInMonth_le d.year d.month
  simp only [Date.isValid, Bool.and_eq_true, decide_eq_true_eq] at h
  omega

/-! ## Days -/

theorem split_add_epoch (n : Int) : ∃ era century cycle year day,
    Split (n + epoch) era century cycle year day ∧
      dateOf n = fromMarch (400 * era + (100 * century + 4 * cycle + year)) day := by
  obtain ⟨era, century, cycle, year, day, h⟩ := exists_split (n + epoch)
  have hdate := h.dateOf_eq
  rw [Int.add_sub_cancel] at hdate
  exact ⟨era, century, cycle, year, day, h, hdate⟩

/-- The number of the date of a day is the day. -/
theorem dayNumber_dateOf (n : Int) : dayNumber (dateOf n) = n := by
  obtain ⟨era, century, cycle, year, day, h, hdate⟩ := split_add_epoch n
  have hbefore := h.daysBefore_eq
  obtain ⟨hz, hc, hq, hk, hs, -⟩ := h
  have hera : (400 * era + (100 * century + 4 * cycle + year)) / 400 = era := by omega
  have hyear : 400 * era + (100 * century + 4 * cycle + year) - era * 400 =
      100 * century + 4 * cycle + year := by omega
  rw [hdate, dayNumber_fromMarch hs, hera, hyear, hbefore]
  omega

/-- A day has a date that there is. -/
theorem isValid_dateOf (n : Int) : (dateOf n).isValid = true := by
  obtain ⟨era, century, cycle, year, day, h, hdate⟩ := split_add_epoch n
  obtain ⟨hz, hc, hq, hk, hs, hleap⟩ := h
  rw [hdate]
  refine isValid_fromMarch hs fun hlast => ?_
  obtain ⟨rfl, hcentury⟩ := hleap hlast
  unfold isLeapYear
  simp only [Bool.and_eq_true, Bool.or_eq_true, beq_iff_eq, bne_iff_ne]
  by_cases hend : cycle = 24
  · obtain rfl := hcentury hend
    omega
  · omega

end OrderDesk.Calendar
