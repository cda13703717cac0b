import Mathlib.Tactic
import TxWire.Time.Calendar

/-!
The calendar, from day numbers to dates and back.

* `yearOfEra`, `daysBeforeYear`: the year of a day within its era of 400 years, and the days of
  the era in front of a year. `yearOfEra_spec` says that the year found is the one that the day
  lies in, and that only a leap year has a 366th day.
* `MarchDate`: a day number taken apart, with the months and years that start in March.
* `Date.isValid_ofDays`: the date of a day number is one of the calendar.
* `Date.toDays_ofDays`: the day number is got back from its date.
-/

namespace TxWire

/-! ### Years of an era -/

/-- The year of the era that a day of the era lies in, both counted from zero. -/
def yearOfEra (day : ℤ) : ℤ := (day - day / 1460 + day / 36524 - day / 146096) / 365

/-- The days of the era in front of one of its years. -/
def daysBeforeYear (year : ℤ) : ℤ := 365 * year + year / 4 - year / 100

/-- A day of the era by its century, the group of four years in it, the year in that and the day
in that. The fourth year of a group has a 366th day, unless the century ends with it; the last
century of the era keeps it even then. -/
structure DayOfEra (day : ℤ) where
  century : ℤ
  group : ℤ
  year : ℤ
  dayOfYear : ℤ
  century_bounds : 0 ≤ century ∧ century ≤ 3
  group_bounds : 0 ≤ group ∧ group ≤ 24
  year_bounds : 0 ≤ year ∧ year ≤ 3
  dayOfYear_bounds : 0 ≤ dayOfYear ∧ dayOfYear ≤ 365
  leap : dayOfYear = 365 → year = 3 ∧ (group < 24 ∨ century = 3)
  day_eq : day = 36524 * century + 1461 * group + 365 * year + dayOfYear

lemma exists_dayOfEra {day : ℤ} (hlo : 0 ≤ day) (hhi : day < 146097) : Nonempty (DayOfEra day) := by
  -- the last day of an era, of a group, would otherwise open one more
  obtain ⟨c, r, hc, hr, hday⟩ : ∃ c r : ℤ, (0 ≤ c ∧ c ≤ 3) ∧
      (0 ≤ r ∧ (r < 36524 ∨ r = 36524 ∧ c = 3)) ∧ day = 36524 * c + r := by
    rcases lt_or_ge day 146096 with h | h
    · exact ⟨day / 36524, day % 36524, by omega, by omega, by omega⟩
    · exact ⟨3, 36524, by omega, by omega, by omega⟩
  obtain ⟨y, d, hy, hd, hgroup⟩ : ∃ y d : ℤ, (0 ≤ y ∧ y ≤ 3) ∧
      (0 ≤ d ∧ (d < 365 ∨ d = 365 ∧ y = 3)) ∧ r % 1461 = 365 * y + d := by
    rcases lt_or_ge (r % 1461) 1460 with h | h
    · exact ⟨r % 1461 / 365, r % 1461 % 365, by omega, by omega, by omega⟩
    · exact ⟨3, 365, by omega, by omega, by omega⟩
  exact ⟨⟨c, r / 1461, y, d, hc, by omega, hy, by omega, fun h => by omega, by omega⟩⟩

lemma DayOfEra.yearOfEra_eq {day : ℤ} (d : DayOfEra day) :
    yearOfEra day = 100 * d.century + 4 * d.group + d.year := by
  obtain ⟨c, q, y, n, hc, hq, hy, hn, hleap, hday⟩ := d
  -- the correction by centuries is exact, the one by groups of four years is late by one day
  have hcenturies : day / 36524 - day / 146096 = c := by
    rcases lt_or_ge (1461 * q + 365 * y + n) 36524 with h | h
    · rw [show day / 36524 = c by omega, show day / 146096 = 0 by omega, sub_zero]
    · obtain rfl : c = 3 := by omega
      omega
  have hgroups : day / 1460 = 25 * c + q + if 1460 ≤ 24 * c + q + 365 * y + n then 1 else 0 := by
    split <;> omega
  rw [yearOfEra]
  dsimp only
  split at hgroups <;> omega

/-- The year of a day of the era is the one that the day lies in, and only a leap year has a
366th day. -/
lemma yearOfEra_spec {day : ℤ} (hlo : 0 ≤ day) (hhi : day < 146097) :
    (0 ≤ yearOfEra day ∧ yearOfEra day ≤ 399)
    ∧ (daysBeforeYear (yearOfEra day) ≤ day ∧ day ≤ daysBeforeYear (yearOfEra day) + 365)
    ∧ ∀ era : ℤ, day = daysBeforeYear (yearOfEra day) + 365 →
      Date.isLeapYear (yearOfEra day + 400 * era + 1) = true := by
  obtain ⟨d⟩ := exists_dayOfEra hlo hhi
  have hyear := d.yearOfEra_eq
  obtain ⟨c, q, y, n, hc, hq, hy, hn, hleap, hday⟩ := d
  dsimp only at hyear
  have hbefore : daysBeforeYear (yearOfEra day) = 36524 * c + 1461 * q + 365 * y := by
    rw [daysBeforeYear, hyear, show (100 * c + 4 * q + y) / 4 = 25 * c + q by omega,
      show (100 * c + 4 * q + y) / 100 = c by omega]
    omega
  refine ⟨by omega, by omega, fun era hlast => ?_⟩
  obtain ⟨rfl, hend⟩ := hleap (by omega)
  rw [hyear, Date.isLeapYear, Bool.and_eq_true, Bool.or_eq_true, decide_eq_true_eq,
    decide_eq_true_eq, decide_eq_true_eq]
  omega

/-! ### Dates -/

/-- A day number by its era, the year of the era, the month and the day of the month. Years and
months are counted from zero and start with March, days start with one. -/
structure MarchDate (days : ℤ) where
  era : ℤ
  year : ℤ
  month : ℤ
  day : ℤ
  year_bounds : 0 ≤ year ∧ year ≤ 399
  month_bounds : 0 ≤ month ∧ month ≤ 11
  day_pos : 1 ≤ day
  /-- The day lies in its month, whose length is that of five months split evenly. -/
  day_le : day ≤ (153 * (month + 1) + 2) / 5 - (153 * month + 2) / 5
  february : month = 11 → day ≤ 29 ∧
    (day = 29 → Date.isLeapYear (year + 400 * era + 1) = true)
  days_eq : days + 719468
    = 146097 * era + daysBeforeYear year + (153 * month + 2) / 5 + day - 1

namespace MarchDate

/-- The date as people write it, with years from January on. -/
def toDate {days : ℤ} (d : MarchDate days) : Date where
  year := if d.month < 10 then d.year + 400 * d.era else d.year + 400 * d.era + 1
  month := if d.month < 10 then (d.month + 3).toNat else (d.month - 9).toNat
  day := d.day.toNat

lemma exists_toDate_eq_ofDays (days : ℤ) : ∃ d : MarchDate days, Date.ofDays days = d.toDate := by
  have hlo : 0 ≤ (days + 719468) % 146097 := Int.emod_nonneg _ (by omega)
  have hhi : (days + 719468) % 146097 < 146097 := Int.emod_lt_of_pos _ (by omega)
  obtain ⟨hyear, hday, hleap⟩ := yearOfEra_spec hlo hhi
  set n := (days + 719468) % 146097 - daysBeforeYear (yearOfEra ((days + 719468) % 146097)) with hn
  exact ⟨{
    era := (days + 719468) / 146097
    year := yearOfEra ((days + 719468) % 146097)
    month := (5 * n + 2) / 153
    day := n - (153 * ((5 * n + 2) / 153) + 2) / 5 + 1
    year_bounds := hyear
    month_bounds := by omega
    day_pos := by omega
    day_le := by omega
    february := fun hmonth => ⟨by omega, fun hday => hleap _ (by omega)⟩
    days_eq := by omega }, rfl⟩

variable {days : ℤ} (d : MarchDate days)

/-- The lengths of the months, one by one. February is the last of its year. -/
lemma day_le_daysInMonth : d.toDate.day ≤ Date.daysInMonth d.toDate.year d.toDate.month := by
  obtain ⟨era, year, month, day, -, ⟨hlo, hhi⟩, -, hle, hfebruary, -⟩ := d
  rw [toDate]
  dsimp only at hfebruary ⊢
  by_cases hlast : month = 11
  · obtain ⟨h29, hleap⟩ := hfebruary hlast
    subst hlast
    show day.toNat ≤ if Date.isLeapYear (year + 400 * era + 1) then 29 else 28
    split
    · omega
    · next hcommon =>
        have hne : day ≠ 29 := fun h => hcommon (hleap h)
        omega
  · interval_cases month
    all_goals first | contradiction | (simp [Date.daysInMonth]; omega)

lemma isValid_toDate : d.toDate.isValid = true := by
  have hmonth := d.month_bounds
  have hpos := d.day_pos
  have hlower : 1 ≤ d.toDate.month ∧ d.toDate.month ≤ 12 := by
    rw [toDate]
    dsimp only
    split <;> omega
  have hday : 1 ≤ d.toDate.day := by
    show 1 ≤ d.day.toNat
    omega
  rw [Date.isValid, Bool.and_eq_true, Bool.and_eq_true, Bool.and_eq_true, decide_eq_true_eq,
    decide_eq_true_eq, decide_eq_true_eq, decide_eq_true_eq]
  exact ⟨⟨hlower, hday⟩, d.day_le_daysInMonth⟩

/-- The day number is computed back from the date. -/
lemma toDays_toDate : d.toDate.toDays = days := by
  obtain ⟨era, year, month, day, hyear, hmonth, hpos, -, -, hdays⟩ := d
  rw [daysBeforeYear] at hdays
  rw [toDate, Date.toDays]
  dsimp only
  by_cases h : month < 10
  · rw [if_pos h, if_pos h, if_neg (by omega), if_neg (by omega),
      show (year + 400 * era) % 400 = year by omega,
      show (year + 400 * era) / 400 = era by omega]
    omega
  · rw [if_neg h, if_neg h, if_pos (by omega), if_pos (by omega),
      show (year + 400 * era + 1 - 1) % 400 = year by omega,
      show (year + 400 * era + 1 - 1) / 400 = era by omega]
    omega

end MarchDate

namespace Date

/-- The date of a day number is one of the calendar. -/
theorem isValid_ofDays (days : ℤ) : (ofDays days).isValid = true := by
  obtain ⟨d, hd⟩ := MarchDate.exists_toDate_eq_ofDays days
  rw [hd, d.isValid_toDate]

/-- The day number is got back from its date. -/
theorem toDays_ofDays (days : ℤ) : (ofDays days).toDays = days := by
  obtain ⟨d, hd⟩ := MarchDate.exists_toDate_eq_ofDays days
  rw [hd, d.toDays_toDate]

/-- Years have 365 days at least, which bounds the year of a day number. -/
lemma natAbs_year_ofDays_le (days : ℤ) :
    365 * (ofDays days).year.natAbs ≤ days.natAbs + 720000 := by
  obtain ⟨d, hd⟩ := MarchDate.exists_toDate_eq_ofDays days
  rw [hd, MarchDate.toDate]
  obtain ⟨era, year, month, day, hyear, hmonth, hpos, hle, -, hdays⟩ := d
  rw [daysBeforeYear] at hdays
  dsimp only
  split <;> omega

/-- The parts of a date of the calendar have two digits at most. -/
lemma bounds_of_isValid {date : Date} (h : date.isValid = true) :
    (1 ≤ date.month ∧ date.month ≤ 12) ∧ (1 ≤ date.day ∧ date.day ≤ 31) := by
  have hlength : daysInMonth date.year date.month ≤ 31 := by
    rw [daysInMonth]
    split_ifs <;> omega
  rw [isValid, Bool.and_eq_true, Bool.and_eq_true, Bool.and_eq_true, decide_eq_true_eq,
    decide_eq_true_eq, decide_eq_true_eq, decide_eq_true_eq] at h
  omega

end Date

end TxWire
