import IdentityService.Proofs.Calendar.Timestamp
import Mathlib.Data.Int.Basic
import Mathlib.Tactic.Lift

/-!
# Counting Days

Day numbers count the days of the calendar one by one, through months, years and leap days, in
years of any sign.  So the order of dates by year, month and day is the order of their numbers,
and every number from the first date on is the number of exactly one day.

## Main definitions

- `Calendar.IsDay`: the days of the calendar.

## Main statements

- `Calendar.dayNumber_succ`, `Calendar.dayNumber_next_month`, `Calendar.dayNumber_next_year`: the
  day after a day has the next number.
- `Calendar.IsDay.dayNumber_lt_iff`: the order of days.
- `Calendar.IsDay.ofDayNumber`: the day of a number.
- `Moment.IsOn.date?`, `Moment.exists_isOn`: the date of a moment.
-/

namespace IdentityService

namespace Calendar

/-! ## §1 Days -/

/-- Leap years, those before year 1 among them. -/
def IsLeapYear (year : Int) : Prop := year % 4 = 0 ∧ (year % 100 ≠ 0 ∨ year % 400 = 0)

instance : DecidablePred IsLeapYear := fun _ => inferInstanceAs (Decidable (_ ∧ _))

theorem isLeap_iff (year : Nat) : isLeap year = true ↔ IsLeapYear year := by
  simp only [isLeap, IsLeapYear, Bool.and_eq_true, Bool.or_eq_true, decide_eq_true_iff, bne_iff_ne]
  omega

/-- The number of days of a month, in years of any sign. -/
def monthLength (year : Int) (month : Nat) : Nat :=
  if month = 2 then (if IsLeapYear year then 29 else 28)
  else if month = 4 ∨ month = 6 ∨ month = 9 ∨ month = 11 then 30
  else 31

theorem daysInMonth_eq (year month : Nat) : daysInMonth year month = monthLength year month := by
  simp only [daysInMonth, monthLength, isLeap_iff, Bool.or_eq_true, decide_eq_true_iff, or_assoc]

theorem monthLength_pos (year : Int) (month : Nat) : 1 ≤ monthLength year month := by
  unfold monthLength
  split
  · split <;> decide
  · split <;> decide

theorem monthLength_le (year : Int) (month : Nat) : monthLength year month ≤ 31 := by
  unfold monthLength
  split
  · split <;> decide
  · split <;> decide

theorem monthLength_february (year : Int) :
    monthLength year 2 = if IsLeapYear year then 29 else 28 := rfl

theorem monthLength_february_le (year : Int) : monthLength year 2 ≤ 29 := by
  rw [monthLength_february]
  split <;> decide

/-- Year, month and day name a day of the calendar. -/
structure IsDay (year : Int) (month day : Nat) : Prop where
  month_pos : 1 ≤ month
  month_le : month ≤ 12
  day_pos : 1 ≤ day
  day_le : day ≤ monthLength year month

theorem isDate_iff {year month day : Nat} :
    isDate year month day = true ↔ 1 ≤ year ∧ year ≤ 9999 ∧ IsDay year month day := by
  simp only [isDate, Bool.and_eq_true, decide_eq_true_iff, daysInMonth_eq]
  constructor
  · rintro ⟨⟨⟨⟨⟨hfirst, hlast⟩, hmonth⟩, hmonth'⟩, hday⟩, hday'⟩
    exact ⟨hfirst, hlast, hmonth, hmonth', hday, hday'⟩
  · rintro ⟨hfirst, hlast, hmonth, hmonth', hday, hday'⟩
    exact ⟨⟨⟨⟨⟨hfirst, hlast⟩, hmonth⟩, hmonth'⟩, hday⟩, hday'⟩

/-! ## §2 The next day -/

/-- The year that a month belongs to when years begin in March. -/
def yearFromMarch (year : Int) (month : Nat) : Int := if month ≤ 2 then year - 1 else year

/-- The months from March to a month. -/
def monthFromMarch (month : Nat) : Int := if month > 2 then month - 3 else month + 9

/-- The days from March 1 to a day. -/
def dayOfYear (month day : Nat) : Int := (153 * monthFromMarch month + 2) / 5 + day - 1

/-- The days from March 1 of year 0 to March 1 of a year. -/
def marchStart (year : Int) : Int := 365 * year + year / 4 - year / 100 + year / 400

theorem dayNumber_eq (year : Int) (month day : Nat) :
    dayNumber year month day =
      marchStart (yearFromMarch year month) + dayOfYear month day - 719468 := by
  have hera : (yearFromMarch year month).fdiv 400 = yearFromMarch year month / 400 :=
    Int.fdiv_eq_ediv_of_nonneg _ (by decide)
  have hdays : dayNumber year month day = (yearFromMarch year month).fdiv 400 * 146097 +
      ((yearFromMarch year month - (yearFromMarch year month).fdiv 400 * 400) * 365 +
        (yearFromMarch year month - (yearFromMarch year month).fdiv 400 * 400) / 4 -
        (yearFromMarch year month - (yearFromMarch year month).fdiv 400 * 400) / 100 +
        dayOfYear month day) - 719468 := rfl
  rw [hdays, hera, marchStart]
  omega

theorem dayOfYear_eq_add (month day : Nat) :
    dayOfYear month day = dayOfYear month 1 + (day - 1) := by
  unfold dayOfYear
  omega

theorem dayNumber_eq_add (year : Int) (month day : Nat) :
    dayNumber year month day = dayNumber year month 1 + (day - 1) := by
  rw [dayNumber_eq, dayNumber_eq, dayOfYear_eq_add]
  omega

/-- **Days.** The next day of a month has the next number. -/
theorem dayNumber_succ (year : Int) (month day : Nat) :
    dayNumber year month (day + 1) = dayNumber year month day + 1 := by
  rw [dayNumber_eq_add, dayNumber_eq_add year month day]
  omega

/-- A year that begins in March ends with the February of the next year. -/
theorem marchStart_eq (year : Int) :
    marchStart year = marchStart (year - 1) + dayOfYear 2 (monthLength year 2) + 1 := by
  have hfebruary : dayOfYear 2 (monthLength year 2) = 336 + monthLength year 2 := by
    rw [dayOfYear_eq_add]
    have hfirst : dayOfYear 2 1 = 337 := by decide
    omega
  rw [hfebruary]
  unfold marchStart
  rw [monthLength_february]
  by_cases hleap : IsLeapYear year
  · rw [if_pos hleap]
    unfold IsLeapYear at hleap
    omega
  · rw [if_neg hleap]
    unfold IsLeapYear at hleap
    omega

/-- The other months are as long as the formula says that counts them from March. -/
theorem dayOfYear_next_month : ∀ month < 12, 1 ≤ month → month ≠ 2 →
    dayOfYear (month + 1) 1 = dayOfYear month (monthLength 4 month) + 1 := by
  decide

theorem monthLength_of_ne {month : Nat} (h : month ≠ 2) (year : Int) :
    monthLength year month = monthLength 4 month := by
  rw [monthLength, monthLength, if_neg h, if_neg h]

/-- **Months.** The first day of the next month comes after the last day of a month. -/
theorem dayNumber_next_month (year : Int) {month : Nat} (hpos : 1 ≤ month) (hlt : month < 12) :
    dayNumber year (month + 1) 1 = dayNumber year month (monthLength year month) + 1 := by
  rw [dayNumber_eq, dayNumber_eq]
  by_cases hfebruary : month = 2
  · subst hfebruary
    have hmarch := marchStart_eq year
    have hfirst : dayOfYear (2 + 1) 1 = 0 := by decide
    rw [hfirst]
    unfold yearFromMarch
    rw [if_neg (by decide), if_pos (by decide)]
    omega
  · have hyear : yearFromMarch year (month + 1) = yearFromMarch year month := by
      unfold yearFromMarch
      split <;> split <;> omega
    rw [hyear, monthLength_of_ne hfebruary, dayOfYear_next_month month hlt hpos hfebruary]
    omega

/-- **Years.** The first day of the next year comes after December 31. -/
theorem dayNumber_next_year (year : Int) :
    dayNumber (year + 1) 1 1 = dayNumber year 12 31 + 1 := by
  have hyear : yearFromMarch (year + 1) 1 = year := Int.add_sub_cancel year 1
  have hyear' : yearFromMarch year 12 = year := rfl
  have hjanuary : dayOfYear 1 1 = dayOfYear 12 31 + 1 := by decide
  rw [dayNumber_eq, dayNumber_eq, hyear, hyear', hjanuary]
  omega

/-! ## §3 The order of days -/

variable {year year' : Int} {month month' day day' : Nat}

theorem IsDay.first_le (h : IsDay year month day) :
    dayNumber year month 1 ≤ dayNumber year month day := by
  have hday := h.day_pos
  rw [dayNumber_eq_add year month day]
  omega

theorem IsDay.le_last (h : IsDay year month day) :
    dayNumber year month day ≤ dayNumber year month (monthLength year month) := by
  have hday := h.day_le
  rw [dayNumber_eq_add year month day, dayNumber_eq_add year month (monthLength year month)]
  omega

theorem isDay_last (year : Int) (month : Nat) (hpos : 1 ≤ month) (hle : month ≤ 12) :
    IsDay year month (monthLength year month) :=
  ⟨hpos, hle, monthLength_pos year month, le_refl _⟩

theorem isDay_newYear (year : Int) : IsDay year 1 1 :=
  ⟨by decide, by decide, by decide, monthLength_pos year 1⟩

/-- A month ends before every later month of its year begins. -/
theorem dayNumber_last_lt (year : Int) (hpos : 1 ≤ month) (hlt : month < month')
    (hle : month' ≤ 12) :
    dayNumber year month (monthLength year month) < dayNumber year month' 1 := by
  -- from month to month, by the lengths of the months between the two
  induction month', hlt using Nat.le_induction with
  | base =>
    rw [dayNumber_next_month year hpos (by omega)]
    omega
  | succ later hlater ih =>
    have hbetween := ih (by omega)
    have hlength := (isDay_last year later (by omega) (by omega)).first_le
    rw [dayNumber_next_month year (by omega) (by omega)]
    omega

theorem IsDay.lt_of_month (h : IsDay year month day) (h' : IsDay year month' day')
    (hlt : month < month') : dayNumber year month day < dayNumber year month' day' := by
  have hlast := h.le_last
  have hmonths := dayNumber_last_lt year h.month_pos hlt h'.month_le
  have hfirst := h'.first_le
  omega

theorem IsDay.newYear_le (h : IsDay year month day) :
    dayNumber year 1 1 ≤ dayNumber year month day := by
  by_cases hmonth : month = 1
  · subst hmonth
    exact h.first_le
  · have hpos := h.month_pos
    exact Int.le_of_lt ((isDay_newYear year).lt_of_month h (by omega))

theorem IsDay.lt_newYear (h : IsDay year month day) :
    dayNumber year month day < dayNumber (year + 1) 1 1 := by
  rw [dayNumber_next_year]
  by_cases hmonth : month = 12
  · subst hmonth
    exact Int.lt_add_one_of_le h.le_last
  · have hle := h.month_le
    have hlast := h.lt_of_month (isDay_last year 12 (by decide) (by decide)) (by omega)
    exact Int.lt_add_one_of_le (Int.le_of_lt hlast)

theorem newYear_mono (h : year ≤ year') : dayNumber year 1 1 ≤ dayNumber year' 1 1 := by
  induction year', h using Int.leInduction with
  | base => exact le_refl _
  | succ later _ ih => exact Int.le_of_lt (Int.lt_of_le_of_lt ih (isDay_newYear later).lt_newYear)

theorem IsDay.lt_of_year (h : IsDay year month day) (h' : IsDay year' month' day')
    (hlt : year < year') : dayNumber year month day < dayNumber year' month' day' :=
  calc dayNumber year month day
      < dayNumber (year + 1) 1 1 := h.lt_newYear
    _ ≤ dayNumber year' 1 1 := newYear_mono hlt
    _ ≤ dayNumber year' month' day' := h'.newYear_le

/-- **The order of days.** Earlier days have smaller numbers: days are ordered by year, then by
month, then by day. -/
theorem IsDay.dayNumber_lt_iff (h : IsDay year month day) (h' : IsDay year' month' day') :
    dayNumber year month day < dayNumber year' month' day' ↔
      year < year' ∨ year = year' ∧ (month < month' ∨ month = month' ∧ day < day') := by
  rcases lt_trichotomy year year' with hyear | rfl | hyear
  · exact iff_of_true (h.lt_of_year h' hyear) (.inl hyear)
  · rcases lt_trichotomy month month' with hmonth | rfl | hmonth
    · exact iff_of_true (h.lt_of_month h' hmonth) (.inr ⟨rfl, .inl hmonth⟩)
    · rw [dayNumber_eq_add year month day, dayNumber_eq_add year month day']
      omega
    · have hgt := h'.lt_of_month h hmonth
      omega
  · have hgt := h'.lt_of_year h hyear
    omega

/-! ## §4 The day of a number -/

/-- The centuries of an era that have passed on a day of it.  The last day of the era would begin
a fifth century. -/
theorem centuriesOfEra_eq {century rest n : Int} (hcentury : 0 ≤ century ∧ century ≤ 3)
    (hrest : 0 ≤ rest) (hlast : rest ≤ 36523 ∨ century = 3 ∧ rest = 36524)
    (hn : n = 36524 * century + rest) : n / 36524 - n / 146096 = century := by
  rcases hlast with hrest' | ⟨rfl, rfl⟩
  · omega
  · omega

/-- The year of an era, from the day of the era, by centuries, by four years and by years. -/
theorem yearOfEra_eq_sum {century four year day n : Int} (hcentury : 0 ≤ century ∧ century ≤ 3)
    (hfour : 0 ≤ four ∧ four ≤ 24) (hyear : 0 ≤ year ∧ year ≤ 3) (hday : 0 ≤ day ∧ day ≤ 365)
    (hleap : day = 365 → year = 3 ∧ (four = 24 → century = 3))
    (hn : n = 36524 * century + 1461 * four + 365 * year + day) :
    (n - n / 1460 + n / 36524 - n / 146096) / 365 = 100 * century + 4 * four + year := by
  have hcenturies : n / 36524 - n / 146096 = century := by
    have hrest : n = 36524 * century + (1461 * four + 365 * year + day) := by omega
    refine centuriesOfEra_eq hcentury (by omega) ?_ hrest
    by_cases hlast : day = 365
    · obtain ⟨rfl, hera⟩ := hleap hlast
      by_cases hfour' : four = 24
      · exact .inr ⟨hera hfour', by omega⟩
      · exact .inl (by omega)
    · exact .inl (by omega)
  -- on the last day of a leap year the division by 1460 counts one leap day more
  generalize hextra : (24 * century + four + 365 * year + day) / 1460 = extra
  have hwithin : 0 ≤ day - extra ∧ day - extra ≤ 364 := by
    by_cases hlast : day = 365
    · obtain ⟨rfl, -⟩ := hleap hlast
      omega
    · omega
  have hleapDays : n / 1460 = 25 * century + four + extra := by
    rw [← hextra, hn]
    omega
  rw [hleapDays, Int.add_sub_assoc, hcenturies, hn]
  omega

theorem yearOfEra_eq {year day n : Int} (hyear : 0 ≤ year ∧ year ≤ 399)
    (hday : 0 ≤ day ∧ day ≤ 365) (hleap : day = 365 → IsLeapYear (year + 1))
    (hn : n = 365 * year + year / 4 - year / 100 + day) :
    (n - n / 1460 + n / 36524 - n / 146096) / 365 = year ∧ 0 ≤ n ∧ n ≤ 146096 := by
  obtain ⟨century, four, rest, hcentury, hfour, hrest, rfl⟩ : ∃ century four rest : Int,
      (0 ≤ century ∧ century ≤ 3) ∧ (0 ≤ four ∧ four ≤ 24) ∧ (0 ≤ rest ∧ rest ≤ 3) ∧
        year = 100 * century + 4 * four + rest :=
    ⟨year / 100, year % 100 / 4, year % 4, by omega, by omega, by omega, by omega⟩
  have hlast : day = 365 → rest = 3 ∧ (four = 24 → century = 3) := by
    intro h
    have hnext := hleap h
    unfold IsLeapYear at hnext
    omega
  have hsum : n = 36524 * century + 1461 * four + 365 * rest + day := by
    have hleapDays : (100 * century + 4 * four + rest) / 4 - (100 * century + 4 * four + rest) / 100
        = 24 * century + four := by omega
    omega
  refine ⟨yearOfEra_eq_sum hcentury hfour hrest hday hlast hsum, by omega, ?_⟩
  by_cases h : day = 365
  · have := hlast h
    omega
  · omega

/-- Where the months lie in a year that begins in March, when February is as long as it can be. -/
theorem dayOfYear_month : ∀ month ≤ 12, 1 ≤ month →
    153 * monthFromMarch month ≤ 5 * dayOfYear month 1 + 2 ∧
      5 * dayOfYear month (monthLength 4 month) + 2 < 153 * (monthFromMarch month + 1) ∧
      0 ≤ dayOfYear month 1 ∧ dayOfYear month (monthLength 4 month) ≤ 365 ∧
      (month ≠ 2 → dayOfYear month (monthLength 4 month) < 365) := by
  decide

theorem IsDay.dayOfYear_bounds (h : IsDay year month day) :
    (5 * dayOfYear month day + 2) / 153 = monthFromMarch month ∧
      (0 ≤ dayOfYear month day ∧ dayOfYear month day ≤ 365) ∧
      (dayOfYear month day = 365 → IsLeapYear (yearFromMarch year month + 1)) := by
  obtain ⟨hpos, hle, hday, hday'⟩ := h
  obtain ⟨hfirst, hlast, hnonneg, hyear, hother⟩ := dayOfYear_month month hle hpos
  rw [dayOfYear_eq_add month (monthLength 4 month)] at hlast hyear hother
  rw [dayOfYear_eq_add month day]
  by_cases hfebruary : month = 2
  · subst hfebruary
    have hfourth : monthLength 4 2 = 29 := by decide
    have hfirst' : dayOfYear 2 1 = 337 := by decide
    have hyear' : yearFromMarch year 2 + 1 = year := Int.sub_add_cancel year 1
    rw [monthLength_february] at hday'
    rw [hyear']
    by_cases hleap : IsLeapYear year
    · rw [if_pos hleap] at hday'
      exact ⟨by omega, by omega, fun _ => hleap⟩
    · rw [if_neg hleap] at hday'
      exact ⟨by omega, by omega, by omega⟩
  · rw [monthLength_of_ne hfebruary] at hday'
    have hbefore := hother hfebruary
    exact ⟨by omega, by omega, by omega⟩

/-- **Numbers of days.** The day of a number is the day that has this number. -/
theorem IsDay.ofDayNumber (h : IsDay year month day) :
    ofDayNumber (dayNumber year month day) = (year, month, day) := by
  obtain ⟨hmonth, hbounds, hleap⟩ := h.dayOfYear_bounds
  generalize hmarch : yearFromMarch year month = y at hleap
  have hstart : marchStart y =
      y / 400 * 146097 + (365 * (y % 400) + y % 400 / 4 - y % 400 / 100) := by
    unfold marchStart
    omega
  have hleap' : dayOfYear month day = 365 → IsLeapYear (y % 400 + 1) := by
    intro hday
    have hnext := hleap hday
    unfold IsLeapYear at hnext ⊢
    omega
  generalize hdoe : 365 * (y % 400) + y % 400 / 4 - y % 400 / 100 + dayOfYear month day = dayOfEra
  obtain ⟨hyearOfEra, hnonneg, hle⟩ := yearOfEra_eq (by omega) hbounds hleap' hdoe.symm
  have hnumber : dayNumber year month day + 719468 = y / 400 * 146097 + dayOfEra := by
    rw [dayNumber_eq, hmarch, hstart]
    omega
  have hera : (dayNumber year month day + 719468).fdiv 146097 = y / 400 := by
    rw [hnumber, Int.fdiv_eq_ediv_of_nonneg _ (by decide)]
    omega
  have hrest : dayNumber year month day + 719468 - y / 400 * 146097 = dayOfEra := by
    omega
  have hday : dayOfEra - (365 * (y % 400) + y % 400 / 4 - y % 400 / 100) = dayOfYear month day := by
    omega
  simp only [Calendar.ofDayNumber, hera, hrest, hyearOfEra, hday, hmonth]
  have hmonth_pos := h.month_pos
  have hmonth_le := h.month_le
  have hday_pos := h.day_pos
  subst hmarch
  unfold dayOfYear monthFromMarch yearFromMarch
  ext <;> dsimp only <;> split <;> omega

/-- Every number from that of the first date on is the number of a day. -/
theorem exists_isDay {n : Int} (h : dayNumber 1 1 1 ≤ n) :
    ∃ year month day, 1 ≤ year ∧ IsDay year month day ∧ dayNumber year month day = n := by
  -- from one day to the next, which is in the same month, the next month or the next year
  induction n, h using Int.leInduction with
  | base => exact ⟨1, 1, 1, le_refl _, isDay_newYear 1, rfl⟩
  | succ n _ ih =>
    obtain ⟨year, month, day, hyear, hday, rfl⟩ := ih
    by_cases hlast : day < monthLength year month
    · exact ⟨year, month, day + 1, hyear, ⟨hday.month_pos, hday.month_le, by omega, hlast⟩,
        dayNumber_succ year month day⟩
    · obtain rfl : day = monthLength year month := by
        have hle := hday.day_le
        omega
      by_cases hmonth : month < 12
      · exact ⟨year, month + 1, 1, hyear, ⟨by omega, hmonth, le_refl _, monthLength_pos year _⟩,
          dayNumber_next_month year hday.month_pos hmonth⟩
      · obtain rfl : month = 12 := by
          have hle := hday.month_le
          omega
        exact ⟨year + 1, 1, 1, by omega, isDay_newYear (year + 1), dayNumber_next_year year⟩

end Calendar

/-! ## §5 Dates and moments -/

namespace Date

open Calendar

theorem isDay (d : Date) : IsDay d.year d.month d.day := (isDate_iff.mp d.valid).2.2

/-- **Dates.** Dates are in the order of their day numbers. -/
theorem before_iff {a b : Date} : a.before b = true ↔ a.dayNumber < b.dayNumber := by
  unfold dayNumber
  rw [a.isDay.dayNumber_lt_iff b.isDay]
  simp [before]

/-- The date of the number of a date is the date itself. -/
theorem ofDayNumber?_dayNumber (d : Date) : ofDayNumber? d.dayNumber = some d := by
  obtain ⟨hyear, -, -⟩ := isDate_iff.mp d.valid
  unfold ofDayNumber? dayNumber
  rw [d.isDay.ofDayNumber]
  simp only [Int.toNat_natCast]
  rw [if_neg (by omega), ofParts?, dif_pos d.valid]

/-- Every number from that of January 1 of year 1 to that of December 31 of year 9999 is the
number of a date. -/
theorem exists_dayNumber_eq {n : Int} (hfirst : Calendar.dayNumber 1 1 1 ≤ n)
    (hlast : n ≤ Calendar.dayNumber 9999 12 31) : ∃ d : Date, d.dayNumber = n := by
  obtain ⟨year, month, day, hpos, hday, rfl⟩ := exists_isDay hfirst
  have hle : year ≤ 9999 := by
    by_contra hlater
    have hlt := (isDay_last 9999 12 (by decide) (by decide)).lt_of_year hday
      (Int.not_le.mp hlater)
    exact absurd hlast (Int.not_le.mpr hlt)
  lift year to Nat using Int.le_of_lt hpos
  exact ⟨⟨year, month, day, isDate_iff.mpr ⟨by omega, by omega, hday⟩⟩, rfl⟩

end Date

namespace Moment

/-- A moment is on a day: its wall clock reads a time of this day. -/
def IsOn (m : Moment) (d : Date) : Prop :=
  d.dayNumber * 86400000000 ≤ m.wall ∧ m.wall < (d.dayNumber + 1) * 86400000000

/-- **Dates of moments.** The date of a moment is that of the day that it is on. -/
theorem IsOn.date? {m : Moment} {d : Date} (h : m.IsOn d) : m.date? = some d := by
  obtain ⟨hle, hlt⟩ := h
  have hday : m.wall.fdiv 86400000000 = d.dayNumber := by
    rw [Int.fdiv_eq_ediv_of_nonneg _ (by decide)]
    omega
  rw [Moment.date?, hday, Date.ofDayNumber?_dayNumber]

/-- Every moment of the years 1 to 9999 is on a day. -/
theorem exists_isOn {m : Moment} (h : inRange m.wall = true) : ∃ d, m.IsOn d := by
  obtain ⟨hmin, hmax⟩ := inRange_iff.mp h
  rw [minWall] at hmin
  rw [maxWall] at hmax
  have hfirst : Calendar.dayNumber 1 1 1 = -719162 := by decide
  have hlast : Calendar.dayNumber 9999 12 31 = 2932896 := by decide
  obtain ⟨d, hd⟩ := Date.exists_dayNumber_eq (n := m.wall / 86400000000) (by omega) (by omega)
  refine ⟨d, ?_⟩
  unfold IsOn
  omega

end Moment

end IdentityService
