import IdentityService.Validation.Age
import IdentityService.Proofs.Calendar.DayCount
import Mathlib.Tactic.IntervalCases

/-!
# Anniversaries

The age of a person counts the anniversaries of the birth date that have come.  It is computed
from a comparison of months and days; anniversaries are days of the calendar, in years of any
sign, and they are compared with today by their day numbers.

## Main definitions

- `BirthDate.Gives`: the forms in which a birth date can be given.
- `Age.anniversary`: the day number of an anniversary.

## Main statements

- `BirthDate.ofText?_isoText`: the written form of a date is read as this date.
- `Age.le_on_iff`: an age is reached on its anniversary.
- `Age.on_counts_anniversaries`: ages, their order, and the check of a minimum age.
-/

namespace IdentityService

open Text Calendar

/-! ## §1 Written dates -/

/-- Padding by one digit more: the last digit is written behind the others. -/
theorem Text.toList_padded_succ {width : Nat} (h : 1 ≤ width) (n : Nat) :
    (padded (width + 1) n).toList =
      (padded width (n / 10)).toList ++ [Nat.digitChar (n % 10)] := by
  simp only [padded, String.toList_ofList]
  by_cases hn : n < 10
  · -- zeros alone stand before a single digit
    obtain ⟨zeros, rfl⟩ := Nat.exists_eq_add_of_le' h
    rw [Nat.toDigits_of_lt_base hn, Nat.div_eq_of_lt hn, Nat.mod_eq_of_lt hn,
      Nat.toDigits_of_lt_base (by decide)]
    simp [List.replicate_succ']
  · rw [Nat.toDigits_of_base_le (by decide) (Nat.not_lt.mp hn)]
    simp

theorem Text.toList_padded_four {n : Nat} (h : n < 10000) :
    (padded 4 n).toList = [Nat.digitChar (n / 1000), Nat.digitChar (n / 100 % 10),
      Nat.digitChar (n / 10 % 10), Nat.digitChar (n % 10)] := by
  have hone : (padded 1 (n / 1000)).toList = [Nat.digitChar (n / 1000)] := by
    rw [padded, Nat.toDigits_of_lt_base (by omega), String.toList_ofList]
    rfl
  simp only [toList_padded_succ (by decide : 1 ≤ 3), toList_padded_succ (by decide : 1 ≤ 2),
    toList_padded_succ (by decide : 1 ≤ 1), Nat.div_div_eq_div_mul, hone]
  rfl

theorem Text.digitValue?_digitChar : ∀ n < 10, digitValue? (Nat.digitChar n) = some n := by
  decide

namespace BirthDate

theorem readMonth?_padded {month : Nat} (hpos : 1 ≤ month) (hle : month ≤ 12)
    (rest : List Char) :
    readMonth? ((padded 2 month).toList ++ '-' :: rest) = some (month, rest) := by
  rw [padded, String.toList_ofList]
  interval_cases month <;> rfl

theorem readDay?_padded : ∀ day < 32, 1 ≤ day → readDay? (padded 2 day).toList = some day := by
  decide +kernel

/-- **Written dates.** The written form of a date is read as this date. -/
theorem ofText?_isoText (d : Date) : ofText? d.isoText = some d := by
  obtain ⟨hfirst, hlast, hday⟩ := isDate_iff.mp d.valid
  have hshort : d.day < 32 := Nat.lt_succ_of_le (le_trans hday.day_le (monthLength_le _ _))
  have hdigits : d.isoText.toList =
      Nat.digitChar (d.year / 1000) :: Nat.digitChar (d.year / 100 % 10) ::
        Nat.digitChar (d.year / 10 % 10) :: Nat.digitChar (d.year % 10) :: '-' ::
          ((padded 2 d.month).toList ++ '-' :: (padded 2 d.day).toList) := by
    simp [Date.isoText, toList_padded_four (Nat.lt_succ_of_le hlast)]
  have hyear : [Nat.digitChar (d.year / 1000), Nat.digitChar (d.year / 100 % 10),
      Nat.digitChar (d.year / 10 % 10), Nat.digitChar (d.year % 10)].mapM digitValue? =
      some [d.year / 1000, d.year / 100 % 10, d.year / 10 % 10, d.year % 10] := by
    have hthousands : d.year / 1000 < 10 := by omega
    simp [digitValue?_digitChar, hthousands, Nat.mod_lt]
  have hvalue : [d.year / 1000, d.year / 100 % 10, d.year / 10 % 10, d.year % 10].foldl
      (fun n digit => 10 * n + digit) 0 = d.year := by
    simp only [List.foldl_cons, List.foldl_nil]
    omega
  unfold ofText?
  simp only [hdigits, hyear, Option.bind_eq_bind, Option.bind_some,
    readMonth?_padded hday.month_pos hday.month_le, hvalue,
    readDay?_padded d.day hshort hday.day_pos]
  rw [Date.ofParts?, dif_pos d.valid]

/-- A birth date is given as a date, as a moment on this day, or in its written form. -/
inductive Gives (d : Date) : BirthDate → Prop
  | date : Gives d (.date d)
  | moment {m : Moment} (h : m.IsOn d) : Gives d (.moment m)
  | text : Gives d (.text d.isoText)

theorem Gives.parse?_eq {d : Date} {given : BirthDate} (h : Gives d given) :
    given.parse? = some d := by
  cases h with
  | date => rfl
  | moment h => exact h.date?
  | text => exact ofText?_isoText d

end BirthDate

namespace Age

/-! ## §2 Anniversaries -/

/-- The month and the day on which a birthday is kept in a year: those of the birth date, but
March 1 for February 29 in a year that has no such day. -/
def birthdayIn (birth : Date) (year : Int) : Nat × Nat :=
  if birth.month = 2 ∧ birth.day = 29 ∧ ¬ IsLeapYear year then (3, 1)
  else (birth.month, birth.day)

/-- The day number of the birthday in a year. -/
def birthdayNumber (birth : Date) (year : Int) : Int :=
  dayNumber year (birthdayIn birth year).1 (birthdayIn birth year).2

/-- The day number of an anniversary of a birth date.  The anniversaries of negative order lie
before the birth. -/
def anniversary (birth : Date) (n : Int) : Int := birthdayNumber birth (birth.year + n)

variable {birth today : Date} {n : Int}

theorem isDay_birthdayIn (birth : Date) (year : Int) :
    IsDay year (birthdayIn birth year).1 (birthdayIn birth year).2 := by
  have hday := birth.isDay
  have hle := hday.day_le
  unfold birthdayIn
  by_cases hmoved : birth.month = 2 ∧ birth.day = 29 ∧ ¬ IsLeapYear year
  · rw [if_pos hmoved]
    exact ⟨by decide, by decide, by decide, monthLength_pos year 3⟩
  · rw [if_neg hmoved]
    refine ⟨hday.month_pos, hday.month_le, hday.day_pos, ?_⟩
    -- only February is of another length in another year
    by_cases hfebruary : birth.month = 2
    · rw [hfebruary] at hle ⊢
      have hle' : birth.day ≤ 29 := le_trans hle (monthLength_february_le birth.year)
      rw [monthLength_february]
      by_cases hleap : IsLeapYear year
      · rwa [if_pos hleap]
      · have hne : birth.day ≠ 29 := fun hday' => hmoved ⟨hfebruary, hday', hleap⟩
        rw [if_neg hleap]
        omega
    · rw [monthLength_of_ne hfebruary] at hle ⊢
      exact hle

/-- **Birthdays.** The comparison of month and day tells whether the birthday of this year is
still to come. -/
theorem beforeBirthday_iff :
    beforeBirthday birth today = true ↔
      today.dayNumber < birthdayNumber birth today.year := by
  unfold Date.dayNumber birthdayNumber
  rw [today.isDay.dayNumber_lt_iff (isDay_birthdayIn birth today.year)]
  have hcompare : beforeBirthday birth today = true ↔
      today.month < birth.month ∨ today.month = birth.month ∧ today.day < birth.day := by
    simp [beforeBirthday]
  rw [hcompare]
  unfold birthdayIn
  split
  case isTrue hmoved =>
    -- today is no February 29, so it is before March 1 when it is before February 29
    obtain ⟨hmonth, hday, hleap⟩ := hmoved
    have hfebruary : today.month = 2 → today.day ≤ 28 := by
      intro htwo
      have hle := today.isDay.day_le
      rwa [htwo, monthLength_february, if_neg hleap] at hle
    have hpos := today.isDay.day_pos
    dsimp only
    omega
  case isFalse => simp

theorem on_eq :
    on birth today = today.year - birth.year -
      if today.dayNumber < birthdayNumber birth today.year then 1 else 0 := by
  simp only [on, beforeBirthday_iff]

/-- **Ages.** An age is reached on its anniversary. -/
theorem le_on_iff : n ≤ on birth today ↔ anniversary birth n ≤ today.dayNumber := by
  have hbirthday := isDay_birthdayIn birth (birth.year + n)
  rw [on_eq, anniversary]
  rcases lt_trichotomy (birth.year + n) today.year with hyear | hyear | hyear
  · -- the birthday of an earlier year has been
    have hlt : birthdayNumber birth (birth.year + n) < today.dayNumber :=
      hbirthday.lt_of_year today.isDay hyear
    split <;> omega
  · rw [hyear]
    split <;> omega
  · have hlt : today.dayNumber < birthdayNumber birth (birth.year + n) :=
      today.isDay.lt_of_year hbirthday hyear
    split <;> omega

/-- An age is the order of the last anniversary that has come. -/
theorem on_eq_iff :
    on birth today = n ↔
      anniversary birth n ≤ today.dayNumber ∧ today.dayNumber < anniversary birth (n + 1) := by
  have hreached : n ≤ on birth today ↔ _ := le_on_iff
  have hnext : n + 1 ≤ on birth today ↔ _ := le_on_iff
  rw [← hreached, ← Int.not_le, ← hnext]
  omega

/-! ## §3 The order of ages -/

/-- Nobody gets younger. -/
theorem on_le_later {later : Date} (h : today.dayNumber ≤ later.dayNumber) :
    on birth today ≤ on birth later :=
  le_on_iff.mpr (le_trans (le_on_iff.mp (le_refl _)) h)

/-- Those born later are not older. -/
theorem on_le_elder {younger : Date} (h : birth.dayNumber ≤ younger.dayNumber) :
    on younger today ≤ on birth today := by
  have horder : ¬ younger.before birth = true := by
    rw [Date.before_iff]
    exact Int.not_lt.mpr h
  unfold on
  simp only [Date.before, beforeBirthday, Bool.or_eq_true, Bool.and_eq_true, decide_eq_true_iff,
    beq_iff_eq] at horder ⊢
  split <;> split <;> omega

/-! ## §4 The minimum age -/

/-- **The minimum age.** A birth date passes from the anniversary of the minimum age on; until
then the person is underage. -/
theorem check_of_gives {given : BirthDate} (h : given.Gives birth) (minimum : Int) :
    check minimum today given =
      if anniversary birth minimum ≤ today.dayNumber then .success
      else .failure [.underage] := by
  unfold check errors
  rw [h.parse?_eq]
  dsimp only
  by_cases hage : anniversary birth minimum ≤ today.dayNumber
  · rw [if_pos hage, if_neg (Int.not_lt.mpr (le_on_iff.mpr hage))]
    rfl
  · have hunder : on birth today < minimum := Int.not_le.mp (mt le_on_iff.mp hage)
    rw [if_neg hage, if_pos hunder]
    rfl

theorem check_valid_iff {given : BirthDate} (h : given.Gives birth) (minimum : Int) :
    (check minimum today given).valid = true ↔ anniversary birth minimum ≤ today.dayNumber := by
  rw [check_of_gives h]
  split
  case isTrue hage => exact iff_of_true rfl hage
  case isFalse hage => exact iff_of_false Bool.false_ne_true hage

/-- **Anniversaries.** An age counts the anniversaries of the birth date that have come; it falls
neither with time nor for elder people.  A birth date in any form passes the check of a minimum
age from this anniversary on, and is underage before it; so who is of age stays of age.  Every
moment gives a date. -/
theorem on_counts_anniversaries (birth today : Date) :
    (∀ n, on birth today = n ↔
      anniversary birth n ≤ today.dayNumber ∧ today.dayNumber < anniversary birth (n + 1)) ∧
    (∀ later : Date, today.dayNumber ≤ later.dayNumber → on birth today ≤ on birth later) ∧
    (∀ younger : Date, birth.dayNumber ≤ younger.dayNumber →
      on younger today ≤ on birth today) ∧
    (∀ minimum given, given.Gives birth →
      check minimum today given = (if anniversary birth minimum ≤ today.dayNumber then .success
        else .failure [.underage]) ∧
      ∀ later : Date, today.dayNumber ≤ later.dayNumber →
        (check minimum today given).valid = true → (check minimum later given).valid = true) ∧
    ∀ m : Moment, Moment.inRange m.wall = true → ∃ d, BirthDate.Gives d (.moment m) := by
  refine ⟨fun n => on_eq_iff, fun _ => on_le_later, fun _ => on_le_elder, ?_, ?_⟩
  · intro minimum given hgives
    refine ⟨check_of_gives hgives minimum, fun later hlater hvalid => ?_⟩
    have hreached := (check_valid_iff hgives minimum).mp hvalid
    exact (check_valid_iff hgives minimum).mpr (le_trans hreached hlater)
  · intro m hrange
    obtain ⟨d, hd⟩ := Moment.exists_isOn hrange
    exact ⟨d, .moment hd⟩

/-- Who was born on February 29, 2008 is 17 on February 28, 2026 and 18 on the day after. -/
example : on ⟨2008, 2, 29, rfl⟩ ⟨2026, 2, 28, rfl⟩ = 17 ∧
    on ⟨2008, 2, 29, rfl⟩ ⟨2026, 3, 1, rfl⟩ = 18 := by
  decide

end Age

end IdentityService
