import IdentityService.Text.Digits

/-!
# Calendar Dates

Dates of the proleptic Gregorian calendar, years 1 to 9999, and the count of days
from 1970-01-01.
-/

namespace IdentityService

/-! ## §1 Validity -/

namespace Calendar

/-- Leap years: every fourth, but of the centuries only every fourth. -/
def isLeap (year : Nat) : Bool := year % 4 = 0 && (year % 100 != 0 || year % 400 = 0)

/-- The number of days of a month. -/
def daysInMonth (year month : Nat) : Nat :=
  if month = 2 then (if isLeap year then 29 else 28)
  else if month = 4 || month = 6 || month = 9 || month = 11 then 30
  else 31

/-- Year, month and day name a date of the years 1 to 9999. -/
def isDate (year month day : Nat) : Bool :=
  decide (1 ≤ year) && decide (year ≤ 9999) && decide (1 ≤ month) && decide (month ≤ 12)
    && decide (1 ≤ day) && decide (day ≤ daysInMonth year month)

end Calendar

/-- A calendar date. -/
structure Date where
  year : Nat
  month : Nat
  day : Nat
  valid : Calendar.isDate year month day = true
  deriving DecidableEq, Repr

namespace Date

open Calendar Text

/-- The date with a year, a month and a day, if there is one. -/
def ofParts? (year month day : Nat) : Option Date :=
  if h : isDate year month day = true then some ⟨year, month, day, h⟩ else none

/-- Dates in calendar order. -/
def before (a b : Date) : Bool :=
  a.year < b.year ||
    (a.year == b.year && (a.month < b.month || (a.month == b.month && a.day < b.day)))

/-- Year, month and day with hyphens. -/
def isoText (d : Date) : String :=
  padded 4 d.year ++ "-" ++ padded 2 d.month ++ "-" ++ padded 2 d.day

/-- Reads ten characters: four, two and two digits with hyphens between them. -/
def ofIsoChars? : List Char → Option Date
  | [y1, y2, y3, y4, '-', m1, m2, '-', d1, d2] =>
      if [y1, y2, y3, y4, m1, m2, d1, d2].all isAsciiDigit then
        ofParts? (digitsValue [y1, y2, y3, y4]) (digitsValue [m1, m2]) (digitsValue [d1, d2])
      else none
  | _ => none

end Date

/-! ## §2 Counting days -/

namespace Calendar

/-- Days from 1970-01-01 to a day of any year.  Years are counted from March, so that the leap
day ends a year. -/
def dayNumber (year : Int) (month day : Nat) : Int :=
  let y := if month ≤ 2 then year - 1 else year
  let era := y.fdiv 400
  let yearOfEra := y - era * 400
  let monthFromMarch : Int := if month > 2 then month - 3 else month + 9
  let dayOfYear := (153 * monthFromMarch + 2) / 5 + day - 1
  let dayOfEra := yearOfEra * 365 + yearOfEra / 4 - yearOfEra / 100 + dayOfYear
  era * 146097 + dayOfEra - 719468

/-- The year, month and day of a day number. -/
def ofDayNumber (n : Int) : Int × Nat × Nat :=
  let z := n + 719468
  let era := z.fdiv 146097
  let dayOfEra := z - era * 146097
  let yearOfEra := (dayOfEra - dayOfEra / 1460 + dayOfEra / 36524 - dayOfEra / 146096) / 365
  let dayOfYear := dayOfEra - (365 * yearOfEra + yearOfEra / 4 - yearOfEra / 100)
  let m := (5 * dayOfYear + 2) / 153
  let day := dayOfYear - (153 * m + 2) / 5 + 1
  let month := if m < 10 then m + 3 else m - 9
  let year := yearOfEra + era * 400
  (if month ≤ 2 then year + 1 else year, month.toNat, day.toNat)

end Calendar

namespace Date

/-- The day number of a date. -/
def dayNumber (d : Date) : Int := Calendar.dayNumber d.year d.month d.day

/-- The date of a day number, if it lies in the years 1 to 9999. -/
def ofDayNumber? (n : Int) : Option Date :=
  let (year, month, day) := Calendar.ofDayNumber n
  if year < 1 then none else ofParts? year.toNat month day

end Date

end IdentityService
