import IdentityService.Validation.Verdict
import IdentityService.Calendar.Moment
import IdentityService.Text.Digits

/-!
# Minimum Age

Birth dates and whole years of age.  A birth date is given as a date, as a moment,
which counts with the date on its own wall clock, or as a text.

## Main definitions

- `BirthDate.ofText?`: the texts that are read as a birth date.
- `Age.on`: the number of whole years between two dates.
- `Age.errors`: the verdict against a minimum age.
-/

namespace IdentityService

/-! ## §1 Birth date texts -/

namespace BirthDate

open Text

/-- The month at the front of a text, up to a hyphen: one digit, or two that make 1 to 12. -/
def readMonth? : List Char → Option (Nat × List Char)
  | a :: '-' :: rest => if '1' ≤ a ∧ a ≤ '9' then some (a.toNat - 48, rest) else none
  | a :: b :: '-' :: rest =>
      if a = '1' ∧ '0' ≤ b ∧ b ≤ '2' then some (10 + (b.toNat - 48), rest)
      else if a = '0' ∧ '1' ≤ b ∧ b ≤ '9' then some (b.toNat - 48, rest)
      else none
  | _ => none

/-- The day: one digit, a digit after a space or a zero, or two that make 10 to 31.  The second
digit after 1 or 2 may be of any script. -/
def readDay? : List Char → Option Nat
  | [a] => if '1' ≤ a ∧ a ≤ '9' then some (a.toNat - 48) else none
  | [a, b] =>
      if a = '3' ∧ (b = '0' ∨ b = '1') then some (30 + (b.toNat - 48))
      else if a = '1' ∨ a = '2' then (digitValue? b).map (10 * (a.toNat - 48) + ·)
      else if (a = '0' ∨ a = ' ') ∧ '1' ≤ b ∧ b ≤ '9' then some (b.toNat - 48)
      else none
  | _ => none

/-- Reads a text of year, month and day with hyphens between them.  The year has four digits of
any script. -/
def ofText? (s : String) : Option Date := do
  match s.toList with
  | y1 :: y2 :: y3 :: y4 :: '-' :: rest =>
      let year ← [y1, y2, y3, y4].mapM digitValue?
      let (month, rest) ← readMonth? rest
      let day ← readDay? rest
      Date.ofParts? (year.foldl (fun n d => 10 * n + d) 0) month day
  | _ => none

end BirthDate

/-- A birth date as it is given. -/
inductive BirthDate
  | date (d : Date)
  | moment (m : Moment)
  | text (s : String)
  | other

/-- The date that a birth date names, if any. -/
def BirthDate.parse? : BirthDate → Option Date
  | date d => some d
  | moment m => m.date?
  | text s => BirthDate.ofText? s
  | other => none

/-! ## §2 Age -/

namespace Age

/-- Whether the birthday of the year of `today` is still to come.  A birthday on February 29
comes on March 1 when there is no such day. -/
def beforeBirthday (birth today : Date) : Bool :=
  today.month < birth.month || (today.month == birth.month && today.day < birth.day)

/-- The number of whole years from a birth date to a day; negative for a day before it. -/
def on (birth today : Date) : Int :=
  (today.year : Int) - birth.year - (if beforeBirthday birth today then 1 else 0)

/-- The least age of a user. -/
def usualMinimum : Int := 18

/-- The violated rule, if any. -/
def errors (minimum : Int) (today : Date) (birth : BirthDate) : List ErrorCode :=
  match birth.parse? with
  | none => [.dateFormat]
  | some d => if on d today < minimum then [.underage] else []

/-- The verdict on a birth date. -/
def check (minimum : Int) (today : Date) (birth : BirthDate) : Verdict :=
  .ofErrors (errors minimum today birth)

end Age

end IdentityService
