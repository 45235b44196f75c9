import IdentityService.Number.Arithmetic

/-!
# Durations

Signed lengths of time, exact to the microsecond.

## Main definitions

- `Duration.ofParts`: the duration with a sign and a magnitude, if there is one.
- `Duration.ofInteger`, `Duration.ofFraction`: read a number of seconds.
-/

namespace IdentityService

/-! ## §1 Durations -/

/-- A duration in microseconds. -/
structure Duration where
  microseconds : Int
  deriving DecidableEq, Repr

namespace Duration

/-- A whole number of days. -/
def ofDays (n : Int) : Duration := ⟨n * 86400000000⟩

/-- A whole number of seconds. -/
def ofSeconds (n : Int) : Duration := ⟨n * 1000000⟩

/-- Durations add up. -/
instance : Add Duration := ⟨fun a b => ⟨a.microseconds + b.microseconds⟩⟩

/-- The longest duration, in days, in either direction. -/
def maxDays : Int := 999999999

/-- A duration is representable when its whole days do not exceed the limit. -/
def isRepresentable (d : Duration) : Bool :=
  let days := d.microseconds.fdiv 86400000000
  decide (-maxDays ≤ days) && decide (days ≤ maxDays)

/-- Whole days, rounded down. -/
def days (d : Duration) : Int := d.microseconds.fdiv 86400000000

/-- Seconds after the whole days. -/
def secondOfDay (d : Duration) : Int := (d.microseconds.fmod 86400000000) / 1000000

/-- Microseconds after the whole seconds. -/
def fraction (d : Duration) : Int := d.microseconds.fmod 1000000

/-- The number of seconds, rounded toward zero.  A duration that is no whole number of seconds
is first rounded to double precision. -/
def wholeSeconds (d : Duration) : Int :=
  if d.microseconds % 1000000 = 0 then d.microseconds / 1000000
  else
    ((Binary64.ofRatio (d.microseconds < 0) d.microseconds.natAbs 1000000).truncated?).getD 0

/-! ## §2 Reading numbers -/

/-- Why something is read as no duration. -/
inductive ReadFault
  /-- It has no known form, or a magnitude of too many days. -/
  | unreadable
  /-- Its magnitude is in range, and with the sign it is not. -/
  | overflow
  deriving DecidableEq, Repr

/-- The duration with a sign and a magnitude in parts, each of any size.  There are as many days
before zero as after it, so the parts of a negative day may lead too far. -/
def ofParts (negative : Bool) (days seconds micros : Nat) : Except ReadFault Duration :=
  let n : Int := days * 86400000000 + seconds * 1000000 + micros
  if maxDays < n / 86400000000 then .error .unreadable
  else
    let d : Duration := ⟨if negative then -n else n⟩
    if d.isRepresentable then .ok d else .error .overflow

/-- The duration of a whole number of seconds.  Its days are counted with 32 bits. -/
def ofInteger (n : Int) : Except ReadFault Duration :=
  ofParts (n < 0) (n.natAbs / 86400 % 4294967296) (n.natAbs % 86400) 0

/-- The duration of a fractional number of seconds.  Its days come from a rounded quotient. -/
def ofFraction (x : Binary64) : Except ReadFault Duration :=
  let total := x.magnitude
  match total.truncated?, (total / .ofInt 86400).truncated? with
  | some whole, some days =>
      let micros := ((total - .ofInt whole) * .ofInt 1000000).rounded?.getD 0
      ofParts x.isNegative days.toNat (whole.toNat % 86400) micros.toNat
  | _, _ => .error .unreadable

end Duration

end IdentityService
