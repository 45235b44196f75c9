import IdentityService.Calendar.Date
import IdentityService.Calendar.Duration
import IdentityService.Number.Reading

/-!
# Moments

A moment is a wall-clock reading with or without the offset of its zone from UTC.  Two
readings are compared as instants when both have an offset.

A moment holds the offset at its own reading and no zone.  `Moment.add?` keeps this offset,
so it is exact for UTC and for every other fixed offset; where clocks are changed, as for
daylight saving time, the offset behind the move is that of the zone at the new reading,
which `Moment.addIn?` is given.  A reading without an offset is local time of the machine;
taking it for UTC, as `Moment.instant` does, assumes that the machine runs in UTC.

## Main definitions

- `Moment.add?`: moves a reading by a duration, within the years 1 to 9999.
- `Moment.addIn?`: the same in a zone whose offset depends on the reading.
- `Moment.ofTimestamp`: the UTC reading of a number of seconds since 1970.
- `Moment.isoText`: the written form.
- `Moment.ofText`: reads a field.
-/

namespace IdentityService

/-- A wall-clock reading. -/
structure Moment where
  /-- Microseconds from 1970-01-01T00:00:00 on the same wall clock. -/
  wall : Int
  /-- Seconds by which the wall clock is ahead of UTC. -/
  offset : Option Int
  deriving DecidableEq, Repr

namespace Moment

open Text

/-! ## §1 Range and arithmetic -/

/-- The first reading of year 1. -/
def minWall : Int := -62135596800000000

/-- The last reading of year 9999. -/
def maxWall : Int := 253402300799999999

/-- A reading lies in the years 1 to 9999. -/
def inRange (wall : Int) : Bool := decide (minWall ≤ wall) && decide (wall ≤ maxWall)

/-- A reading moved by a duration, unless it leaves the range. -/
def add? (m : Moment) (d : Duration) : Option Moment :=
  let wall := m.wall + d.microseconds
  if inRange wall then some { m with wall := wall } else none

/-- A reading moved by a duration in a zone, which gives the offset at every reading of its wall
clock. -/
def addIn? (zone : Int → Option Int) (m : Moment) (d : Duration) : Option Moment :=
  (m.add? d).map fun moved => { moved with offset := zone moved.wall }

/-- In a zone of one offset nothing but the reading changes. -/
@[simp]
theorem addIn?_fixed (m : Moment) (d : Duration) :
    m.addIn? (fun _ => m.offset) d = m.add? d := by
  rw [addIn?, add?]
  split <;> rfl

/-- The reading at the start of its second. -/
def truncated (m : Moment) : Moment := { m with wall := m.wall - m.wall % 1000000 }

/-- Microseconds since 1970 in UTC; a reading without offset counts as UTC, as on a machine that
runs in UTC. -/
def instant (m : Moment) : Int := m.wall - m.offset.getD 0 * 1000000

/-- Seconds since 1970 in UTC, rounded toward zero. -/
def timestamp (m : Moment) : Int := Duration.wholeSeconds ⟨m.instant⟩

/-- Whether a reading is later than another.  A reading with an offset and one without cannot
be compared. -/
def isAfter? (a b : Moment) : Option Bool :=
  if a.offset.isSome = b.offset.isSome then some (decide (b.instant < a.instant)) else none

/-- The date on the wall clock. -/
def date? (m : Moment) : Option Date := Date.ofDayNumber? (m.wall.fdiv 86400000000)

/-! ## §2 Timestamps -/

/-- Why a number of seconds is no moment. -/
inductive TimestampFault
  /-- It needs more than 64 bits. -/
  | tooWide
  /-- Its year needs more than 32 bits. -/
  | yearTooWide
  /-- Its year is not between 1 and 9999. -/
  | yearOutOfRange
  deriving DecidableEq, Repr

/-- The UTC reading of a number of seconds since 1970. -/
def ofTimestamp (seconds : Int) : Except TimestampFault Moment :=
  if seconds < -9223372036854775808 ∨ 9223372036854775808 ≤ seconds then .error .tooWide
  else
    let year := (Calendar.ofDayNumber (seconds.fdiv 86400)).1
    if year - 1900 < -2147483648 ∨ 2147483648 ≤ year - 1900 then .error .yearTooWide
    else if inRange (seconds * 1000000) then .ok ⟨seconds * 1000000, some 0⟩
    else .error .yearOutOfRange

/-! ## §3 Written form -/

/-- The time of day of a reading, with six decimals when it is no whole second. -/
def timeText (m : Moment) : String :=
  let time := (m.wall.fmod 86400000000).toNat
  let second := time / 1000000
  let fraction := time % 1000000
  padded 2 (second / 3600) ++ ":" ++ padded 2 (second / 60 % 60) ++ ":" ++ padded 2 (second % 60)
    ++ (if fraction = 0 then "" else "." ++ padded 6 fraction)

/-- An offset as hours and minutes, and seconds when there are any. -/
def offsetText (seconds : Int) : String :=
  let n := seconds.natAbs
  (if seconds < 0 then "-" else "+") ++ padded 2 (n / 3600) ++ ":" ++ padded 2 (n / 60 % 60)
    ++ (if n % 60 = 0 then "" else ":" ++ padded 2 (n % 60))

/-- Date and time of day without the offset. -/
def wallText (m : Moment) : String :=
  let (year, month, day) := Calendar.ofDayNumber (m.wall.fdiv 86400000000)
  padded 4 year.toNat ++ "-" ++ padded 2 month ++ "-" ++ padded 2 day ++ "T" ++ m.timeText

/-- The written form. -/
def isoText (m : Moment) : String :=
  m.wallText ++ (match m.offset with
    | some seconds => offsetText seconds
    | none => "")

/-- The written form in response bodies, where UTC is the letter Z. -/
def bodyText (m : Moment) : String :=
  m.wallText ++ (match m.offset with
    | some seconds => if seconds = 0 then "Z" else offsetText seconds
    | none => "")

/-! ## §4 Reading -/

/-- Why a field is no moment. -/
inductive ReadFault
  /-- The text has no known form. -/
  | unreadable
  /-- The form is right but the moment does not exist. -/
  | outOfRange
  deriving DecidableEq, Repr

/-- Two digits as a number below a bound. -/
def twoDigits? (bound : Nat) (a b : Char) : Option Nat :=
  if isAsciiDigit a && isAsciiDigit b then
    let n := digitsValue [a, b]
    if n < bound then some n else none
  else none

/-- An offset: none, the letter Z, or a sign with hours and minutes, with or without a colon.  The
minus sign may be a hyphen. -/
def readOffset? : List Char → Option (Option Int)
  | [] => some none
  | ['Z'] => some (some 0)
  | ['z'] => some (some 0)
  | sign :: h1 :: h2 :: rest => do
      let hours ← twoDigits? 24 h1 h2
      let minutes ← match rest with
        | [':', m1, m2] => twoDigits? 60 m1 m2
        | [m1, m2] => twoDigits? 60 m1 m2
        | _ => none
      let seconds : Int := hours * 3600 + minutes * 60
      if sign = '+' then some (some seconds)
      else if sign = '-' || sign = '\u2212' then some (some (-seconds))
      else none
  | _ => none

/-- Microseconds from at least one decimal; what lies beyond the sixth is dropped. -/
def readDecimals? (ds : List Char) : Option Nat :=
  if ds.isEmpty then none
  else some (digitsValue ((ds ++ List.replicate 6 '0').take 6))

/-- Seconds, decimals and offset after hours and minutes, as microseconds and an offset. -/
def readSeconds? : List Char → Option (Nat × Option Int)
  | ':' :: s1 :: s2 :: mark :: rest => do
      let seconds ← twoDigits? 60 s1 s2
      if mark = '.' || mark = ',' then
        let decimals ← readDecimals? (rest.takeWhile isAsciiDigit)
        let offset ← readOffset? (rest.dropWhile isAsciiDigit)
        some (seconds * 1000000 + decimals, offset)
      else
        let offset ← readOffset? (mark :: rest)
        some (seconds * 1000000, offset)
  | [':', s1, s2] => (twoDigits? 60 s1 s2).map fun seconds => (seconds * 1000000, none)
  | cs => (readOffset? cs).map (0, ·)

/-- A time of day after the mark that separates it from the date. -/
def readTime? : List Char → Option (Nat × Option Int)
  | mark :: h1 :: h2 :: ':' :: m1 :: m2 :: rest => do
      let hours ← twoDigits? 24 h1 h2
      let minutes ← twoDigits? 60 m1 m2
      let (micros, offset) ← readSeconds? rest
      if mark = 'T' || mark = 't' || mark = ' ' || mark = '_' then
        some ((hours * 3600 + minutes * 60) * 1000000 + micros, offset)
      else none
  | _ => none

/-- A date that may lie in year 0, with a time of day. -/
def readDated? (cs : List Char) : Option (Except ReadFault Moment) := do
  let (micros, offset) ← if cs.length = 10 then some (0, none) else readTime? (cs.drop 10)
  match Date.ofIsoChars? (cs.take 10) with
  | some d => some (.ok ⟨d.dayNumber * 86400000000 + micros, offset⟩)
  | none =>
      -- year 0 has the calendar of year 400
      match cs.take 10 with
      | '0' :: '0' :: '0' :: '0' :: rest =>
          (Date.ofIsoChars? ('0' :: '4' :: '0' :: '0' :: rest)).map fun _ => .error .outOfRange
      | _ => none

/-- The number of seconds above which a number counts as milliseconds. -/
def millisecondThreshold : Nat := 20000000000

/-- The reading of a whole number of seconds since 1970, or of milliseconds when it is large. -/
def wallOfInteger (n : Int) : Int :=
  if n.natAbs ≤ millisecondThreshold then n * 1000000 else n * 1000

/-- The reading of a fractional number of seconds or milliseconds.  The microseconds are counted
from the second below. -/
def wallOfFraction? (x : Binary64) : Option Int := do
  let x := if x.isBeyond millisecondThreshold then x / .ofInt 1000 else x
  let seconds ← x.floor?
  let micros ← ((x - .ofInt seconds) * .ofInt 1000000).rounded?
  some (seconds * 1000000 + micros)

/-- The UTC moment of a reading, if it exists. -/
def ofWall (wall : Int) : Except ReadFault Moment :=
  if inRange wall then .ok ⟨wall, some 0⟩ else .error .outOfRange

/-- The UTC reading of a whole number of seconds. -/
def ofInteger (n : Int) : Except ReadFault Moment := ofWall (wallOfInteger n)

/-- The UTC reading of a fractional number of seconds. -/
def ofFraction (x : Binary64) : Except ReadFault Moment :=
  match wallOfFraction? x with
  | some wall => ofWall wall
  | none => .error .outOfRange

/-- The first reading of year 0. -/
def yearZeroWall : Int := -62167219200000000

/-- The reading of a number in a text: a sign, digits that fit in 64 bits, and after a point
anything that continues a decimal fraction. -/
def numberWall? (cs : List Char) : Option Int := do
  let (negative, rest) := Number.takeSign cs
  let whole := digitsValue (rest.takeWhile isAsciiDigit)
  if !(rest.head?.any isAsciiDigit) || 9223372036854775807 < whole then none
  else
    match rest.dropWhile isAsciiDigit with
    | [] => some (wallOfInteger (if negative then -(whole : Int) else whole))
    | '.' :: _ => (Number.readSigned? cs).bind wallOfFraction?
    | _ => none

/-- Reads a field: a date with or without a time of day, or a number of seconds.  A number beyond
the known years is no moment at all, but one in year 0 is a moment that does not exist. -/
def ofText (s : String) : Except ReadFault Moment :=
  match readDated? s.toList with
  | some result => result
  | none =>
      match numberWall? s.toList with
      | some wall =>
          if yearZeroWall ≤ wall ∧ wall ≤ maxWall then ofWall wall else .error .unreadable
      | none => .error .unreadable

end Moment

end IdentityService
