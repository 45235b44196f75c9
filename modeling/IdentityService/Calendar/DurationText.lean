import IdentityService.Calendar.Duration
import IdentityService.Text.Digits

/-!
# Durations in Text

Three written forms of a duration, each with an optional sign: a period of amounts with
unit letters, a count of days that a clock time may follow, and a clock time whose hours
may go beyond a day.

## Main definitions

- `Period.read?`: a period, which starts with the letter P.
- `readDays?`, `readClock?`: the other two forms.
- `Duration.ofText`: reads a field.
-/

namespace IdentityService

open Text

namespace Duration

/-! ## §1 Counts -/

/-- A count that fits in 32 bits. -/
def count? (n : Nat) : Option Nat := if n < 4294967296 then some n else none

/-- A count in decimal digits, at least one, and the rest of the text. -/
def readCount? (cs : List Char) : Option (Nat × List Char) := do
  let ds := cs.takeWhile isAsciiDigit
  if ds.isEmpty then none else some (← count? (digitsValue ds), cs.dropWhile isAsciiDigit)

/-- Decimals as a fraction.  The digits and their scale are gathered in double precision, and
divided at the end. -/
def fractionOfDigits (ds : List Char) : Binary64 :=
  let (digits, scale) := ds.foldl (fun (digits, scale) c =>
    (digits * .ofInt 10 + .ofInt (c.toNat - 48), scale * .ofInt 10))
    (Binary64.ofInt 0, Binary64.ofInt 1)
  digits / scale

/-- A count with or without decimals, and the rest of the text.  A point or a comma may stand
without a digit behind it. -/
def readAmount? (cs : List Char) : Option (Nat × Option Binary64 × List Char) := do
  let (n, rest) ← readCount? cs
  match rest with
  | mark :: more =>
      if mark = '.' || mark = ',' then
        some (n, some (fractionOfDigits (more.takeWhile isAsciiDigit)),
          more.dropWhile isAsciiDigit)
      else some (n, none, rest)
  | [] => some (n, none, [])

/-- The whole part of a fraction that is not negative, and what is left of it. -/
def splitWhole (x : Binary64) : Nat × Binary64 :=
  let whole := x.truncated?.getD 0
  (whole.toNat, x - .ofInt whole)

/-! ## §2 Periods -/

/-- What a period has counted, each part in 32 bits. -/
structure Period where
  days : Nat
  seconds : Nat
  micros : Nat
  deriving DecidableEq, Repr

namespace Period

/-- Adds days, seconds and microseconds. -/
def add? (p : Period) (days seconds micros : Nat) : Option Period := do
  some ⟨← count? (p.days + days), ← count? (p.seconds + seconds), ← count? (p.micros + micros)⟩

/-- Adds a fraction of a second. -/
def addFraction? (p : Period) (x : Binary64) : Option Period :=
  let (seconds, rest) := splitWhole x
  p.add? 0 seconds ((rest * .ofInt 1000000).rounded?.getD 0).toNat

/-- The same period with fewer than a million microseconds. -/
def carried? (p : Period) : Option Period := do
  some ⟨p.days, ← count? (p.seconds + p.micros / 1000000), p.micros % 1000000⟩

/-- The days of a unit of the calendar; years and months have a fixed length. -/
def unitDays? (c : Char) : Option Nat :=
  if c = 'Y' then some 365
  else if c = 'M' then some 30
  else if c = 'W' then some 7
  else if c = 'D' then some 1
  else none

/-- The seconds of a unit of the clock. -/
def unitSeconds? (c : Char) : Option Nat :=
  if c = 'H' then some 3600
  else if c = 'M' then some 60
  else if c = 'S' then some 1
  else none

/-- Adds an amount of a unit, of the clock or of the calendar. -/
def addAmount? (p : Period) (ofClock : Bool) (unit : Char) (n : Nat) (fraction : Option Binary64) :
    Option Period := do
  if ofClock then
    let seconds ← unitSeconds? unit
    let p ← p.add? 0 (n * seconds) 0
    match fraction with
    | some x => p.addFraction? (x * .ofInt seconds)
    | none => some p
  else
    let days ← unitDays? unit
    let p ← p.add? (n * days) 0 0
    match fraction with
    | some x =>
        let (extra, rest) := splitWhole (x * .ofInt days)
        (← p.add? extra 0 0).addFraction? (rest * .ofInt 86400)
    | none => some p

/-- Reads amounts with their units.  The letter T, which may stand once, is followed by units of
the clock; after an amount with decimals there is no other. -/
def readFrom? : Nat → Bool → Bool → Period → List Char → Option Period
  | 0, _, _, _, _ => none
  | fuel + 1, ofClock, finished, p, cs =>
      match cs with
      | [] => some p
      | 'T' :: rest => if ofClock then none else readFrom? fuel true finished p rest
      | cs =>
          if finished then none
          else do
            let (n, fraction, rest) ← readAmount? cs
            match rest with
            | unit :: rest => do
                let p ← p.addAmount? ofClock unit n fraction
                readFrom? fuel ofClock fraction.isSome p rest
            | [] => none

/-- Reads a period behind its first letter. -/
def read? (cs : List Char) : Option Period :=
  readFrom? (cs.length + 1) false false ⟨0, 0, 0⟩ cs

end Period

/-! ## §3 Days and clock times -/

/-- A number of two digits below sixty. -/
def readSixtieth? (a b : Char) : Option Nat :=
  if isAsciiDigit a && isAsciiDigit b then
    let n := digitsValue [a, b]
    if n < 60 then some n else none
  else none

/-- Decimals of a second, at most six of them, as microseconds. -/
def readMicros? (ds : List Char) : Option Nat :=
  if ds.isEmpty || !ds.all isAsciiDigit then none
  else some (digitsValue ((ds ++ List.replicate 6 '0').take 6))

/-- Minutes, seconds and decimals as seconds and microseconds. -/
def readMinutes? : List Char → Option (Nat × Nat)
  | [m1, m2] => do some ((← readSixtieth? m1 m2) * 60, 0)
  | [m1, m2, ':', s1, s2] => do
      some ((← readSixtieth? m1 m2) * 60 + (← readSixtieth? s1 s2), 0)
  | m1 :: m2 :: ':' :: s1 :: s2 :: mark :: ds => do
      let seconds := (← readSixtieth? m1 m2) * 60 + (← readSixtieth? s1 s2)
      if mark = '.' || mark = ',' then some (seconds, ← readMicros? ds) else none
  | _ => none

/-- Hours of up to ten digits. -/
def readHours? (ds : List Char) : Option Nat :=
  if ds.length ≤ 10 && ds.all isAsciiDigit && digitsValue ds ≤ 2400000000 then
    some (digitsValue ds)
  else none

/-- A clock time.  Its hours may be many and may be left out; behind them it has at most twelve
characters, and more are dropped. -/
def readClock? (cs : List Char) : Option Period :=
  if cs.length < 5 then none
  else
    match cs.dropWhile (· != ':') with
    | _ :: rest => do
        let hours ← readHours? (cs.takeWhile (· != ':'))
        let (seconds, micros) ← readMinutes? (rest.take 12)
        some ⟨hours / 24, hours % 24 * 3600 + seconds, micros⟩
    | [] => none

/-- The rest behind the word for days, in one case, or behind its first letter alone. -/
def afterDayWord? : List Char → Option (List Char)
  | 'a' :: 'y' :: 's' :: rest => some rest
  | 'a' :: 'y' :: rest => some rest
  | 'A' :: 'Y' :: 'S' :: rest => some rest
  | 'A' :: 'Y' :: rest => some rest
  | 'a' :: _ => none
  | 'A' :: _ => none
  | rest => some rest

/-- The text without one given character at its front. -/
def without (c : Char) : List Char → List Char
  | d :: rest => if d = c then rest else d :: rest
  | [] => []

/-- Reads a number of days and a clock time, or days alone.  A comma and a space may stand between
them, in this order. -/
def readDays? (cs : List Char) : Option Period := do
  let (days, rest) ← readCount? cs
  match without ' ' rest with
  | letter :: rest =>
      if letter = 'd' || letter = 'D' then
        match without ' ' (without ',' (← afterDayWord? rest)) with
        | [] => some ⟨days, 0, 0⟩
        | rest => do
            let time ← readClock? rest
            some { time with days := ← count? (days + time.days) }
      else none
  | [] => none

/-! ## §4 Fields -/

/-- Reads a text behind its sign.  A text with a letter for days in it, or shorter than a clock
time, counts days. -/
def readUnsigned? (s : List Char) (cs : List Char) : Option Period :=
  match cs with
  | 'P' :: rest => if s.length < 3 then none else Period.read? rest
  | cs =>
      if s.any (fun c => c = 'd' || c = 'D') || s.length < 5 then readDays? cs else readClock? cs

/-- Reads a field. -/
def ofText (s : String) : Except ReadFault Duration :=
  let cs := s.toList
  let (negative, rest) := match cs with
    | '+' :: rest => (false, rest)
    | '-' :: rest => (true, rest)
    | _ => (false, cs)
  match (readUnsigned? cs rest).bind Period.carried? with
  | some p => ofParts negative p.days p.seconds p.micros
  | none => .error .unreadable

end Duration

end IdentityService
