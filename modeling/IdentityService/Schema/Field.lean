import IdentityService.Schema.Checked
import IdentityService.Calendar.DurationText
import IdentityService.Calendar.Moment

/-!
# Field Checks

How each kind of field reads a JSON value.  Strings are taken as they are; numbers,
flags, durations and moments are also read from the other forms in which they are
commonly sent.

A field takes any string, also one that spells no text, unless a bound on its length has
to be checked.  Records whose strings are kept as texts read them by `plainText`: a broken
string in such a field is left out of the description, and is refused.
-/

namespace IdentityService.Schema

open Checked

/-- A check reads a JSON value. -/
abbrev Check (α : Type) := Json → Checked α

/-! ## §1 Texts and collections -/

/-- A string. -/
def text : Check RawText
  | .text s => ok (.text s)
  | .brokenText b => ok (.broken b)
  | _ => fail .textExpected

/-- A string that spells a text. -/
def plainText : Check String
  | .text s => ok s
  | .brokenText _ => fail .textMalformed
  | _ => fail .textExpected

/-- A string with at least one character, which must spell a text to have its length checked. -/
def nonEmptyText : Check String
  | .text s => if s.isEmpty then fail .textTooShort else ok s
  | .brokenText _ => fail .textMalformed
  | _ => fail .textExpected

/-- A value that may be null. -/
def optional {α : Type} (check : Check α) : Check (Option α)
  | .null => ok none
  | v => some <$> check v

/-- Checks items from an index on. -/
def itemsFrom {α : Type} (check : Check α) : Nat → List Json → Checked (List α)
  | _, [] => ok []
  | i, v :: rest => List.cons <$> (check v).within (.item i) <*> itemsFrom check (i + 1) rest

/-- A list whose items all pass a check. -/
def list {α : Type} (check : Check α) : Check (List α)
  | .array items => itemsFrom check 0 items
  | _ => fail .listExpected

/-- An object with any fields. -/
def object : Check Fields
  | .object fs => ok fs
  | _ => fail .objectExpected

/-- An object read as a record. -/
def record {α : Type} (read : Fields → Checked α) : Check α
  | .object fs => read fs
  | _ => fail .recordExpected

/-- One of a set of named members. -/
def oneOf {α : Type} (issue : IssueKind) (members : List (String × α)) : Check α
  | .text s =>
      match members.find? (·.1 == s) with
      | some m => ok m.2
      | none => fail issue
  | _ => fail issue

/-! ## §2 Numbers and flags -/

/-- The texts that are read as a flag, in lower case. -/
def flagWords : List (String × Bool) :=
  [("0", false), ("1", true), ("t", true), ("f", false), ("true", true), ("false", false),
    ("y", true), ("n", false), ("yes", true), ("no", false), ("on", true), ("off", false)]

/-- A fraction is read as an integer only below this magnitude. -/
def fractionBound : Nat := 9223372036854775808

/-- The integer that a fraction is read as: it has no fractional part and a bounded magnitude. -/
def wholeFraction (x : Binary64) : Checked Int :=
  match x.integer? with
  | some n => if n.natAbs < fractionBound then ok n else fail .integerTooLong
  | none => fail (if x.truncated?.isSome then .integerFractional else .numberNotFinite)

/-- Whether an integer has a signed form in 64 bits. -/
def isMachineSized (n : Int) : Bool :=
  decide (-9223372036854775808 ≤ n) && decide (n < 9223372036854775808)

/-- The finite fraction nearest to an integer, if there is one. -/
def nearestFraction? (n : Int) : Option Binary64 :=
  match Binary64.ofInt n with
  | .finite negative m e => some (.finite negative m e)
  | _ => none

/-- The flag that a number is read as. -/
def flagOfInt (n : Int) : Checked Bool :=
  if n = 0 then ok false else if n = 1 then ok true else fail .flagUnreadable

/-- A flag: a boolean, the numbers zero and one, or one of the flag words in any case. -/
def flag : Check Bool
  | .bool b => ok b
  | .int n => if isMachineSized n then flagOfInt n else fail .flagExpected
  | .fraction x =>
      match wholeFraction x with
      | ok n => flagOfInt n
      | _ => fail .flagExpected
  | .text s =>
      match flagWords.find? (·.1 == String.ofList (s.toList.map Char.toLower)) with
      | some w => ok w.2
      | none => fail .flagUnreadable
  | .brokenText _ => fail .flagUnreadable
  | _ => fail .flagExpected

/-- An integer: an integer, a boolean, a fraction without fractional part, or an integer text of
bounded length. -/
def integer : Check Int
  | .int n => ok n
  | .bool b => ok (if b then 1 else 0)
  | .fraction x => wholeFraction x
  | .text s =>
      match Number.readIntegerField s with
      | .ok n => ok n
      | .error .unreadable => fail .integerUnreadable
      | .error .tooLong => fail .integerTooLong
  | .brokenText _ => fail .integerUnreadable
  | _ => fail .integerExpected

/-- A fractional number: any number, a boolean, or a decimal text. -/
def fraction : Check Binary64
  | .fraction x => ok x
  | .int n =>
      match nearestFraction? n with
      | some x => ok x
      | none => fail .fractionExpected
  | .bool b => ok (.ofInt (if b then 1 else 0))
  | .text s =>
      match Number.readFraction? s with
      | some x => ok x
      | none => fail .fractionUnreadable
  | .brokenText _ => fail .fractionUnreadable
  | _ => fail .fractionExpected

/-- A fractional number above zero. -/
def positiveFraction (v : Json) : Checked Binary64 :=
  match fraction v with
  | ok x => if x.isPositive then ok x else fail .fractionTooSmall
  | issues => issues

/-! ## §3 Durations and moments -/

/-- The outcome of reading a duration as a checked value. -/
def ofDurationRead : Except Duration.ReadFault Duration → Checked Duration
  | .ok d => ok d
  | .error .unreadable => fail .durationUnreadable
  | .error .overflow => overflow

/-- A duration: a written one, or a number of seconds.  An integer of more than 64 bits is read as
a fraction. -/
def duration : Check Duration
  | .text s => ofDurationRead (Duration.ofText s)
  | .brokenText _ => fail .durationUnreadable
  | .bool b => ok (.ofSeconds (if b then 1 else 0))
  | .int n =>
      if isMachineSized n then ofDurationRead (Duration.ofInteger n)
      else match nearestFraction? n with
        | some x => ofDurationRead (Duration.ofFraction x)
        | none => fail .durationExpected
  | .fraction x => ofDurationRead (Duration.ofFraction x)
  | _ => fail .durationExpected

/-- The outcome of reading a moment as a checked value. -/
def ofMomentRead : Except Moment.ReadFault Moment → Checked Moment
  | .ok m => ok m
  | .error .unreadable => fail .momentUnreadable
  | .error .outOfRange => fail .momentOutOfRange

/-- A moment: a written date or moment, or a number of seconds since 1970.  An integer of more
than 64 bits is read as a fraction. -/
def moment : Check Moment
  | .text s => ofMomentRead (Moment.ofText s)
  | .brokenText _ => fail .momentUnreadable
  | .int n =>
      if isMachineSized n then ofMomentRead (Moment.ofInteger n)
      else match nearestFraction? n with
        | some x => ofMomentRead (Moment.ofFraction x)
        | none => fail .momentExpected
  | .fraction x => ofMomentRead (Moment.ofFraction x)
  | _ => fail .momentExpected

/-! ## §4 Fields of a record -/

/-- A field that must be present. -/
def required {α : Type} (fs : Fields) (name : String) (check : Check α) : Checked α :=
  match fs.get? name with
  | some v => (check v).within (.field name)
  | none => faulty [⟨[.field name], .missing⟩]

/-- A field with a default. -/
def withDefault {α : Type} (fs : Fields) (name : String) (default : α) (check : Check α) :
    Checked α :=
  match fs.get? name with
  | some v => (check v).within (.field name)
  | none => ok default

end IdentityService.Schema
