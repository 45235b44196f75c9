import IdentityService.Number.Binary64
import IdentityService.Text.Blank
import IdentityService.Text.Digits

/-!
# Reading Numbers from Text

Three grammars of number texts: integers in the digits of any script, integer
fields, which are ASCII and may end in a zero fraction, and decimal fractions with
an exponent.

## Main definitions

- `readInteger?`: an integer in the digits of any script.
- `readIntegerField`: an integer field, which has a greatest length.
- `readFraction?`: a fraction field.
-/

namespace IdentityService.Number

open IdentityService.Text

/-! ## §1 Digit groups -/

/-- Splits off an optional sign. -/
def takeSign : List Char → Bool × List Char
  | '+' :: rest => (false, rest)
  | '-' :: rest => (true, rest)
  | cs => (false, cs)

/-- Digits of any script with single underscores between them, as their values. -/
def groupedDigits? (cs : List Char) : Option (List Nat) :=
  let groups := (String.ofList cs).splitOn "_"
  if groups.any (·.isEmpty) then none
  else (cs.filter (· != '_')).mapM digitValue?

/-- The number written by a list of digit values. -/
def ofDigits (ds : List Nat) : Nat := ds.foldl (fun n d => 10 * n + d) 0

/-! ## §2 Integers -/

/-- Reads an integer in the digits of any script: blanks around it, a sign, and single
underscores between digits are allowed. -/
def readInteger? (s : String) : Option Int := do
  let (negative, cs) := takeSign (trim s.toList)
  let ds ← groupedDigits? cs
  some (if negative then -(ofDigits ds : Int) else ofDigits ds)

/-! ## §3 Integer fields -/

/-- Why a text is no integer field. -/
inductive IntegerFault
  /-- It is not written as an integer. -/
  | unreadable
  /-- It starts as an integer with more digits than are read. -/
  | tooLong
  deriving DecidableEq, Repr

/-- The greatest number of digits of an integer field. -/
def maxDigits : Nat := 4300

/-- Whether a character starts a number without leading zeros. -/
def startsNumber (c : Char) : Bool := c == '-' || (isAsciiDigit c && c != '0')

/-- Drops zeros and underscores up to another digit, a minus sign or a point.  The character before
a point stays, and so does the last one when nothing else follows.  `last` is the one before. -/
def afterZeros? (last : Char) : List Char → Option (List Char)
  | [] => some [last]
  | c :: rest =>
      if c = '0' || c = '_' then afterZeros? c rest
      else if startsNumber c then some (c :: rest)
      else if c = '.' then some (last :: c :: rest)
      else none

/-- Drops leading zeros.  The first character is a digit or a minus sign. -/
def withoutLeadingZeros? : List Char → Option (List Char)
  | [] => none
  | c :: rest =>
      if c = '0' then afterZeros? c rest else if startsNumber c then some (c :: rest) else none

/-- Drops a point at the end that is followed by zeros, of which there is at least one. -/
def withoutZeroFraction (cs : List Char) : List Char :=
  match cs.dropWhile (· != '.') with
  | '.' :: '0' :: zeros => if zeros.all (· == '0') then cs.takeWhile (· != '.') else cs
  | _ => cs

/-- Whether two underscores follow each other. -/
def hasDoubledUnderscore : List Char → Bool
  | '_' :: '_' :: _ => true
  | _ :: rest => hasDoubledUnderscore rest
  | [] => false

/-- Drops underscores, if none is doubled and none stands at an end. -/
def withoutUnderscores? (cs : List Char) : Option (List Char) :=
  if cs.head? == some '_' || cs.getLast? == some '_' || hasDoubledUnderscore cs then none
  else some (cs.filter (· != '_'))

/-- Reads an integer in its plain form: an optional minus sign and digits without leading zeros. -/
def readPlainInteger? (cs : List Char) : Option Int :=
  let (negative, ds) := match cs with
    | '-' :: rest => (true, rest)
    | _ => (false, cs)
  if ds.isEmpty || !ds.all isAsciiDigit || (ds.head? == some '0' && 1 < ds.length) then none
  else if maxDigits < ds.length then none
  else some (if negative then -(digitsValue ds : Int) else digitsValue ds)

/-- Whether a text starts as an integer in its plain form with too many digits. -/
def isTooLong (cs : List Char) : Bool :=
  let cs := match cs with
    | '-' :: rest => rest
    | _ => cs
  cs.head? != some '0' && decide (maxDigits < (cs.takeWhile isAsciiDigit).length)

/-- The plain form of an integer field: a plus sign, leading zeros, a zero fraction and single
underscores are dropped. -/
def plainForm? (cs : List Char) : Option (List Char) := do
  let (negative, cs) := takeSign cs
  if !negative && cs.head? == some '-' then none
  else
    let cs := withoutZeroFraction (← withoutLeadingZeros? cs)
    let cs := (withoutUnderscores? cs).getD cs
    some (if negative then '-' :: cs else cs)

/-- Reads an integer field, with white space around it. -/
def readIntegerField (s : String) : Except IntegerFault Int :=
  let cs := trimWhere isWhiteSpace s.toList
  if isTooLong cs then .error .tooLong
  else match (plainForm? cs).bind readPlainInteger? with
    | some n => .ok n
    | none => .error .unreadable

/-! ## §4 Fractions -/

/-- Reads an exponent part: empty, or `e`, an optional sign and digits. -/
def readExponent? : List Char → Option Int
  | [] => some 0
  | c :: rest =>
      if c = 'e' || c = 'E' then
        let (negative, ds) := takeSign rest
        if ds.isEmpty || !ds.all isAsciiDigit then none
        else some (if negative then -(digitsValue ds : Int) else digitsValue ds)
      else none

/-- Reads an unsigned decimal fraction: digits with an optional point and an exponent, at least
one digit before the exponent. -/
def readMagnitude? (negative : Bool) (cs : List Char) : Option Binary64 := do
  let whole := cs.takeWhile isAsciiDigit
  let rest := cs.dropWhile isAsciiDigit
  let fraction := match rest with
    | '.' :: more => more.takeWhile isAsciiDigit
    | _ => []
  let rest := match rest with
    | '.' :: more => more.dropWhile isAsciiDigit
    | _ => rest
  if whole.isEmpty && fraction.isEmpty then none
  else
    let e ← readExponent? rest
    some (.ofDecimal negative (digitsValue (whole ++ fraction)) (e - fraction.length))

/-- Reads a decimal fraction with a sign, or one of the words for infinity and not-a-number. -/
def readSigned? (cs : List Char) : Option Binary64 :=
  let (negative, body) := takeSign cs
  let word := String.ofList (body.map Char.toLower)
  if word == "inf" || word == "infinity" then some (.infinite negative)
  else if word == "nan" then some .notANumber
  else readMagnitude? negative body

/-- Reads a fraction field: with white space around it, or with underscores in it. -/
def readFraction? (s : String) : Option Binary64 :=
  match readSigned? (trimWhere isWhiteSpace s.toList) with
  | some x => some x
  | none => (withoutUnderscores? s.toList).bind readSigned?

end IdentityService.Number
