import IdentityService.Json.Value
import IdentityService.Number.Reading
import IdentityService.Bytes.Encoding

/-!
# Reading JSON Text

The reader accepts standard JSON and three words for numbers that are not finite.
Of two fields with one name the later wins.  Integers are exact and of any length: the
bound that an interpreter may put on their digits is taken to be lifted.  A text nested too
deep is a fault of its own kind, because the reader gives up before it knows what follows.

## Main definitions

- `Json.ofString`: reads a text.
- `Json.ofBytes`: reads bytes in any encoding of Unicode.
-/

namespace IdentityService.Json

open IdentityService.Text

/-! ## §1 Strings -/

/-- The value of a hexadecimal digit. -/
def hexValue? (c : Char) : Option Nat :=
  if '0' ≤ c ∧ c ≤ '9' then some (c.toNat - 48)
  else if 'a' ≤ c ∧ c ≤ 'f' then some (c.toNat - 87)
  else if 'A' ≤ c ∧ c ≤ 'F' then some (c.toNat - 55)
  else none

/-- The code unit of a four-digit escape. -/
def unitValue? (a b c d : Char) : Option UInt16 := do
  let a ← hexValue? a
  let b ← hexValue? b
  let c ← hexValue? c
  let d ← hexValue? d
  some (4096 * a + 256 * b + 16 * c + d).toUInt16

/-- The code unit of a one-letter escape. -/
def letterEscape? (c : Char) : Option UInt16 :=
  if c = '"' || c = '\\' || c = '/' then some c.toNat.toUInt16
  else if c = 'b' then some 8
  else if c = 'f' then some 12
  else if c = 'n' then some 10
  else if c = 'r' then some 13
  else if c = 't' then some 9
  else none

/-- The code units of a literal up to its closing quote, and what follows it.  A raw control
character ends the reading. -/
def readUnits? : List Char → Option (List UInt16 × List Char)
  | [] => none
  | '"' :: rest => some ([], rest)
  | '\\' :: 'u' :: a :: b :: c :: d :: rest => do
      let u ← unitValue? a b c d
      let (us, rest) ← readUnits? rest
      some (u :: us, rest)
  | '\\' :: c :: rest => do
      let u ← letterEscape? c
      let (us, rest) ← readUnits? rest
      some (u :: us, rest)
  | c :: rest =>
      if c.toNat < 32 then none
      else do
        let (us, rest) ← readUnits? rest
        some (Utf16.unitsOfChar c ++ us, rest)

/-- The value of a string literal. -/
def ofUnits (us : List UInt16) : Json := raw (.ofUnits us)

/-- The name that a literal gives to a field. -/
def nameOfUnits (us : List UInt16) : String := (RawText.ofUnits us).shown

/-! ## §2 Numbers -/

/-- Whole digits: a single zero, or digits that do not start with zero. -/
def takeWhole? : List Char → Option (List Char × List Char)
  | '0' :: rest => some (['0'], rest)
  | cs =>
      let ds := cs.takeWhile isAsciiDigit
      if ds.isEmpty then none else some (ds, cs.dropWhile isAsciiDigit)

/-- A fraction part, if there is one: a point and at least one digit. -/
def takeFraction : List Char → List Char × List Char
  | '.' :: rest =>
      let ds := rest.takeWhile isAsciiDigit
      if ds.isEmpty then ([], '.' :: rest) else (ds, rest.dropWhile isAsciiDigit)
  | cs => ([], cs)

/-- An exponent part, if there is one: a letter, an optional sign and at least one digit. -/
def takeExponent? : List Char → Option (Int × List Char)
  | c :: rest =>
      if c = 'e' || c = 'E' then
        let (negative, ds) := Number.takeSign rest
        let digits := ds.takeWhile isAsciiDigit
        if digits.isEmpty then none
        else
          let n : Int := digitsValue digits
          some (if negative then -n else n, ds.dropWhile isAsciiDigit)
      else none
  | [] => none

/-- An unsigned number: an integer unless it has a fraction or an exponent. -/
def readMagnitude? (negative : Bool) (cs : List Char) : Option (Json × List Char) := do
  let (whole, rest) ← takeWhole? cs
  let (places, rest) := takeFraction rest
  match takeExponent? rest with
  | some (e, rest) =>
      some (.fraction (.ofDecimal negative (digitsValue (whole ++ places)) (e - places.length)),
        rest)
  | none =>
      if !places.isEmpty then
        some (.fraction (.ofDecimal negative (digitsValue (whole ++ places)) (-places.length)),
          rest)
      else
        let n : Int := digitsValue whole
        some (int (if negative then -n else n), rest)

/-! ## §3 Values -/

/-- Drops the four characters that may stand between tokens. -/
def skipSpace (cs : List Char) : List Char :=
  cs.dropWhile fun c => c = ' ' || c = '\t' || c = '\n' || c = '\r'

/-- The scalar at the front of a text: a word or a number. -/
def readScalar? : List Char → Option (Json × List Char)
  | 'n' :: 'u' :: 'l' :: 'l' :: rest => some (null, rest)
  | 't' :: 'r' :: 'u' :: 'e' :: rest => some (bool true, rest)
  | 'f' :: 'a' :: 'l' :: 's' :: 'e' :: rest => some (bool false, rest)
  | 'N' :: 'a' :: 'N' :: rest => some (fraction .notANumber, rest)
  | 'I' :: 'n' :: 'f' :: 'i' :: 'n' :: 'i' :: 't' :: 'y' :: rest =>
      some (fraction (.infinite false), rest)
  | '-' :: 'I' :: 'n' :: 'f' :: 'i' :: 'n' :: 'i' :: 't' :: 'y' :: rest =>
      some (fraction (.infinite true), rest)
  | '-' :: rest => readMagnitude? true rest
  | cs => readMagnitude? false cs

/-- Why a text is not read. -/
inductive ReadFault
  /-- It is no JSON, or a part of it has no value. -/
  | unreadable
  /-- Its brackets are nested too deep. -/
  | tooDeep
  deriving DecidableEq, Repr

/-- A part of a text that has been read, or none for an unreadable one. -/
def readable {α : Type} : Option α → Except ReadFault α
  | some a => .ok a
  | none => .error .unreadable

/-- The deepest nesting that is read. -/
def maxDepth : Nat := 990

mutual

/-- Reads a value; `fuel` bounds the number of steps and `depth` the nesting left.  A bracket
beyond the depth ends the reading, whatever follows it. -/
def readValue : Nat → Nat → List Char → Except ReadFault (Json × List Char)
  | 0, _, _ => .error .unreadable
  | fuel + 1, depth, cs =>
      match cs with
      | '"' :: rest => do
          let (us, rest) ← readable (readUnits? rest)
          .ok (ofUnits us, rest)
      | '[' :: rest =>
          match depth with
          | 0 => .error .tooDeep
          | depth + 1 =>
              match skipSpace rest with
              | ']' :: rest => .ok (array [], rest)
              | rest => do
                  let (items, rest) ← readItems fuel depth rest
                  .ok (array items, rest)
      | '{' :: rest =>
          match depth with
          | 0 => .error .tooDeep
          | depth + 1 =>
              match skipSpace rest with
              | '}' :: rest => .ok (object [], rest)
              | rest => do
                  let (fields, rest) ← readFields fuel depth [] rest
                  .ok (object fields, rest)
      | cs => readable (readScalar? cs)

/-- Reads the items of an array up to its closing bracket. -/
def readItems : Nat → Nat → List Char → Except ReadFault (List Json × List Char)
  | 0, _, _ => .error .unreadable
  | fuel + 1, depth, cs => do
      let (v, rest) ← readValue fuel depth cs
      match skipSpace rest with
      | ',' :: rest => do
          let (vs, rest) ← readItems fuel depth (skipSpace rest)
          .ok (v :: vs, rest)
      | ']' :: rest => .ok ([v], rest)
      | _ => .error .unreadable

/-- Reads the fields of an object up to its closing brace, after the fields `before`. -/
def readFields : Nat → Nat → Fields → List Char → Except ReadFault (Fields × List Char)
  | 0, _, _, _ => .error .unreadable
  | fuel + 1, depth, before, cs =>
      match cs with
      | '"' :: rest => do
          let (us, rest) ← readable (readUnits? rest)
          match skipSpace rest with
          | ':' :: rest => do
              let (v, rest) ← readValue fuel depth (skipSpace rest)
              let fields := before.set (nameOfUnits us) v
              match skipSpace rest with
              | ',' :: rest => readFields fuel depth fields (skipSpace rest)
              | '}' :: rest => .ok (fields, rest)
              | _ => .error .unreadable
          | _ => .error .unreadable
      | _ => .error .unreadable

end

/-- Fuel for a text: two steps for every bracket that it may open. -/
def fuelFor (cs : List Char) : Nat := 2 * cs.length + 1

/-- Reads a whole text: one value with space around it. -/
def ofChars (cs : List Char) : Except ReadFault Json := do
  let (v, rest) ← readValue (fuelFor cs) maxDepth (skipSpace cs)
  if (skipSpace rest).isEmpty then .ok v else .error .unreadable

/-- Reads a text. -/
def ofString (s : String) : Except ReadFault Json := ofChars s.toList

/-- Reads bytes in any encoding of Unicode. -/
def ofBytes (bytes : List UInt8) : Except ReadFault Json :=
  readable (Encoding.decodeAny? bytes) >>= ofChars

end IdentityService.Json
