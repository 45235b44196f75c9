import IdentityService.Bytes.Utf16
import IdentityService.Json.Value
import IdentityService.Number.Shortest

/-!
# Compact JSON Text

Values are written without spaces and in ASCII: every other character becomes one
escape, or two when it lies beyond the first plane.
-/

namespace IdentityService.Json

/-! ## §1 Strings -/

/-- A hexadecimal digit, lower-case. -/
def hexDigit (n : Nat) : Char :=
  if n < 10 then Char.ofNat (48 + n) else Char.ofNat (87 + n)

/-- A four-digit escape of a code unit. -/
def unitEscape (u : UInt16) : List Char :=
  let n := u.toNat
  ['\\', 'u', hexDigit (n / 4096 % 16), hexDigit (n / 256 % 16), hexDigit (n / 16 % 16),
    hexDigit (n % 16)]

/-- One character of a string literal.  Printable ASCII stands for itself, apart from the quote
and the backslash. -/
def literalChar (c : Char) : List Char :=
  if c = '"' then ['\\', '"']
  else if c = '\\' then ['\\', '\\']
  else if c = '\n' then ['\\', 'n']
  else if c = '\r' then ['\\', 'r']
  else if c = '\t' then ['\\', 't']
  else if c = '\x08' then ['\\', 'b']
  else if c = '\x0c' then ['\\', 'f']
  else if ' ' ≤ c ∧ c ≤ '~' then [c]
  else (Utf16.unitsOfChar c).flatMap unitEscape

/-- A string literal. -/
def literal (s : String) : List Char := '"' :: s.toList.flatMap literalChar ++ ['"']

/-- One code unit of a string literal: a character when it is ASCII, and else an escape. -/
def literalUnit (u : UInt16) : List Char :=
  if u.toNat < 128 then literalChar (Char.ofNat u.toNat) else unitEscape u

/-- The literal of a string that spells no text. -/
def brokenLiteral (b : BrokenText) : List Char := '"' :: b.units.flatMap literalUnit ++ ['"']

/-! ## §2 Values -/

/-- An integer in base ten. -/
def integerText (n : Int) : List Char :=
  if n < 0 then '-' :: Nat.toDigits 10 n.natAbs else Nat.toDigits 10 n.natAbs

/-- A fractional number; the two infinities and not-a-number are written as words. -/
def fractionText : Binary64 → List Char
  | .notANumber => "NaN".toList
  | .infinite negative => (if negative then "-Infinity" else "Infinity").toList
  | x => x.text.toList

mutual

/-- A value in compact form. -/
def compact : Json → List Char
  | null => ['n', 'u', 'l', 'l']
  | bool true => ['t', 'r', 'u', 'e']
  | bool false => ['f', 'a', 'l', 's', 'e']
  | int n => integerText n
  | fraction x => fractionText x
  | text s => literal s
  | brokenText b => brokenLiteral b
  | array items => '[' :: compactItems items ++ [']']
  | object fields => '{' :: compactFields fields ++ ['}']

/-- Items with commas between them. -/
def compactItems : List Json → List Char
  | [] => []
  | [v] => compact v
  | v :: w :: rest => compact v ++ ',' :: compactItems (w :: rest)

/-- Fields with commas between them. -/
def compactFields : List (String × Json) → List Char
  | [] => []
  | [(k, v)] => literal k ++ ':' :: compact v
  | (k, v) :: f :: rest => literal k ++ ':' :: compact v ++ ',' :: compactFields (f :: rest)

end

/-- The compact text of a value. -/
def render (v : Json) : String := String.ofList (compact v)

end IdentityService.Json
