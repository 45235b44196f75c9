import IdentityService.Text.Printable
import IdentityService.Text.Digits
import IdentityService.Text.RawText

/-!
# Quoted Texts

The form in which a message shows a text it was given: between quotes, with
everything that would not print escaped, so that two different texts never look
the same.
-/

namespace IdentityService.Text

/-! ## §1 Escapes -/

/-- A number in base sixteen, lower-case, padded with zeros to `width` digits. -/
def hex (width n : Nat) : List Char :=
  let digits := Nat.toDigits 16 n
  List.replicate (width - digits.length) '0' ++ digits

/-- The numeric escape of a character: two, four or eight digits, the fewest that fit. -/
def numericEscape (n : Nat) : List Char :=
  if n ≤ 0xFF then '\\' :: 'x' :: hex 2 n
  else if n ≤ 0xFFFF then '\\' :: 'u' :: hex 4 n
  else '\\' :: 'U' :: hex 8 n

/-- One character between quotes of the given kind. -/
def quotedChar (quote c : Char) : List Char :=
  if c = quote || c = '\\' then ['\\', c]
  else if c = '\n' then ['\\', 'n']
  else if c = '\r' then ['\\', 'r']
  else if c = '\t' then ['\\', 't']
  else if isPrintable c then [c]
  else numericEscape c.toNat

/-! ## §2 Quoting -/

/-- Single quotes, unless the text holds a single quote and no double quote. -/
def quoteFor (cs : List Char) : Char :=
  if cs.contains '\'' && !cs.contains '"' then '"' else '\''

/-- A text between quotes. -/
def quoted (s : String) : String :=
  let quote := quoteFor s.toList
  String.ofList (quote :: s.toList.flatMap (quotedChar quote) ++ [quote])

/-- One code point between quotes of the given kind. -/
def quotedPoint (quote : Char) (n : Nat) : List Char :=
  if n.isValidChar then quotedChar quote (Char.ofNat n) else numericEscape n

/-- A string between quotes. -/
def quotedRaw : RawText → String
  | .text s => quoted s
  | .broken b =>
      let quote := quoteFor (Utf16.shown b.units)
      String.ofList (quote :: (Utf16.joined b.units).flatMap (quotedPoint quote) ++ [quote])

end IdentityService.Text
