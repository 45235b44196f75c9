import IdentityService.Bytes.Utf8
import IdentityService.Bytes.Utf16

/-!
# Encodings of a Text in Bytes

A JSON text comes in any of the encodings of Unicode.  A byte order mark names the
encoding.  Without one the zero bytes at the front do, because the first two
characters of such a text are ASCII.

## Main definitions

- `Encoding.ofBytes`: the encoding of a text, and its bytes after the mark.
- `Encoding.decodeAny?`: the characters of a JSON text in any encoding.
-/

namespace IdentityService

/-- An encoding; the wide ones have the low byte first or last. -/
inductive Encoding
  | utf8
  | utf16 (lowFirst : Bool)
  | utf32 (lowFirst : Bool)
  deriving DecidableEq, Repr

namespace Encoding

/-! ## §1 Recognition -/

/-- The byte order marks, a longer one before its own beginning. -/
def marks : List (List UInt8 × Encoding) :=
  [([0x00, 0x00, 0xFE, 0xFF], utf32 false), ([0xFF, 0xFE, 0x00, 0x00], utf32 true),
    ([0xFE, 0xFF], utf16 false), ([0xFF, 0xFE], utf16 true), ([0xEF, 0xBB, 0xBF], utf8)]

/-- The encoding of a text without a mark, by the zeros among its first four bytes, or its first
two when there are no more. -/
def ofZeros : List UInt8 → Encoding
  | a :: b :: c :: d :: _ =>
      if a = 0 then (if b = 0 then utf32 false else utf16 false)
      else if b = 0 then (if c = 0 ∧ d = 0 then utf32 true else utf16 true)
      else utf8
  | [a, b] => if a = 0 then utf16 false else if b = 0 then utf16 true else utf8
  | _ => utf8

/-- The encoding of a text, and its bytes after the mark. -/
def ofBytes (bytes : List UInt8) : Encoding × List UInt8 :=
  match marks.find? (·.1.isPrefixOf bytes) with
  | some (mark, e) => (e, bytes.drop mark.length)
  | none => (ofZeros bytes, bytes)

/-! ## §2 Decoding -/

/-- The code point in four bytes. -/
def pointOfBytes? (lowFirst : Bool) (a b c d : UInt8) : Option Nat :=
  let n := if lowFirst then a.toNat + 256 * (b.toNat + 256 * (c.toNat + 256 * d.toNat))
    else d.toNat + 256 * (c.toNat + 256 * (b.toNat + 256 * a.toNat))
  if n < 0x110000 then some n else none

/-- The code points that groups of four bytes spell. -/
def fours? (lowFirst : Bool) : List UInt8 → Option (List Nat)
  | [] => some []
  | a :: b :: c :: d :: rest => do
      let n ← pointOfBytes? lowFirst a b c d
      (fours? lowFirst rest).map (n :: ·)
  | _ => none

/-- The code points that bytes spell in an encoding. -/
def points? : Encoding → List UInt8 → Option (List Nat)
  | utf8, bytes => Utf8.points? bytes
  | utf16 lowFirst, bytes => Utf16.points? lowFirst bytes
  | utf32 lowFirst, bytes => fours? lowFirst bytes

/-- A spelling that breaks a string literal around it and that nothing else in a JSON text may
hold: a letter, and the same half of a surrogate pair twice. -/
def brokenSpelling : List Char := "x\\udc00\\udc00".toList

/-- The character with a code point.  A half of a surrogate pair is none, and is spelled out. -/
def spelled (n : Nat) : List Char := if n.isValidChar then [Char.ofNat n] else brokenSpelling

/-- The characters of a JSON text in any encoding. -/
def decodeAny? (bytes : List UInt8) : Option (List Char) :=
  let (e, bytes) := ofBytes bytes
  (e.points? bytes).map (·.flatMap spelled)

end Encoding

end IdentityService
