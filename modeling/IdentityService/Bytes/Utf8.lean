/-!
# UTF-8

Texts as bytes, and bytes as code points.  Decoding refuses overlong forms and code
points beyond the last plane, but a half of a surrogate pair is a code point.
-/

namespace IdentityService.Utf8

/-! ## §1 Encoding -/

/-- The bytes of one character. -/
def encodeChar (c : Char) : List UInt8 :=
  let n := c.toNat
  if n < 0x80 then [n.toUInt8]
  else if n < 0x800 then [(0xC0 + n / 64).toUInt8, (0x80 + n % 64).toUInt8]
  else if n < 0x10000 then
    [(0xE0 + n / 4096).toUInt8, (0x80 + n / 64 % 64).toUInt8, (0x80 + n % 64).toUInt8]
  else
    [(0xF0 + n / 262144).toUInt8, (0x80 + n / 4096 % 64).toUInt8, (0x80 + n / 64 % 64).toUInt8,
      (0x80 + n % 64).toUInt8]

/-- The bytes of a list of characters. -/
def encode (cs : List Char) : List UInt8 := cs.flatMap encodeChar

/-- The bytes of a text. -/
def ofString (s : String) : List UInt8 := encode s.toList

/-! ## §2 Decoding -/

/-- The low six bits of a continuation byte. -/
def continuation? (b : UInt8) : Option Nat :=
  if 0x80 ≤ b.toNat ∧ b.toNat < 0xC0 then some (b.toNat - 0x80) else none

/-- A code point that needs at least `least`, if it is in range. -/
def pointAbove? (least n : Nat) : Option Nat := if least ≤ n ∧ n < 0x110000 then some n else none

/-- The code points that bytes spell. -/
def points? : List UInt8 → Option (List Nat)
  | [] => some []
  | a :: rest =>
      if a.toNat < 0x80 then (points? rest).map (a.toNat :: ·)
      else if 0xC2 ≤ a.toNat ∧ a.toNat < 0xE0 then
        match rest with
        | b :: rest => do
            let b ← continuation? b
            let n ← pointAbove? 0x80 (64 * (a.toNat - 0xC0) + b)
            (points? rest).map (n :: ·)
        | _ => none
      else if 0xE0 ≤ a.toNat ∧ a.toNat < 0xF0 then
        match rest with
        | b :: c :: rest => do
            let b ← continuation? b
            let c ← continuation? c
            let n ← pointAbove? 0x800 (4096 * (a.toNat - 0xE0) + 64 * b + c)
            (points? rest).map (n :: ·)
        | _ => none
      else if 0xF0 ≤ a.toNat ∧ a.toNat < 0xF5 then
        match rest with
        | b :: c :: d :: rest => do
            let b ← continuation? b
            let c ← continuation? c
            let d ← continuation? d
            let n ← pointAbove? 0x10000 (262144 * (a.toNat - 0xF0) + 4096 * b + 64 * c + d)
            (points? rest).map (n :: ·)
        | _ => none
      else none

end IdentityService.Utf8
