/-!
# UTF-16

Characters as one or two code units, and back.  A half of a surrogate pair without
its partner spells no character.
-/

namespace IdentityService.Utf16

/-! ## §1 Code units -/

/-- The code units of a character. -/
def unitsOfChar (c : Char) : List UInt16 :=
  let n := c.toNat
  if n < 0x10000 then [n.toUInt16]
  else [(0xD800 + (n - 0x10000) / 1024).toUInt16, (0xDC00 + (n - 0x10000) % 1024).toUInt16]

/-- Whether a code unit is the first half of a pair. -/
def isFirstHalf (u : UInt16) : Bool := 0xD800 ≤ u.toNat && u.toNat ≤ 0xDBFF

/-- Whether a code unit is the second half of a pair. -/
def isSecondHalf (u : UInt16) : Bool := 0xDC00 ≤ u.toNat && u.toNat ≤ 0xDFFF

/-- The code point of a pair. -/
def pairPoint (first second : UInt16) : Nat :=
  0x10000 + 1024 * (first.toNat - 0xD800) + (second.toNat - 0xDC00)

/-- The characters that code units spell; a half without its partner gives nothing. -/
def joinPairs? : List UInt16 → Option (List Char)
  | [] => some []
  | u :: rest =>
      if isSecondHalf u then none
      else if isFirstHalf u then
        match rest with
        | v :: rest =>
            if isSecondHalf v then (joinPairs? rest).map (Char.ofNat (pairPoint u v) :: ·) else none
        | [] => none
      else (joinPairs? rest).map (Char.ofNat u.toNat :: ·)

/-- The code points that code units spell; a half without its partner stands for itself. -/
def joined : List UInt16 → List Nat
  | u :: v :: rest =>
      if isFirstHalf u && isSecondHalf v then pairPoint u v :: joined rest
      else u.toNat :: joined (v :: rest)
  | us => us.map UInt16.toNat

/-- The characters that code units spell, with the replacement character for every half without
its partner. -/
def shown (us : List UInt16) : List Char :=
  (joined us).map fun n => if n.isValidChar then Char.ofNat n else '\uFFFD'

/-! ## §2 Bytes -/

/-- The code units in pairs of bytes, the low byte first or last. -/
def units? (lowFirst : Bool) : List UInt8 → Option (List UInt16)
  | [] => some []
  | a :: b :: rest =>
      let n := if lowFirst then 256 * b.toNat + a.toNat else 256 * a.toNat + b.toNat
      (units? lowFirst rest).map (n.toUInt16 :: ·)
  | [_] => none

/-- The code points that pairs of bytes spell. -/
def points? (lowFirst : Bool) (bytes : List UInt8) : Option (List Nat) :=
  (units? lowFirst bytes).map joined

end IdentityService.Utf16
