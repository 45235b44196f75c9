/-!
# URL-Safe Base 64

Bytes as text over sixty-four characters, without padding.  There are two readers.
The strict one accepts the written form, with optional padding to a multiple of
four.  The lenient one skips what it does not know and ignores unused bits, so many
texts are read as the same bytes.

## Main definitions

- `encode`: the written form of a list of bytes.
- `decode?`: the strict reader.
- `decodeLeniently?`: the lenient reader.
-/

namespace IdentityService.Base64Url

/-! ## §1 The alphabet -/

/-- The character of a six-bit number. -/
def letter (n : Nat) : Char :=
  if n < 26 then Char.ofNat (65 + n)
  else if n < 52 then Char.ofNat (71 + n)
  else if n < 62 then Char.ofNat (n - 4)
  else if n = 62 then '-' else '_'

/-- The six-bit number of a character. -/
def sextet? (c : Char) : Option Nat :=
  let n := c.toNat
  if 65 ≤ n ∧ n ≤ 90 then some (n - 65)
  else if 97 ≤ n ∧ n ≤ 122 then some (n - 71)
  else if 48 ≤ n ∧ n ≤ 57 then some (n + 4)
  else if c = '-' then some 62
  else if c = '_' then some 63
  else none

/-- The lenient alphabet has the two characters of the standard form as well. -/
def lenientSextet? (c : Char) : Option Nat :=
  if c = '+' then some 62 else if c = '/' then some 63 else sextet? c

/-! ## §2 Writing -/

/-- The six-bit numbers of a list of bytes; the last one is filled up with zero bits. -/
def sextets : List UInt8 → List Nat
  | [] => []
  | [x] => [x.toNat / 4, x.toNat % 4 * 16]
  | [x, y] => [x.toNat / 4, x.toNat % 4 * 16 + y.toNat / 16, y.toNat % 16 * 4]
  | x :: y :: z :: rest =>
      x.toNat / 4 :: (x.toNat % 4 * 16 + y.toNat / 16) :: (y.toNat % 16 * 4 + z.toNat / 64)
        :: z.toNat % 64 :: sextets rest

/-- The written form of a list of bytes. -/
def encode (bytes : List UInt8) : List Char := (sextets bytes).map letter

/-! ## §3 Strict reading -/

/-- The whole bytes in two, three or four six-bit numbers; unused bits are dropped. -/
def groupBytes : List Nat → List UInt8
  | [a, b] => [(a * 4 + b / 16).toUInt8]
  | [a, b, c] => [(a * 4 + b / 16).toUInt8, (b % 16 * 16 + c / 4).toUInt8]
  | [a, b, c, d] =>
      [(a * 4 + b / 16).toUInt8, (b % 16 * 16 + c / 4).toUInt8, (c % 4 * 64 + d).toUInt8]
  | _ => []

/-- The bytes of a list of six-bit numbers whose unused bits are zero. -/
def bytesOf? : List Nat → Option (List UInt8)
  | [] => some []
  | [_] => none
  | [a, b] => if b % 16 = 0 then some (groupBytes [a, b]) else none
  | [a, b, c] => if c % 4 = 0 then some (groupBytes [a, b, c]) else none
  | a :: b :: c :: d :: rest => (bytesOf? rest).map (groupBytes [a, b, c, d] ++ ·)

/-- Drops the padding of a text of full groups; at most two signs. -/
def withoutPadding? (cs : List Char) : Option (List Char) :=
  let body := (cs.reverse.dropWhile (· = '=')).reverse
  let pads := cs.length - body.length
  if pads = 0 then some cs
  else if pads ≤ 2 ∧ cs.length % 4 = 0 then some body
  else none

/-- The strict reader. -/
def decode? (cs : List Char) : Option (List UInt8) := do
  let body ← withoutPadding? cs
  let ns ← body.mapM sextet?
  bytesOf? ns

/-! ## §4 Lenient reading -/

/-- Reads on with the numbers of an unfinished group and the padding signs counted after them.
A padding sign that completes a group of two or three ends the reading; other padding
signs and unknown characters are skipped. -/
def readLeniently? : List Nat → Nat → List Char → Option (List UInt8)
  | group, _, [] => if group.isEmpty then some [] else none
  | group, pads, c :: rest =>
      if c = '=' then
        if 2 ≤ group.length then
          if 4 ≤ group.length + pads + 1 then some (groupBytes group)
          else readLeniently? group (pads + 1) rest
        else readLeniently? group pads rest
      else
        match lenientSextet? c with
        | none => readLeniently? group pads rest
        | some n =>
            if group.length = 3 then
              (readLeniently? [] 0 rest).map (groupBytes (group ++ [n]) ++ ·)
            else readLeniently? (group ++ [n]) 0 rest

/-- A text filled up with padding signs to a multiple of four. -/
def paddedToGroups (cs : List Char) : List Char :=
  cs ++ List.replicate ((4 - cs.length % 4) % 4) '='

/-- The lenient reader, after padding. -/
def decodeLeniently? (cs : List Char) : Option (List UInt8) :=
  readLeniently? [] 0 (paddedToGroups cs)

end IdentityService.Base64Url
