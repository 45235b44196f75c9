import IdentityService.Bytes.Encoding
import IdentityService.Text.RawText

/-!
# Encoded Texts

Every decoder beside its encoder: UTF-8 bytes give back the code points of the text
they encode, code units give back the characters, and a JSON text in UTF-8 is
recognized as such by its first two characters.

## Main statements

- `Utf8.points?_encode`: decoding inverts encoding.
- `Utf16.joinPairs?_units`: pairs of code units are joined again.
- `RawText.replacement_mem_shown`: what people see of a string that spells no text.
- `Encoding.decodeAny?_encode`: a text that starts with two ASCII characters is read back.
-/

namespace IdentityService

/-- The code point of a character is no half of a surrogate pair. -/
theorem toNat_valid (c : Char) : c.toNat < 0xD800 ∨ 0xDFFF < c.toNat ∧ c.toNat < 0x110000 :=
  c.valid

/-! ## §1 UTF-8 -/

namespace Utf8

theorem toNat_toUInt8 {n : Nat} (h : n < 256) : n.toUInt8.toNat = n :=
  UInt8.toNat_ofNat_of_lt' h

private theorem continuation?_toUInt8 {n : Nat} (h : n < 64) :
    continuation? (0x80 + n).toUInt8 = some n := by
  rw [continuation?, toNat_toUInt8 (by omega), if_pos (by omega)]
  simp

private theorem pointAbove?_of_le {least n : Nat} (h : least ≤ n ∧ n < 0x110000) :
    pointAbove? least n = some n :=
  if_pos h

/-- Decoding the bytes of one character gives its code point. -/
theorem points?_encodeChar_append (c : Char) (rest : List UInt8) :
    points? (encodeChar c ++ rest) = (points? rest).map (c.toNat :: ·) := by
  have hvalid := toNat_valid c
  -- one case for each number of bytes; the lead byte tells the reader how many follow
  rw [encodeChar]
  generalize c.toNat = n at hvalid ⊢
  by_cases h1 : n < 0x80
  · simp only [h1, ↓reduceIte, List.cons_append, List.nil_append]
    rw [points?.eq_def]
    simp only [toNat_toUInt8 (show n < 256 by omega), h1, ↓reduceIte]
  by_cases h2 : n < 0x800
  · simp only [h1, h2, ↓reduceIte, List.cons_append, List.nil_append, points?]
    rw [toNat_toUInt8 (by omega), if_neg (by omega), if_pos (by omega),
      continuation?_toUInt8 (by omega)]
    have hn : 64 * (0xC0 + n / 64 - 0xC0) + n % 64 = n := by omega
    simp only [Option.bind_eq_bind, Option.bind_some, hn]
    rw [pointAbove?_of_le (by omega), Option.bind_some]
  by_cases h3 : n < 0x10000
  · simp only [h1, h2, h3, ↓reduceIte, List.cons_append, List.nil_append, points?]
    rw [toNat_toUInt8 (by omega), if_neg (by omega), if_neg (by omega), if_pos (by omega),
      continuation?_toUInt8 (by omega), continuation?_toUInt8 (by omega)]
    have hn : 4096 * (0xE0 + n / 4096 - 0xE0) + 64 * (n / 64 % 64) + n % 64 = n := by omega
    simp only [Option.bind_eq_bind, Option.bind_some, hn]
    rw [pointAbove?_of_le (by omega), Option.bind_some]
  · simp only [h1, h2, h3, ↓reduceIte, List.cons_append, List.nil_append, points?]
    rw [toNat_toUInt8 (by omega), if_neg (by omega), if_neg (by omega), if_neg (by omega),
      if_pos (by omega), continuation?_toUInt8 (by omega), continuation?_toUInt8 (by omega),
      continuation?_toUInt8 (by omega)]
    have hn : 262144 * (0xF0 + n / 262144 - 0xF0) + 4096 * (n / 4096 % 64)
        + 64 * (n / 64 % 64) + n % 64 = n := by omega
    simp only [Option.bind_eq_bind, Option.bind_some, hn]
    rw [pointAbove?_of_le (by omega), Option.bind_some]

/-- **Decoding inverts encoding.** -/
theorem points?_encode (cs : List Char) : points? (encode cs) = some (cs.map Char.toNat) := by
  induction cs with
  | nil => rfl
  | cons c cs ih =>
    rw [encode, List.flatMap_cons, points?_encodeChar_append]
    rw [encode] at ih
    rw [ih]
    rfl

end Utf8

/-! ## §2 UTF-16 -/

namespace Utf16

theorem toNat_toUInt16 {n : Nat} (h : n < 0x10000) : n.toUInt16.toNat = n :=
  UInt16.toNat_ofNat_of_lt' h

/-- The halves of pairs are told apart by their ranges. -/
theorem isSecondHalf_of_isFirstHalf {u : UInt16} (h : isFirstHalf u = true) :
    isSecondHalf u = false := by
  rw [isFirstHalf, ← Bool.decide_and, decide_eq_true_iff] at h
  rw [isSecondHalf, ← Bool.decide_and, decide_eq_false_iff_not]
  omega

/-- A half of a pair is no character. -/
theorem not_isValidChar_of_half {u : UInt16}
    (h : isFirstHalf u = true ∨ isSecondHalf u = true) : ¬ u.toNat.isValidChar := by
  rw [isFirstHalf, isSecondHalf, ← Bool.decide_and, ← Bool.decide_and, decide_eq_true_iff,
    decide_eq_true_iff] at h
  rw [Nat.isValidChar]
  omega

/-- A code unit outside the ranges of halves is a character of its own. -/
theorem joinPairs?_cons_of_plain {u : UInt16}
    (h : ¬ (isFirstHalf u = true ∨ isSecondHalf u = true)) (rest : List UInt16) :
    joinPairs? (u :: rest) = (joinPairs? rest).map (Char.ofNat u.toNat :: ·) := by
  obtain ⟨hfirst, hsecond⟩ := not_or.mp h
  rw [joinPairs?.eq_def]
  simp only [if_neg hsecond, if_neg hfirst]

/-- Two halves are joined. -/
theorem joinPairs?_cons_of_pair {u v : UInt16} (hfirst : isFirstHalf u = true)
    (hsecond : isSecondHalf v = true) (rest : List UInt16) :
    joinPairs? (u :: v :: rest) = (joinPairs? rest).map (Char.ofNat (pairPoint u v) :: ·) := by
  rw [joinPairs?]
  simp only [isSecondHalf_of_isFirstHalf hfirst, hfirst, hsecond, Bool.false_eq_true, ↓reduceIte]

private theorem joinPairs?_plain {n : Nat} (h : n < 0xD800 ∨ 0xDFFF < n ∧ n < 0x10000)
    (rest : List UInt16) :
    joinPairs? (n.toUInt16 :: rest) = (joinPairs? rest).map (Char.ofNat n :: ·) := by
  have hn := toNat_toUInt16 (show n < 0x10000 by omega)
  have hplain : ¬ (isFirstHalf n.toUInt16 = true ∨ isSecondHalf n.toUInt16 = true) := by
    rw [isFirstHalf, isSecondHalf, hn, ← Bool.decide_and, ← Bool.decide_and, decide_eq_true_iff,
      decide_eq_true_iff]
    omega
  rw [joinPairs?_cons_of_plain hplain, hn]

/-- Two halves carry ten bits each. -/
private theorem joinPairs?_pair {u v : UInt16} {a b : Nat} (hu : u.toNat = 0xD800 + a)
    (hv : v.toNat = 0xDC00 + b) (ha : a < 1024) (hb : b < 1024) (rest : List UInt16) :
    joinPairs? (u :: v :: rest)
      = (joinPairs? rest).map (Char.ofNat (0x10000 + 1024 * a + b) :: ·) := by
  have hfirst : isFirstHalf u = true := by
    rw [isFirstHalf, hu, ← Bool.decide_and, decide_eq_true_iff]
    omega
  have hsecond : isSecondHalf v = true := by
    rw [isSecondHalf, hv, ← Bool.decide_and, decide_eq_true_iff]
    omega
  have hpoint : pairPoint u v = 0x10000 + 1024 * a + b := by
    unfold pairPoint
    omega
  rw [joinPairs?_cons_of_pair hfirst hsecond, hpoint]

/-- The code units of a character are joined to this character. -/
theorem joinPairs?_unitsOfChar_append (c : Char) (rest : List UInt16) :
    joinPairs? (unitsOfChar c ++ rest) = (joinPairs? rest).map (c :: ·) := by
  have hvalid := toNat_valid c
  have hchar : Char.ofNat c.toNat = c := Char.ofNat_toNat c
  rw [unitsOfChar]
  by_cases h : c.toNat < 0x10000
  · simp only [h, ↓reduceIte, List.cons_append, List.nil_append]
    rw [joinPairs?_plain (by omega), hchar]
  · simp only [h, ↓reduceIte, List.cons_append, List.nil_append]
    have hpoint : 0x10000 + 1024 * ((c.toNat - 0x10000) / 1024) + (c.toNat - 0x10000) % 1024
        = c.toNat := by omega
    rw [joinPairs?_pair (toNat_toUInt16 (by omega)) (toNat_toUInt16 (by omega)) (by omega)
      (by omega), hpoint, hchar]

/-- **Joining inverts splitting.** -/
theorem joinPairs?_units (cs : List Char) :
    joinPairs? (cs.flatMap unitsOfChar) = some cs := by
  induction cs with
  | nil => rfl
  | cons c cs ih => rw [List.flatMap_cons, joinPairs?_unitsOfChar_append, ih]; rfl

/-- Units that spell no text leave a code point that is no character. -/
theorem exists_half_of_joinPairs? {us : List UInt16} (h : joinPairs? us = none) :
    ∃ n ∈ joined us, ¬ n.isValidChar := by
  induction us using joined.induct with
  | case1 u v rest hpair ih =>
    obtain ⟨hfirst, hsecond⟩ := Bool.and_eq_true_iff.mp hpair
    rw [joinPairs?_cons_of_pair hfirst hsecond, Option.map_eq_none_iff] at h
    obtain ⟨n, hn, hinvalid⟩ := ih h
    rw [joined, if_pos hpair]
    exact ⟨n, List.mem_cons_of_mem _ hn, hinvalid⟩
  | case2 u v rest hpair ih =>
    rw [joined, if_neg hpair]
    by_cases hhalf : isFirstHalf u = true ∨ isSecondHalf u = true
    · exact ⟨_, List.mem_cons_self, not_isValidChar_of_half hhalf⟩
    · rw [joinPairs?_cons_of_plain hhalf, Option.map_eq_none_iff] at h
      obtain ⟨n, hn, hinvalid⟩ := ih h
      exact ⟨n, List.mem_cons_of_mem _ hn, hinvalid⟩
  | case3 us hshort =>
    -- what is shorter than a pair is nothing, which spells a text, or one unit
    match us, hshort with
    | [], _ => exact absurd h (by simp [joinPairs?])
    | [u], _ =>
      by_cases hhalf : isFirstHalf u = true ∨ isSecondHalf u = true
      · exact ⟨_, List.mem_cons_self, not_isValidChar_of_half hhalf⟩
      · rw [joinPairs?_cons_of_plain hhalf] at h
        exact absurd h (by simp [joinPairs?])
    | u :: v :: rest, hshort => exact absurd rfl (hshort u v rest)

end Utf16

namespace RawText

/-- The code units of a text spell this text. -/
theorem ofUnits_units (s : String) : ofUnits (s.toList.flatMap Utf16.unitsOfChar) = text s := by
  unfold ofUnits
  split
  · rename_i cs hjoin
    rw [Utf16.joinPairs?_units] at hjoin
    rw [← Option.some.inj hjoin, String.ofList_toList]
  · rename_i hjoin
    rw [Utf16.joinPairs?_units] at hjoin
    exact absurd hjoin (by simp)

theorem ofUnits_broken (b : BrokenText) : ofUnits b.units = broken b := by
  unfold ofUnits
  split
  · rename_i cs hjoin
    rw [b.isBroken] at hjoin
    exact absurd hjoin (by simp)
  · rfl

/-- What people see of a string that spells no text holds a replacement character. -/
theorem replacement_mem_shown (b : BrokenText) : '\uFFFD' ∈ (broken b).shown.toList := by
  obtain ⟨n, hn, hinvalid⟩ := Utf16.exists_half_of_joinPairs? b.isBroken
  rw [shown, String.toList_ofList, Utf16.shown]
  exact List.mem_map.mpr ⟨n, hn, if_neg hinvalid⟩

end RawText

/-! ## §3 Recognition -/

namespace Encoding

private theorem spelled_toNat (c : Char) : spelled c.toNat = [c] := by
  have hvalid : c.toNat.isValidChar := c.valid
  rw [spelled, if_pos hvalid, Char.ofNat_toNat]

private theorem flatMap_spelled (cs : List Char) :
    (cs.map Char.toNat).flatMap spelled = cs := by
  induction cs with
  | nil => rfl
  | cons c cs ih => rw [List.map_cons, List.flatMap_cons, spelled_toNat, ih]; rfl

/-- Two ASCII characters other than zero at the front mean UTF-8 without a mark. -/
private theorem ofBytes_ascii {a b : UInt8} (ha : 0 < a.toNat ∧ a.toNat < 128)
    (hb : 0 < b.toNat ∧ b.toNat < 128) (rest : List UInt8) :
    ofBytes (a :: b :: rest) = (utf8, a :: b :: rest) := by
  have hne : ∀ {x : UInt8}, 0 < x.toNat ∧ x.toNat < 128 → x ≠ 0 := by
    rintro x hx rfl
    simp at hx
  -- every mark starts with a byte that is zero or beyond ASCII
  have hmark : ∀ m : UInt8, m.toNat = 0 ∨ 128 ≤ m.toNat → (m == a) = false := by
    intro m hm
    refine beq_eq_false_iff_ne.mpr fun h => ?_
    rw [h] at hm
    omega
  have hnone : marks.find? (·.1.isPrefixOf (a :: b :: rest)) = none := by
    simp [marks, List.find?, List.isPrefixOf, hmark]
  have hzeros : ofZeros (a :: b :: rest) = utf8 := by
    rcases rest with _ | ⟨c, _ | ⟨d, rest⟩⟩
    · simp [ofZeros, hne ha, hne hb]
    · rfl
    · simp [ofZeros, hne ha, hne hb]
  rw [ofBytes, hnone, hzeros]

/-- **Recognition.** A text that starts with two ASCII characters is read back from its
UTF-8 bytes. -/
theorem decodeAny?_encode {a b : Char} (ha : 0 < a.toNat ∧ a.toNat < 128)
    (hb : 0 < b.toNat ∧ b.toNat < 128) (cs : List Char) :
    decodeAny? (Utf8.encode (a :: b :: cs)) = some (a :: b :: cs) := by
  have hbyte : ∀ {c : Char}, c.toNat < 128 →
      Utf8.encodeChar c = [c.toNat.toUInt8] ∧ c.toNat.toUInt8.toNat = c.toNat := by
    intro c hc
    exact ⟨by rw [Utf8.encodeChar, if_pos hc], Utf8.toNat_toUInt8 (by omega)⟩
  obtain ⟨hca, hna⟩ := hbyte ha.2
  obtain ⟨hcb, hnb⟩ := hbyte hb.2
  have hbytes : Utf8.encode (a :: b :: cs)
      = a.toNat.toUInt8 :: b.toNat.toUInt8 :: Utf8.encode cs := by
    simp [Utf8.encode, hca, hcb]
  have hutf8 : ofBytes (Utf8.encode (a :: b :: cs)) = (utf8, Utf8.encode (a :: b :: cs)) := by
    rw [hbytes]
    exact ofBytes_ascii (by omega) (by omega) _
  rw [decodeAny?, hutf8]
  simp only [points?, Utf8.points?_encode, Option.map_some, flatMap_spelled]

end Encoding

end IdentityService
