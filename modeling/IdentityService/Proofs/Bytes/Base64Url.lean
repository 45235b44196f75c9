import IdentityService.Bytes.Base64Url
import Mathlib.Data.List.TakeWhile
import Mathlib.Data.Option.Basic

/-!
# Spellings of Bytes

The two readers of URL-safe base 64 beside its writer.  Every list of bytes has exactly
one canonical spelling, both readers invert it, and the strict reader accepts nothing
else up to padding.  The lenient reader accepts much more, which is why a text is
canonical only if writing what was read gives the text back.

## Main statements

- `decode?_encode`, `decodeLeniently?_encode`: both readers invert the writer.
- `decode?_eq_some_iff`: what the strict reader accepts.
- `encode_injective`: no two lists of bytes share a spelling.
- `exists_encode_eq_iff`: canonical spellings are told from their characters.
-/

namespace IdentityService.Base64Url

/-! ## §1 The alphabet -/

/-- The characters of canonical spellings. -/
def inAlphabet (c : Char) : Bool := (sextet? c).isSome

private theorem sextet?_letter_below : ∀ n < 64, sextet? (letter n) = some n := by
  decide

theorem sextet?_letter {n : Nat} (h : n < 64) : sextet? (letter n) = some n :=
  sextet?_letter_below n h

/-- The reader of a single character inverts `letter` and nothing else. -/
theorem letter_of_sextet? {c : Char} {n : Nat} (h : sextet? c = some n) :
    n < 64 ∧ letter n = c := by
  -- one case for each range of the alphabet, in the order of the reader
  simp only [sextet?] at h
  have hchar : Char.ofNat c.toNat = c := Char.ofNat_toNat c
  split at h
  · obtain rfl := Option.some.inj h
    refine ⟨by omega, ?_⟩
    rw [letter, if_pos (by omega), show 65 + (c.toNat - 65) = c.toNat by omega, hchar]
  split at h
  · obtain rfl := Option.some.inj h
    refine ⟨by omega, ?_⟩
    rw [letter, if_neg (by omega), if_pos (by omega),
      show 71 + (c.toNat - 71) = c.toNat by omega, hchar]
  split at h
  · obtain rfl := Option.some.inj h
    refine ⟨by omega, ?_⟩
    rw [letter, if_neg (by omega), if_neg (by omega), if_pos (by omega),
      show c.toNat + 4 - 4 = c.toNat by omega, hchar]
  split at h
  · obtain rfl := Option.some.inj h
    exact ⟨by omega, by rename_i hc; exact hc.symm⟩
  split at h
  · obtain rfl := Option.some.inj h
    exact ⟨by omega, by rename_i hc; exact hc.symm⟩
  · exact absurd h (by simp)

theorem inAlphabet_letter {n : Nat} (h : n < 64) : inAlphabet (letter n) = true := by
  rw [inAlphabet, sextet?_letter h]
  rfl

/-- The alphabet is part of ASCII and has no padding sign, point or question mark. -/
theorem ne_of_inAlphabet {c : Char} (h : inAlphabet c = true) :
    c ≠ '=' ∧ c ≠ '.' ∧ c ≠ '?' ∧ c.toNat < 128 := by
  obtain ⟨n, hn⟩ := Option.isSome_iff_exists.mp h
  obtain ⟨hlt, rfl⟩ := letter_of_sextet? hn
  have hall : ∀ n < 64, letter n ≠ '=' ∧ letter n ≠ '.' ∧ letter n ≠ '?'
      ∧ (letter n).toNat < 128 := by decide
  exact hall n hlt

theorem lenientSextet?_letter {n : Nat} (h : n < 64) : lenientSextet? (letter n) = some n := by
  have hall : ∀ n < 64, lenientSextet? (letter n) = some n := by decide
  exact hall n h

/-! ## §2 Groups of six bits -/

theorem sextets_lt (bytes : List UInt8) : ∀ n ∈ sextets bytes, n < 64 := by
  fun_induction sextets bytes with
  | case1 => simp
  | case2 x =>
    have hx := x.toNat_lt
    simp only [List.mem_cons, List.not_mem_nil, or_false]
    omega
  | case3 x y =>
    have hx := x.toNat_lt
    have hy := y.toNat_lt
    simp only [List.mem_cons, List.not_mem_nil, or_false]
    omega
  | case4 x y z rest ih =>
    have hx := x.toNat_lt
    have hy := y.toNat_lt
    have hz := z.toNat_lt
    simp only [List.mem_cons]
    rintro n (rfl | rfl | rfl | rfl | hn)
    · omega
    · omega
    · omega
    · omega
    · exact ih n hn

private theorem toUInt8_eq {n : Nat} {x : UInt8} (h : n = x.toNat) : n.toUInt8 = x := by
  subst h
  exact UInt8.ofNat_toNat

private theorem groupBytes_one (x : UInt8) :
    groupBytes [x.toNat / 4, x.toNat % 4 * 16] = [x] := by
  rw [groupBytes, toUInt8_eq (x := x) (by omega)]

private theorem groupBytes_two (x y : UInt8) :
    groupBytes [x.toNat / 4, x.toNat % 4 * 16 + y.toNat / 16, y.toNat % 16 * 4] = [x, y] := by
  have hy := y.toNat_lt
  rw [groupBytes, toUInt8_eq (x := x) (by omega), toUInt8_eq (x := y) (by omega)]

private theorem groupBytes_three (x y z : UInt8) :
    groupBytes [x.toNat / 4, x.toNat % 4 * 16 + y.toNat / 16, y.toNat % 16 * 4 + z.toNat / 64,
      z.toNat % 64] = [x, y, z] := by
  have hy := y.toNat_lt
  have hz := z.toNat_lt
  rw [groupBytes, toUInt8_eq (x := x) (by omega), toUInt8_eq (x := y) (by omega),
    toUInt8_eq (x := z) (by omega)]

/-- Regrouping bytes as six-bit numbers loses nothing. -/
theorem bytesOf?_sextets (bytes : List UInt8) : bytesOf? (sextets bytes) = some bytes := by
  fun_induction sextets bytes with
  | case1 => rfl
  | case2 x => rw [bytesOf?, if_pos (by omega), groupBytes_one]
  | case3 x y => rw [bytesOf?, if_pos (by omega), groupBytes_two]
  | case4 x y z rest ih =>
    rw [bytesOf?, ih, groupBytes_three]
    rfl

/-- Numbers that are read as bytes are the regrouping of these bytes: the unused bits of
the last number are zero. -/
theorem sextets_of_bytesOf? {ns : List Nat} {bytes : List UInt8} (hlt : ∀ n ∈ ns, n < 64)
    (h : bytesOf? ns = some bytes) : sextets bytes = ns := by
  -- an unfinished group is read only if its unused bits are zero, so writing restores it
  fun_induction bytesOf? ns generalizing bytes with
  | case1 =>
    obtain rfl := Option.some.inj h
    rfl
  | case2 a => exact absurd h (by simp)
  | case3 a b hb =>
    obtain rfl := Option.some.inj h
    simp only [List.mem_cons, List.not_mem_nil, or_false, forall_eq_or_imp, forall_eq] at hlt
    simp only [groupBytes, sextets, UInt8.toNat_ofNat_of_lt' (show a * 4 + b / 16 < 256 by omega),
      List.cons.injEq, and_true]
    omega
  | case4 a b hb => exact absurd h (by simp)
  | case5 a b c hc =>
    obtain rfl := Option.some.inj h
    simp only [List.mem_cons, List.not_mem_nil, or_false, forall_eq_or_imp, forall_eq] at hlt
    simp only [groupBytes, sextets, UInt8.toNat_ofNat_of_lt' (show a * 4 + b / 16 < 256 by omega),
      UInt8.toNat_ofNat_of_lt' (show b % 16 * 16 + c / 4 < 256 by omega), List.cons.injEq, and_true]
    omega
  | case6 a b c hc => exact absurd h (by simp)
  | case7 a b c d rest ih =>
    obtain ⟨more, hmore, rfl⟩ := Option.map_eq_some_iff.mp h
    simp only [List.mem_cons, forall_eq_or_imp] at hlt
    simp only [groupBytes, List.cons_append, List.nil_append, sextets,
      UInt8.toNat_ofNat_of_lt' (show a * 4 + b / 16 < 256 by omega),
      UInt8.toNat_ofNat_of_lt' (show b % 16 * 16 + c / 4 < 256 by omega),
      UInt8.toNat_ofNat_of_lt' (show c % 4 * 64 + d < 256 by omega), List.cons.injEq]
    refine ⟨by omega, by omega, by omega, by omega, ?_⟩
    exact ih (fun n hn => hlt.2.2.2.2 n hn) hmore

/-! ## §3 The strict reader -/

theorem inAlphabet_of_mem_encode {bytes : List UInt8} {c : Char} (h : c ∈ encode bytes) :
    inAlphabet c = true := by
  obtain ⟨n, hn, rfl⟩ := List.mem_map.mp h
  exact inAlphabet_letter (sextets_lt bytes n hn)

private theorem mapM_sextet?_letter {ns : List Nat} (hlt : ∀ n ∈ ns, n < 64) :
    (ns.map letter).mapM sextet? = some ns := by
  induction ns with
  | nil => rfl
  | cons n ns ih =>
    have hn : sextet? (letter n) = some n := sextet?_letter (hlt n (List.mem_cons_self ..))
    have hns := ih fun m hm => hlt m (List.mem_cons_of_mem _ hm)
    simp [hn, hns]

private theorem letters_of_mapM {cs : List Char} {ns : List Nat}
    (h : cs.mapM sextet? = some ns) : (∀ n ∈ ns, n < 64) ∧ cs = ns.map letter := by
  induction cs generalizing ns with
  | nil =>
    obtain rfl : [] = ns := by simpa using h
    simp
  | cons c cs ih =>
    simp only [List.mapM_cons, Option.bind_eq_bind, Option.bind_eq_some_iff, Option.pure_def,
      Option.some.injEq] at h
    obtain ⟨n, hn, more, hmore, rfl⟩ := h
    obtain ⟨hlt, rfl⟩ := letter_of_sextet? hn
    obtain ⟨hmore_lt, rfl⟩ := ih hmore
    refine ⟨?_, rfl⟩
    intro m hm
    rcases List.mem_cons.mp hm with rfl | hm
    · exact hlt
    · exact hmore_lt m hm

/-- A text without its trailing padding signs. -/
private theorem dropWhile_padding {cs : List Char} (h : ∀ c ∈ cs, c ≠ '=') (k : Nat) :
    ((cs ++ List.replicate k '=').reverse.dropWhile (· = '=')).reverse = cs := by
  have hdrop : cs.reverse.dropWhile (· = '=') = cs.reverse := by
    cases hrev : cs.reverse with
    | nil => rfl
    | cons c more =>
      have hc : c ∈ cs := List.mem_reverse.mp (hrev ▸ List.mem_cons_self ..)
      simp [h c hc]
  rw [List.reverse_append, List.reverse_replicate,
    List.dropWhile_append_of_pos (by simp +contextual), hdrop, List.reverse_reverse]

private theorem eq_append_padding (cs : List Char) :
    ∃ k, cs = (cs.reverse.dropWhile (· = '=')).reverse ++ List.replicate k '=' := by
  refine ⟨(cs.reverse.takeWhile (· = '=')).length, ?_⟩
  have hall : cs.reverse.takeWhile (· = '=')
      = List.replicate (cs.reverse.takeWhile (· = '=')).length '=' :=
    List.eq_replicate_iff.mpr ⟨rfl, fun c hc => by simpa using List.mem_takeWhile_imp hc⟩
  have hsplit := List.takeWhile_append_dropWhile (p := (· = '=')) (l := cs.reverse)
  rw [hall] at hsplit
  have hrev := congrArg List.reverse hsplit
  rw [List.reverse_append, List.reverse_reverse, List.reverse_replicate] at hrev
  exact hrev.symm

/-- **Strict reading.** The strict reader accepts the canonical spelling of some bytes, with
no padding or with the padding that fills up the last group of four. -/
theorem decode?_eq_some_iff {cs : List Char} {bytes : List UInt8} :
    decode? cs = some bytes ↔
      ∃ k, cs = encode bytes ++ List.replicate k '=' ∧
        (k = 0 ∨ k ≤ 2 ∧ cs.length % 4 = 0) := by
  constructor
  · -- what the reader keeps without the padding is the spelling of what it reads
    intro h
    simp only [decode?, Option.bind_eq_bind, Option.bind_eq_some_iff] at h
    obtain ⟨body, hbody, ns, hns, hbytes⟩ := h
    obtain ⟨hlt, rfl⟩ := letters_of_mapM hns
    have hspell : encode bytes = ns.map letter := by
      rw [encode, sextets_of_bytesOf? hlt hbytes]
    rw [← hspell] at hbody
    obtain ⟨k, hk⟩ := eq_append_padding cs
    have hlen : cs.length - (cs.reverse.dropWhile (· = '=')).reverse.length = k := by
      have := congrArg List.length hk
      rw [List.length_append, List.length_replicate] at this
      omega
    simp only [withoutPadding?, hlen] at hbody
    split at hbody
    · obtain rfl := Option.some.inj hbody
      exact ⟨0, by simp, Or.inl rfl⟩
    · split at hbody
      · rename_i hpad
        rw [Option.some.inj hbody] at hk
        exact ⟨k, hk, Or.inr hpad⟩
      · exact absurd hbody (by simp)
  · -- no letter of a spelling is taken for padding
    rintro ⟨k, hcs, hk⟩
    have hbody : (cs.reverse.dropWhile (· = '=')).reverse = encode bytes := by
      rw [hcs]
      exact dropWhile_padding (fun c hc => (ne_of_inAlphabet (inAlphabet_of_mem_encode hc)).1) k
    have hlen : cs.length - (encode bytes).length = k := by
      rw [hcs, List.length_append, List.length_replicate]
      omega
    have hwithout : withoutPadding? cs = some (encode bytes) := by
      simp only [withoutPadding?, hbody, hlen]
      rcases hk with rfl | hk
      · simp [hcs]
      · by_cases hzero : k = 0
        · subst hzero
          simp [hcs]
        · rw [if_neg hzero, if_pos hk]
    simp [decode?, hwithout, encode, mapM_sextet?_letter (sextets_lt bytes), bytesOf?_sextets]

theorem decode?_encode (bytes : List UInt8) : decode? (encode bytes) = some bytes :=
  decode?_eq_some_iff.mpr ⟨0, by simp, Or.inl rfl⟩

/-- **Canonical spelling.** Different bytes have different spellings. -/
theorem encode_injective : Function.Injective encode := by
  intro a b h
  have hab : some a = some b := by rw [← decode?_encode a, h, decode?_encode b]
  exact Option.some.inj hab

theorem encode_eq_nil_iff {bytes : List UInt8} : encode bytes = [] ↔ bytes = [] :=
  ⟨fun h => encode_injective h, fun h => h ▸ rfl⟩

/-! ## §4 The lenient reader -/

/-- **Lenient reading.** The lenient reader, too, inverts the writer. -/
theorem decodeLeniently?_encode (bytes : List UInt8) :
    decodeLeniently? (encode bytes) = some bytes := by
  have hletter : ∀ n < 64, letter n ≠ '=' := fun n hn =>
    (ne_of_inAlphabet (inAlphabet_letter hn)).1
  have hlt := sextets_lt bytes
  simp only [decodeLeniently?, paddedToGroups, encode, List.length_map]
  fun_induction sextets bytes with
  | case1 => rfl
  | case2 x =>
    simp only [List.mem_cons, List.not_mem_nil, or_false, forall_eq_or_imp, forall_eq] at hlt
    -- two numbers, then two padding signs
    simp [readLeniently?, hletter, lenientSextet?_letter, hlt, List.replicate, groupBytes_one]
  | case3 x y =>
    simp only [List.mem_cons, List.not_mem_nil, or_false, forall_eq_or_imp, forall_eq] at hlt
    -- three numbers, then one padding sign
    simp [readLeniently?, hletter, lenientSextet?_letter, hlt, groupBytes_two]
  | case4 x y z rest ih =>
    simp only [List.mem_cons, forall_eq_or_imp] at hlt
    have hlen : ∀ n : Nat, (4 - (n + 1 + 1 + 1 + 1) % 4) % 4 = (4 - n % 4) % 4 := by omega
    -- the fourth number completes a group, and the reader starts afresh
    simp [readLeniently?, hletter, lenientSextet?_letter, hlt, hlen, groupBytes_three,
      ih hlt.2.2.2.2]

/-! ## §5 Canonical texts -/

/-- The alphabet, in the order of the six-bit numbers. -/
def alphabet : List Char :=
  "ABCDEFGHIJKLMNOPQRSTUVWXYZabcdefghijklmnopqrstuvwxyz0123456789-_".toList

theorem alphabet_eq_map_letter : alphabet = (List.range 64).map letter := by
  decide

/-- The letters whose last four bits are zero. -/
def lettersOfTwoBits : List Char := "AQgw".toList

/-- The letters whose last two bits are zero. -/
def lettersOfFourBits : List Char := "AEIMQUYcgkosw048".toList

/-- A canonical text, told from its characters: letters of the alphabet, whose number does not leave
a single letter behind the last group of four.  When two or three letters are left, the last of them
has no bits beyond the last whole byte. -/
structure IsCanonical (cs : List Char) : Prop where
  letters : ∀ c ∈ cs, c ∈ alphabet
  notOne : cs.length % 4 ≠ 1
  two : cs.length % 4 = 2 → ∀ c ∈ cs.getLast?, c ∈ lettersOfTwoBits
  three : cs.length % 4 = 3 → ∀ c ∈ cs.getLast?, c ∈ lettersOfFourBits

/-- Numbers that are the regrouping of some bytes: those that leave no bits beyond the bytes. -/
theorem exists_sextets_eq_iff {ns : List Nat} (hlt : ∀ n ∈ ns, n < 64) :
    (∃ bytes, sextets bytes = ns) ↔ ns.length % 4 ≠ 1 ∧
      (ns.length % 4 = 2 → ∀ n ∈ ns.getLast?, n % 16 = 0) ∧
      (ns.length % 4 = 3 → ∀ n ∈ ns.getLast?, n % 4 = 0) := by
  -- the regrouping of bytes is what the strict reader of numbers accepts
  have hread : (∃ bytes, sextets bytes = ns) ↔ (bytesOf? ns).isSome = true := by
    rw [Option.isSome_iff_exists]
    refine exists_congr fun bytes => ⟨?_, sextets_of_bytesOf? hlt⟩
    rintro rfl
    exact bytesOf?_sextets bytes
  rw [hread]
  clear hread hlt
  fun_induction bytesOf? ns with
  | case1 => simp
  | case2 a => simp
  | case3 a b hb => simp [hb]
  | case4 a b hb => simp [hb]
  | case5 a b c hc => simp [hc]
  | case6 a b c hc => simp [hc]
  | case7 a b c d rest ih =>
    rw [Option.isSome_map]
    refine ih.trans ?_
    -- a full group changes neither the remainder nor, if there is one, the last number
    cases rest with
    | nil => simp
    | cons n rest =>
      have hlength : (a :: b :: c :: d :: n :: rest).length % 4 = (n :: rest).length % 4 :=
        Nat.add_mod_right _ 4
      have hlast : (a :: b :: c :: d :: n :: rest).getLast? = (n :: rest).getLast? := by
        rw [List.getLast?_cons_cons, List.getLast?_cons_cons, List.getLast?_cons_cons,
          List.getLast?_cons_cons]
      rw [hlength, hlast]

theorem exists_letters {cs : List Char} (h : ∀ c ∈ cs, c ∈ alphabet) :
    ∃ ns : List Nat, (∀ n ∈ ns, n < 64) ∧ ns.map letter = cs := by
  induction cs with
  | nil => exact ⟨[], List.forall_mem_nil _, rfl⟩
  | cons c cs ih =>
    rw [List.forall_mem_cons] at h
    obtain ⟨ns, hns, rfl⟩ := ih h.2
    rw [alphabet_eq_map_letter] at h
    obtain ⟨n, hn, rfl⟩ := List.mem_map.mp h.1
    exact ⟨n :: ns, List.forall_mem_cons.mpr ⟨List.mem_range.mp hn, hns⟩, rfl⟩

private theorem letter_mem_iff_below : ∀ n < 64,
    letter n ∈ alphabet ∧ (letter n ∈ lettersOfTwoBits ↔ n % 16 = 0) ∧
      (letter n ∈ lettersOfFourBits ↔ n % 4 = 0) := by
  decide

theorem isCanonical_map_letter_iff {ns : List Nat} (hlt : ∀ n ∈ ns, n < 64) :
    IsCanonical (ns.map letter) ↔ ns.length % 4 ≠ 1 ∧
      (ns.length % 4 = 2 → ∀ n ∈ ns.getLast?, n % 16 = 0) ∧
      (ns.length % 4 = 3 → ∀ n ∈ ns.getLast?, n % 4 = 0) := by
  have hletter (n : Nat) (hn : n ∈ ns.getLast?) :=
    letter_mem_iff_below n (hlt n (List.mem_of_getLast? hn))
  constructor
  · rintro ⟨-, hone, htwo, hthree⟩
    simp only [List.length_map, List.getLast?_map, Option.forall_mem_map] at hone htwo hthree
    refine ⟨hone, fun h n hn => ?_, fun h n hn => ?_⟩
    · exact (hletter n hn).2.1.mp (htwo h n hn)
    · exact (hletter n hn).2.2.mp (hthree h n hn)
  · rintro ⟨hone, htwo, hthree⟩
    refine ⟨?_, ?_, ?_, ?_⟩
    · rw [List.forall_mem_map]
      exact fun n hn => (letter_mem_iff_below n (hlt n hn)).1
    · rwa [List.length_map]
    · rw [List.length_map, List.getLast?_map, Option.forall_mem_map]
      exact fun h n hn => (hletter n hn).2.1.mpr (htwo h n hn)
    · rw [List.length_map, List.getLast?_map, Option.forall_mem_map]
      exact fun h n hn => (hletter n hn).2.2.mpr (hthree h n hn)

/-- **Canonical texts.** The canonical spellings are told from their characters: no byte has to be
read for it. -/
theorem exists_encode_eq_iff {cs : List Char} : (∃ bytes, encode bytes = cs) ↔ IsCanonical cs := by
  constructor
  · rintro ⟨bytes, rfl⟩
    have hlt := sextets_lt bytes
    exact (isCanonical_map_letter_iff hlt).mpr ((exists_sextets_eq_iff hlt).mp ⟨bytes, rfl⟩)
  · -- letters of the alphabet are those of numbers, which are then regrouped
    intro h
    obtain ⟨ns, hlt, rfl⟩ := exists_letters h.letters
    obtain ⟨bytes, rfl⟩ := (exists_sextets_eq_iff hlt).mpr ((isCanonical_map_letter_iff hlt).mp h)
    exact ⟨bytes, rfl⟩

end IdentityService.Base64Url
