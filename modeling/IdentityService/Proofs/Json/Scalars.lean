import IdentityService.Json.Reader
import IdentityService.Json.Writer
import IdentityService.Proofs.Bytes.Unicode

/-!
# Written Scalars

The reader takes a written string literal or integer off the front of a text and leaves
the rest as it is.  For a literal this holds for every character, since an escape is one
code unit and a character beyond the first plane is two of them.  For an integer the
rest must not go on with the number.

## Main statements

- `readUnits?_literal`, `readUnits?_brokenLiteral`: the code units of a literal.
- `readScalar?_integerText`: the value of an integer.
-/

namespace IdentityService.Json

open IdentityService.Text

/-! ## §1 String literals -/

private theorem hexValue?_hexDigit {n : Nat} (h : n < 16) : hexValue? (hexDigit n) = some n := by
  have hall : ∀ n < 16, hexValue? (hexDigit n) = some n := by decide
  exact hall n h

/-- An escape in four digits is read as its code unit. -/
private theorem readUnits?_unitEscape (u : UInt16) (rest : List Char) :
    readUnits? (unitEscape u ++ rest)
      = (readUnits? rest).map fun (us, rest) => (u :: us, rest) := by
  have hlt : u.toNat < 0x10000 := u.toNat_lt
  have hvalue : unitValue? (hexDigit (u.toNat / 4096 % 16)) (hexDigit (u.toNat / 256 % 16))
      (hexDigit (u.toNat / 16 % 16)) (hexDigit (u.toNat % 16)) = some u := by
    have hdigits : 4096 * (u.toNat / 4096 % 16) + 256 * (u.toNat / 256 % 16)
        + 16 * (u.toNat / 16 % 16) + u.toNat % 16 = u.toNat := by omega
    rw [unitValue?, hexValue?_hexDigit (by omega), hexValue?_hexDigit (by omega),
      hexValue?_hexDigit (by omega), hexValue?_hexDigit (by omega)]
    simp only [Option.bind_eq_bind, Option.bind_some, hdigits, Nat.toUInt16_eq, UInt16.ofNat_toNat]
  simp only [unitEscape, List.cons_append, List.nil_append, readUnits?, hvalue]
  cases readUnits? rest <;> rfl

/-- A printable ASCII character other than the quote and the backslash stands for itself. -/
private theorem readUnits?_plain {c : Char} (hlow : 32 ≤ c.toNat) (hquote : c ≠ '"')
    (hslash : c ≠ '\\') (rest : List Char) :
    readUnits? (c :: rest)
      = (readUnits? rest).map fun (us, rest) => (Utf16.unitsOfChar c ++ us, rest) := by
  rw [readUnits?]
  · simp only [Nat.not_lt.mpr hlow, ↓reduceIte, Option.bind_eq_bind]
    cases readUnits? rest <;> rfl
  · exact hquote
  · intro a b d e more hc
    exact absurd hc hslash
  · intro a more hc
    exact absurd hc hslash

/-- An escape of one letter is read as the code unit that it stands for. -/
private theorem readUnits?_letter {c : Char} {u : UInt16} (hu : c ≠ 'u')
    (h : letterEscape? c = some u) (rest : List Char) :
    readUnits? ('\\' :: c :: rest)
      = (readUnits? rest).map fun (us, rest) => (u :: us, rest) := by
  rw [readUnits?]
  · simp only [h, Option.bind_eq_bind, Option.bind_some]
    cases readUnits? rest <;> rfl
  · intro a b d e more hc
    exact absurd hc hu

/-- The characters that have an escape of one letter. -/
private def letterEscaped : List Char := ['"', '\\', '\n', '\r', '\t', '\x08', '\x0c']

private theorem literalChar_of_mem {c : Char} (h : c ∈ letterEscaped) :
    ∃ e, e ≠ 'u' ∧ literalChar c = ['\\', e] ∧ letterEscape? e = some c.toNat.toUInt16 := by
  simp only [letterEscaped, List.mem_cons, List.not_mem_nil, or_false] at h
  rcases h with rfl | rfl | rfl | rfl | rfl | rfl | rfl <;> exact ⟨_, by decide, rfl, rfl⟩

/-- A character of a literal is read as its code units. -/
theorem readUnits?_literalChar (c : Char) (rest : List Char) :
    readUnits? (literalChar c ++ rest)
      = (readUnits? rest).map fun (us, rest) => (Utf16.unitsOfChar c ++ us, rest) := by
  have hunit : c.toNat < 0x10000 → Utf16.unitsOfChar c = [c.toNat.toUInt16] := fun h => if_pos h
  by_cases hmem : c ∈ letterEscaped
  · obtain ⟨e, hu, hchar, hvalue⟩ := literalChar_of_mem hmem
    have hlow : c.toNat < 0x10000 := by
      have hall : letterEscaped.all (fun c => decide (c.toNat < 0x10000)) = true := by decide
      exact of_decide_eq_true (List.all_eq_true.mp hall c hmem)
    rw [hchar, hunit hlow]
    exact readUnits?_letter hu hvalue rest
  have hchar : literalChar c
      = if ' ' ≤ c ∧ c ≤ '~' then [c] else (Utf16.unitsOfChar c).flatMap unitEscape := by
    simp only [letterEscaped, List.mem_cons, List.not_mem_nil, or_false, not_or] at hmem
    simp only [literalChar, hmem, ↓reduceIte]
  rw [hchar]
  split
  · -- the character stands for itself
    rename_i hprintable
    have hlow : 32 ≤ c.toNat := hprintable.1
    have hquote : c ≠ '"' := fun h => hmem (by simp [letterEscaped, h])
    have hslash : c ≠ '\\' := fun h => hmem (by simp [letterEscaped, h])
    rw [List.singleton_append, readUnits?_plain hlow hquote hslash]
  · -- one escape or two, for one code unit or two
    rw [Utf16.unitsOfChar]
    split
    · rw [List.flatMap_singleton, readUnits?_unitEscape]
      rfl
    · rw [List.flatMap_cons, List.flatMap_singleton, List.append_assoc, readUnits?_unitEscape,
        readUnits?_unitEscape, Option.map_map]
      rfl

/-- A code unit of a literal is read as itself. -/
theorem readUnits?_literalUnit (u : UInt16) (rest : List Char) :
    readUnits? (literalUnit u ++ rest)
      = (readUnits? rest).map fun (us, rest) => (u :: us, rest) := by
  unfold literalUnit
  split
  · rename_i hascii
    have hvalid : u.toNat.isValidChar := .inl (by omega)
    have hchar : (Char.ofNat u.toNat).toNat = u.toNat := by
      rw [Char.ofNat, dif_pos hvalid]
      rfl
    have hunits : Utf16.unitsOfChar (Char.ofNat u.toNat) = [u] := by
      rw [Utf16.unitsOfChar, hchar, if_pos (by omega), Nat.toUInt16_eq, UInt16.ofNat_toNat]
    rw [readUnits?_literalChar, hunits]
    rfl
  · exact readUnits?_unitEscape u rest

/-- **Literals.** The body of a literal is read as the code units of its text. -/
theorem readUnits?_literal (cs rest : List Char) :
    readUnits? (cs.flatMap literalChar ++ '"' :: rest)
      = some (cs.flatMap Utf16.unitsOfChar, rest) := by
  induction cs with
  | nil => rfl
  | cons c cs ih =>
    rw [List.flatMap_cons, List.append_assoc, readUnits?_literalChar, ih]
    rfl

/-- **Broken literals.** Their body is read as their code units. -/
theorem readUnits?_brokenLiteral (us : List UInt16) (rest : List Char) :
    readUnits? (us.flatMap literalUnit ++ '"' :: rest) = some (us, rest) := by
  induction us with
  | nil => rfl
  | cons u us ih =>
    rw [List.flatMap_cons, List.append_assoc, readUnits?_literalUnit, ih]
    rfl

theorem ofUnits_units (s : String) : ofUnits (s.toList.flatMap Utf16.unitsOfChar) = text s := by
  rw [ofUnits, RawText.ofUnits_units]
  rfl

theorem ofUnits_broken (b : BrokenText) : ofUnits b.units = brokenText b := by
  rw [ofUnits, RawText.ofUnits_broken]
  rfl

theorem nameOfUnits_units (s : String) :
    nameOfUnits (s.toList.flatMap Utf16.unitsOfChar) = s := by
  rw [nameOfUnits, RawText.ofUnits_units]
  rfl

/-! ## §2 Integers -/

/-- A rest that does not go on with a number. -/
def endsNumber : List Char → Bool
  | [] => true
  | c :: _ => !isAsciiDigit c && c != '.' && c != 'e' && c != 'E'

theorem isAsciiDigit_of_mem_toDigits {n : Nat} {c : Char} (h : c ∈ Nat.toDigits 10 n) :
    isAsciiDigit c = true := by
  have hdigit := Nat.isDigit_of_mem_toDigits (by decide) (by decide) h
  rw [Char.isDigit, Bool.and_eq_true, decide_eq_true_iff, decide_eq_true_iff] at hdigit
  exact isAsciiDigit_iff.mpr hdigit

theorem digitsValue_toDigits (n : Nat) : digitsValue (Nat.toDigits 10 n) = n := by
  have hfold : digitsValue (Nat.toDigits 10 n) = Nat.ofDigitChars 10 (Nat.toDigits 10 n) 0 :=
    (Nat.ofDigitChars_eq_foldl ..).symm
  rw [hfold, Nat.ofDigitChars_ten_toDigits]

/-- Only zero is written with a zero in front. -/
theorem head?_toDigits_ne_zero {n : Nat} (h : 0 < n) : (Nat.toDigits 10 n).head? ≠ some '0' := by
  -- the first digit of a number is the first digit of its tenth
  induction n using Nat.strongRecOn with
  | ind n ih =>
    by_cases hn : n < 10
    · rw [Nat.toDigits_of_lt_base hn]
      have hall : ∀ m < 10, 0 < m → [m.digitChar].head? ≠ some '0' := by decide
      exact hall n hn h
    · rw [Nat.toDigits_of_base_le (by decide) (by omega)]
      rw [List.head?_append, Option.or_of_isSome (by simp)]
      exact ih (n / 10) (by omega) (by omega)

private theorem takeWhile_digits (n : Nat) {rest : List Char} (hrest : endsNumber rest = true) :
    (Nat.toDigits 10 n ++ rest).takeWhile isAsciiDigit = Nat.toDigits 10 n ∧
      (Nat.toDigits 10 n ++ rest).dropWhile isAsciiDigit = rest := by
  have hall : ∀ c ∈ Nat.toDigits 10 n, isAsciiDigit c = true :=
    fun c hc => isAsciiDigit_of_mem_toDigits hc
  have hstop : rest.takeWhile isAsciiDigit = [] ∧ rest.dropWhile isAsciiDigit = rest := by
    cases rest with
    | nil => exact ⟨rfl, rfl⟩
    | cons c more =>
      have hc : isAsciiDigit c = false := by
        simp only [endsNumber, Bool.and_eq_true, Bool.not_eq_true'] at hrest
        exact hrest.1.1.1
      simp [hc]
  rw [List.takeWhile_append_of_pos hall, List.dropWhile_append_of_pos hall, hstop.1, hstop.2]
  exact ⟨List.append_nil _, rfl⟩

private theorem takeWhole?_digits (n : Nat) {rest : List Char} (hrest : endsNumber rest = true) :
    takeWhole? (Nat.toDigits 10 n ++ rest) = some (Nat.toDigits 10 n, rest) := by
  rcases Nat.eq_zero_or_pos n with rfl | hpos
  · rfl
  · have hne : Nat.toDigits 10 n ≠ [] := Nat.toDigits_ne_nil
    have hhead := head?_toDigits_ne_zero hpos
    obtain ⟨htake, hdrop⟩ := takeWhile_digits n hrest
    rw [takeWhole?]
    · rw [htake, hdrop]
      simp [hne]
    · intro more heq
      cases hdigits : Nat.toDigits 10 n with
      | nil => exact hne hdigits
      | cons c ds =>
        rw [hdigits] at hhead heq
        simp_all

/-- An unsigned integer is read off the front of a text. -/
private theorem readMagnitude?_digits (negative : Bool) (n : Nat) {rest : List Char}
    (hrest : endsNumber rest = true) :
    readMagnitude? negative (Nat.toDigits 10 n ++ rest)
      = some (int (if negative then -(n : Int) else n), rest) := by
  -- the rest starts neither a fraction nor an exponent, so the number is an integer
  have hfraction : takeFraction rest = ([], rest) := by
    rw [takeFraction.eq_def]
    split
    · simp [endsNumber] at hrest
    · rfl
  have hexponent : takeExponent? rest = none := by
    cases rest with
    | nil => rfl
    | cons c more =>
      simp only [endsNumber, Bool.and_eq_true, bne_iff_ne, ne_eq] at hrest
      simp [takeExponent?, hrest]
  rw [readMagnitude?, takeWhole?_digits n hrest]
  simp only [Option.bind_eq_bind, Option.bind_some, hfraction, hexponent, digitsValue_toDigits]
  rfl

/-- The digits of a number start with a digit. -/
theorem exists_toDigits (n : Nat) :
    ∃ c ds, Nat.toDigits 10 n = c :: ds ∧ 48 ≤ c.toNat ∧ c.toNat ≤ 57 := by
  cases hdigits : Nat.toDigits 10 n with
  | nil => exact absurd hdigits Nat.toDigits_ne_nil
  | cons c ds =>
    have hc : c ∈ Nat.toDigits 10 n := hdigits ▸ List.mem_cons_self ..
    exact ⟨c, ds, rfl, isAsciiDigit_iff.mp (isAsciiDigit_of_mem_toDigits hc)⟩

/-- A text that starts with a digit is read as an unsigned number. -/
private theorem readScalar?_digit {c : Char} (hc : 48 ≤ c.toNat ∧ c.toNat ≤ 57)
    (cs : List Char) : readScalar? (c :: cs) = readMagnitude? false (c :: cs) := by
  rw [readScalar?]
  all_goals
    intro rest heq
    obtain ⟨hchar, -⟩ := List.cons.inj heq
    simp [hchar] at hc

/-- **Integers.** A written integer is read off the front of a text. -/
theorem readScalar?_integerText (n : Int) {rest : List Char} (hrest : endsNumber rest = true) :
    readScalar? (integerText n ++ rest) = some (int n, rest) := by
  obtain ⟨c, ds, hdigits, hc⟩ := exists_toDigits n.natAbs
  have hread := fun negative => readMagnitude?_digits negative n.natAbs hrest
  rw [integerText]
  rw [hdigits] at hread ⊢
  by_cases hneg : n < 0
  · -- a hyphen starts a negative number, for no word follows it
    have hvalue : -(n.natAbs : Int) = n := by omega
    rw [if_pos hneg, List.cons_append, List.cons_append, readScalar?, ← List.cons_append,
      hread true, if_pos rfl, hvalue]
    intro more heq
    obtain ⟨hchar, -⟩ := List.cons.inj heq
    simp [hchar] at hc
  · have hvalue : (n.natAbs : Int) = n := by omega
    rw [if_neg hneg, List.cons_append, readScalar?_digit hc, ← List.cons_append, hread false,
      if_neg (by decide), hvalue]

end IdentityService.Json
