import IdentityService.Proofs.Text.AsciiCase
import IdentityService.Proofs.Validation.Contact
import IdentityService.Text.Blank
import Mathlib.Computability.RegularExpressions

/-!
# The Grammar of Addresses

The email check accepts a language that is given in three ways: by the cut at the first character
that is not local, by the two parts around the only at sign, and by a regular expression.  Both
alphabets are given letter by letter here.  They hold visible characters of ASCII only, and with a
letter they hold its other case.

## Main definitions

- `Email.IsSpelled`: two parts around the only at sign.
- `Email.pattern`: the regular expression.

## Main statements

- `Email.isSpelled_iff`, `Email.mem_matches_pattern_iff`: the addresses, in the other two ways.
- `Email.isAddress_map_toLower`: addresses in any case.
- `Email.accepted_exact`: the accepted emails and what holds of them.
-/

namespace IdentityService.Email

open Text

variable {c : Char} {cs ds alphabet : List Char}

/-! ## §1 The alphabets -/

/-- The letters and digits of both parts. -/
def alphanumerics : String := "abcdefghijklmnopqrstuvwxyzABCDEFGHIJKLMNOPQRSTUVWXYZ0123456789"

/-- The alphabet of the local part. -/
def localAlphabet : List Char := (alphanumerics ++ "_!#$%&'*+/=?\x60\x7b|\x7d~^.-").toList

/-- The alphabet of the domain. -/
def domainAlphabet : List Char := (alphanumerics ++ ".-").toList

-- a Boolean test of the list: the decision for a quantifier would look at all characters there are
private theorem all_visible : ((localAlphabet ++ '@' :: domainAlphabet).all fun c =>
    decide (32 < c.toNat ∧ c.toNat < 127 ∧ isBlank c = false)) = true := by
  decide +kernel

/-- The characters of both alphabets and the at sign are visible characters of ASCII. -/
theorem visible_of_mem (h : c ∈ localAlphabet ++ '@' :: domainAlphabet) :
    32 < c.toNat ∧ c.toNat < 127 ∧ isBlank c = false :=
  of_decide_eq_true (List.all_eq_true.mp all_visible c h)

/-- A test of characters and an alphabet agree if they do on the characters of ASCII and neither
goes beyond these. -/
theorem mem_alphabet_iff {test : Char → Bool} (htest : ∀ c, test c = true → c.toNat < 128)
    (halphabet : ∀ c ∈ alphabet, c ∈ localAlphabet ++ '@' :: domainAlphabet)
    (hascii : ∀ n ∈ List.range 128, test (Char.ofNat n) = true ↔ Char.ofNat n ∈ alphabet) :
    test c = true ↔ c ∈ alphabet := by
  by_cases hc : c.toNat < 128
  · exact forall_ascii (P := fun c => test c = true ↔ c ∈ alphabet) hascii hc
  · have hlarge : c ∉ alphabet := by
      intro hmem
      obtain ⟨-, hlt, -⟩ := visible_of_mem (halphabet c hmem)
      omega
    exact iff_of_false (mt (htest c) hc) hlarge

theorem isLocalChar_iff : isLocalChar c = true ↔ c ∈ localAlphabet := by
  apply mem_alphabet_iff
  · intro c hc
    exact toNat_lt_of_isAddressChar (by rw [isAddressChar, hc, Bool.true_or, Bool.true_or])
  · exact fun c hc => List.mem_append_left _ hc
  · decide +kernel

theorem isDomainChar_iff : isDomainChar c = true ↔ c ∈ domainAlphabet := by
  apply mem_alphabet_iff
  · intro c hc
    exact toNat_lt_of_isAddressChar (by rw [isAddressChar, hc, Bool.or_true, Bool.true_or])
  · exact fun c hc => List.mem_append_right _ (List.mem_cons_of_mem _ hc)
  · decide +kernel

/-! ## §2 Two parts around the only at sign -/

/-- The grammar: exactly one at sign, with a part before it and a part after it, neither empty and
each over its alphabet. -/
def IsSpelled (cs : List Char) : Prop :=
  cs.count '@' = 1 ∧
    ∃ localPart domain, cs = localPart ++ '@' :: domain ∧ localPart ≠ [] ∧ domain ≠ [] ∧
      (∀ c ∈ localPart, c ∈ localAlphabet) ∧ (∀ c ∈ domain, c ∈ domainAlphabet)

/-- Neither alphabet has the at sign, so the one between the parts is the only one. -/
theorem isSpelled_iff : IsSpelled cs ↔ IsAddress cs := by
  simp only [IsAddress, isLocalChar_iff, isDomainChar_iff]
  constructor
  · rintro ⟨-, hparts⟩
    exact hparts
  · rintro ⟨localPart, domain, rfl, hlocal, hdomain, hlocal_all, hdomain_all⟩
    refine ⟨?_, localPart, domain, rfl, hlocal, hdomain, hlocal_all, hdomain_all⟩
    have hnotLocal : '@' ∉ localPart := fun h => absurd (hlocal_all _ h) (by decide +kernel)
    have hnotDomain : '@' ∉ domain := fun h => absurd (hdomain_all _ h) (by decide +kernel)
    rw [List.count_append, List.count_cons_self, List.count_eq_zero_of_not_mem hnotLocal,
      List.count_eq_zero_of_not_mem hnotDomain]

theorem IsSpelled.visible (h : IsSpelled cs) :
    ∀ c ∈ cs, 32 < c.toNat ∧ c.toNat < 127 ∧ isBlank c = false := by
  obtain ⟨-, localPart, domain, rfl, -, -, hlocal, hdomain⟩ := h
  intro c hc
  apply visible_of_mem
  rw [List.mem_append, List.mem_cons] at hc ⊢
  exact hc.imp (hlocal c) (Or.imp_right (hdomain c))

/-! ## §3 The regular expression -/

/-- One character of an alphabet. -/
def oneOf (alphabet : List Char) : RegularExpression Char := (alphabet.map .char).sum

/-- One character of an alphabet or more. -/
def someOf (alphabet : List Char) : RegularExpression Char := oneOf alphabet * (oneOf alphabet).star

/-- A local part, an at sign and a domain. -/
def pattern : RegularExpression Char := someOf localAlphabet * .char '@' * someOf domainAlphabet

theorem mem_matches_oneOf_iff : cs ∈ (oneOf alphabet).matches' ↔ ∃ c ∈ alphabet, cs = [c] := by
  induction alphabet with
  | nil => exact iff_of_false (Language.notMem_zero cs) (by simp)
  | cons a rest ih =>
    have hsum : oneOf (a :: rest) = .char a + oneOf rest := rfl
    rw [hsum, RegularExpression.matches'_add, Language.mem_add, ih,
      RegularExpression.matches'_char, List.exists_mem_cons_iff]
    rfl

theorem mem_matches_someOf_iff :
    cs ∈ (someOf alphabet).matches' ↔ cs ≠ [] ∧ ∀ c ∈ cs, c ∈ alphabet := by
  rw [someOf, RegularExpression.matches'_mul, RegularExpression.matches'_star, Language.mem_mul]
  simp only [mem_matches_oneOf_iff, Language.mem_kstar]
  constructor
  · -- every word of the repetition is a single character
    rintro ⟨_, ⟨c, hc, rfl⟩, _, ⟨words, rfl, hwords⟩, rfl⟩
    refine ⟨List.cons_ne_nil _ _, List.forall_mem_cons.mpr ⟨hc, ?_⟩⟩
    intro d hd
    obtain ⟨word, hword, hd⟩ := List.mem_flatten.mp hd
    obtain ⟨e, he, rfl⟩ := hwords word hword
    rwa [List.mem_singleton.mp hd]
  · -- the word is cut into single characters
    rintro ⟨hne, hall⟩
    obtain ⟨c, rest, rfl⟩ := List.exists_cons_of_ne_nil hne
    rw [List.forall_mem_cons] at hall
    refine ⟨[c], ⟨c, hall.1, rfl⟩, rest, ⟨rest.map fun d => [d], ?_, ?_⟩, rfl⟩
    · rw [← List.flatMap_def, List.flatMap_singleton']
    · rw [List.forall_mem_map]
      exact fun d hd => ⟨d, hall.2 d hd, rfl⟩

/-- **The pattern.** It matches the addresses, and as whole texts only. -/
theorem mem_matches_pattern_iff : cs ∈ pattern.matches' ↔ IsAddress cs := by
  simp only [pattern, RegularExpression.matches'_mul, RegularExpression.matches'_char,
    Language.mem_mul, mem_matches_someOf_iff, IsAddress, isLocalChar_iff, isDomainChar_iff]
  constructor
  · rintro ⟨_, ⟨localPart, ⟨hlocal, hlocal_all⟩, _, rfl, rfl⟩, domain, ⟨hdomain, hdomain_all⟩, rfl⟩
    exact ⟨localPart, domain, by simp, hlocal, hdomain, hlocal_all, hdomain_all⟩
  · rintro ⟨localPart, domain, rfl, hlocal, hdomain, hlocal_all, hdomain_all⟩
    exact ⟨_, ⟨localPart, ⟨hlocal, hlocal_all⟩, _, rfl, rfl⟩, domain, ⟨hdomain, hdomain_all⟩,
      by simp⟩

/-! ## §4 The case of letters -/

theorem isLocalChar_toLower (c : Char) : isLocalChar c.toLower = isLocalChar c :=
  rel_of_ascii (fun _ => toLower_of_le) (R := fun d c => isLocalChar d = isLocalChar c)
    (fun _ => rfl) (by decide +kernel) c

theorem isDomainChar_toLower (c : Char) : isDomainChar c.toLower = isDomainChar c :=
  rel_of_ascii (fun _ => toLower_of_le) (R := fun d c => isDomainChar d = isDomainChar c)
    (fun _ => rfl) (by decide +kernel) c

theorem toLower_eq_at_iff (c : Char) : c.toLower = '@' ↔ c = '@' :=
  rel_of_ascii (fun _ => toLower_of_le) (R := fun d c => d = '@' ↔ c = '@')
    (fun _ => Iff.rfl) (by decide +kernel) c

/-- **Case.** Whether a text is an address does not depend on the case of its ASCII letters. -/
theorem isAddress_map_toLower {cs : List Char} :
    IsAddress (cs.map Char.toLower) ↔ IsAddress cs := by
  constructor
  · rintro ⟨localPart, domain, hcs, hlocal, hdomain, hlocal_all, hdomain_all⟩
    -- the at sign of the lower case is one of the text itself
    obtain ⟨before, rest, rfl, rfl, hrest⟩ := List.map_eq_append_iff.mp hcs
    obtain ⟨sign, after, rfl, hsign, rfl⟩ := List.map_eq_cons_iff.mp hrest
    rw [toLower_eq_at_iff] at hsign
    rw [List.forall_mem_map] at hlocal_all hdomain_all
    refine ⟨before, after, by rw [hsign], by simpa using hlocal, by simpa using hdomain, ?_, ?_⟩
    · intro c hc
      rw [← isLocalChar_toLower]
      exact hlocal_all c hc
    · intro c hc
      rw [← isDomainChar_toLower]
      exact hdomain_all c hc
  · rintro ⟨localPart, domain, rfl, hlocal, hdomain, hlocal_all, hdomain_all⟩
    refine ⟨localPart.map Char.toLower, domain.map Char.toLower, ?_, by simpa using hlocal,
      by simpa using hdomain, ?_, ?_⟩
    · rw [List.map_append, List.map_cons]
      rfl
    · rw [List.forall_mem_map]
      intro c hc
      rw [isLocalChar_toLower]
      exact hlocal_all c hc
    · rw [List.forall_mem_map]
      intro c hc
      rw [isDomainChar_toLower]
      exact hdomain_all c hc

theorem isAddress_eq_of_sameButCase (h : SameButCase cs ds) : isAddress cs = isAddress ds := by
  rw [Bool.eq_iff_iff, isAddress_iff, isAddress_iff, ← isAddress_map_toLower, h,
    isAddress_map_toLower]

theorem check_eq_of_sameButCase {s t : String} (h : SameButCase s.toList t.toList) :
    check (some s) = check (some t) := by
  have hempty : s = "" ↔ t = "" := by
    have hlength := congrArg List.length h
    rw [List.length_map, List.length_map] at hlength
    rw [← String.toList_eq_nil_iff, ← String.toList_eq_nil_iff, ← List.length_eq_zero_iff, hlength,
      List.length_eq_zero_iff]
  simp only [check, errors, String.isEmpty_iff, hempty, isAddress_eq_of_sameButCase h]

/-! ## §5 The check -/

/-- **Addresses.** A text is accepted when it is two parts around the only at sign, each over its
alphabet and neither empty; in other words, when the regular expression matches all of it.  An
accepted text has visible characters of ASCII only: no blanks, no line ends, no control characters.
The case of ASCII letters does not matter, whether some of them or all are changed; and a text that
is refused, unless it is empty, is refused as no address. -/
theorem accepted_exact (s t : String) :
    ((check (some s)).valid = true ↔ IsSpelled s.toList) ∧
    ((check (some s)).valid = true ↔ s.toList ∈ pattern.matches') ∧
    ((check (some s)).valid = true →
      ∀ c ∈ s.toList, 32 < c.toNat ∧ c.toNat < 127 ∧ isBlank c = false) ∧
    (SameButCase s.toList t.toList → check (some s) = check (some t)) ∧
    (check (some s.toLower) = check (some s) ∧ check (some s.toUpper) = check (some s)) ∧
    ((check (some s)).errors = [.emailInvalid] ↔ s ≠ "" ∧ (check (some s)).valid = false) := by
  refine ⟨?_, ?_, ?_, check_eq_of_sameButCase, ⟨?_, ?_⟩, ?_⟩
  · rw [check_valid_iff, isSpelled_iff]
  · rw [check_valid_iff, mem_matches_pattern_iff]
  · intro hvalid
    exact (isSpelled_iff.mpr (check_valid_iff.mp hvalid)).visible
  · exact check_eq_of_sameButCase (sameButCase_toLower s)
  · exact check_eq_of_sameButCase (sameButCase_toUpper s)
  · by_cases hne : s = ""
    · subst hne
      decide
    · by_cases haddress : isAddress s.toList = true
      · simp [check, errors, Verdict.ofErrors, hne, haddress]
      · simp [check, errors, Verdict.ofErrors, hne, haddress]

/-- A name with an apostrophe, written in two ways. -/
theorem accepted_exact_spelled :
    check (some "O'Brien@Example.IE") = check (some "o'bRIEN@eXAMPLE.ie") ∧
      ∀ c ∈ "O'Brien@Example.IE".toList, 32 < c.toNat ∧ c.toNat < 127 ∧ isBlank c = false := by
  obtain ⟨-, -, hvisible, hcase, -⟩ := accepted_exact "O'Brien@Example.IE" "o'bRIEN@eXAMPLE.ie"
  exact ⟨hcase (by decide), hvisible (by decide)⟩

end IdentityService.Email
