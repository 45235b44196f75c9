import IdentityService.Validation.Email
import IdentityService.Validation.Phone
import Mathlib.Data.List.TakeWhile

/-!
# Accepted Emails and Phone Numbers

Which texts the two checks accept, as a shape of the text: an address is two parts around an
at sign, and a number is a plus sign and digits.

## Main statements

- `Email.errors_eq_nil_iff`: the accepted emails are the addresses.
- `Phone.clauseErrors_eq_filter`: the codes behind a plus sign are those of the violated clauses.
- `Phone.errors_eq_nil_iff`: the accepted phone numbers.
-/

namespace IdentityService

open Text

/-! ## §1 Emails -/

namespace Email

theorem isAsciiLetter_iff {c : Char} :
    isAsciiLetter c = true ↔
      97 ≤ c.toNat ∧ c.toNat ≤ 122 ∨ 65 ≤ c.toNat ∧ c.toNat ≤ 90 := by
  simp only [isAsciiLetter, Bool.or_eq_true, Bool.and_eq_true, decide_eq_true_iff]
  rfl

/-- An address: a local part, an at sign and a domain, each part over its alphabet and neither
of them empty. -/
def IsAddress (cs : List Char) : Prop :=
  ∃ localPart domain, cs = localPart ++ '@' :: domain ∧ localPart ≠ [] ∧ domain ≠ [] ∧
    (∀ c ∈ localPart, isLocalChar c = true) ∧ (∀ c ∈ domain, isDomainChar c = true)

theorem isLocalChar_at : isLocalChar '@' = false := by decide

/-- The longest local prefix of two parts around an at sign is the first part, since the at sign
is not local. -/
theorem split_at {localPart : List Char} (domain : List Char)
    (h : ∀ c ∈ localPart, isLocalChar c = true) :
    (localPart ++ '@' :: domain).takeWhile isLocalChar = localPart ∧
      (localPart ++ '@' :: domain).dropWhile isLocalChar = '@' :: domain := by
  constructor
  · rw [List.takeWhile_append_of_pos h, List.takeWhile_cons, isLocalChar_at]
    exact List.append_nil localPart
  · rw [List.dropWhile_append_of_pos h, List.dropWhile_cons, isLocalChar_at]
    rfl

/-- **Addresses.** Cutting at the first character that is not local finds the two parts. -/
theorem isAddress_iff {cs : List Char} : isAddress cs = true ↔ IsAddress cs := by
  constructor
  · intro h
    simp only [isAddress] at h
    split at h
    · rename_i domain hdrop
      simp only [Bool.and_eq_true, Bool.not_eq_true', List.isEmpty_eq_false_iff] at h
      obtain ⟨⟨hlocal, hdomain⟩, halphabet⟩ := h
      refine ⟨cs.takeWhile isLocalChar, domain, ?_, hlocal, hdomain, ?_,
        List.all_eq_true.mp halphabet⟩
      · rw [← hdrop, List.takeWhile_append_dropWhile]
      · intro c hc
        exact List.mem_takeWhile_imp hc
    · exact absurd h Bool.false_ne_true
  · -- whatever the two parts are, the cut falls at the at sign
    rintro ⟨localPart, domain, rfl, hlocal, hdomain, hlocal_all, hdomain_all⟩
    obtain ⟨htake, hdrop⟩ := split_at domain hlocal_all
    simp only [isAddress, htake, hdrop]
    rw [List.all_eq_true.mpr hdomain_all]
    simp [hlocal, hdomain]

/-- **The check.** It accepts the addresses. -/
theorem errors_eq_nil_iff {s : String} : errors (some s) = [] ↔ IsAddress s.toList := by
  rw [← isAddress_iff]
  by_cases hempty : s = ""
  · subst hempty
    exact ⟨fun h => absurd h (List.cons_ne_nil _ _), fun h => absurd h Bool.false_ne_true⟩
  · simp [errors, hempty]

theorem check_valid_iff {e : String} : (check (some e)).valid = true ↔ IsAddress e.toList := by
  rw [check, Verdict.ofErrors_valid_iff, errors_eq_nil_iff]

/-- The characters of an address. -/
def isAddressChar (c : Char) : Bool := isLocalChar c || isDomainChar c || c == '@'

theorem IsAddress.isAddressChar {cs : List Char} (h : IsAddress cs) :
    ∀ c ∈ cs, isAddressChar c = true := by
  obtain ⟨localPart, domain, rfl, -, -, hlocal, hdomain⟩ := h
  intro c hc
  unfold Email.isAddressChar
  rw [List.mem_append, List.mem_cons] at hc
  rcases hc with hc | rfl | hc
  · rw [hlocal c hc]
    rfl
  · exact Bool.or_true _
  · rw [hdomain c hc, Bool.or_true]
    rfl

/-- An address is written in ASCII. -/
theorem toNat_lt_of_isAddressChar {c : Char} (h : isAddressChar c = true) : c.toNat < 128 := by
  have hsigns : ∀ d ∈ localSigns, d.toNat < 128 := by simp [localSigns]
  simp only [isAddressChar, isLocalChar, isDomainChar, Bool.or_eq_true, isAsciiLetter_iff,
    isAsciiDigit_iff, beq_iff_eq] at h
  -- a character of the local part, one of the domain, or the at sign
  rcases h with (((hletter | hdigit) | hsign) | (((hletter | hdigit) | rfl) | rfl)) | rfl
  · omega
  · omega
  · exact hsigns c (List.contains_iff_mem.mp hsign)
  · omega
  · omega
  all_goals decide

theorem IsAddress.ne_nil {cs : List Char} (h : IsAddress cs) : cs ≠ [] := by
  obtain ⟨localPart, domain, rfl, -⟩ := h
  simp

end Email

/-! ## §2 Phone numbers -/

theorem ErrorCode.filter_cons {P : ErrorCode → Prop} [DecidablePred P] (code : ErrorCode)
    (codes : List ErrorCode) :
    (code :: codes).filter P = (if P code then [code] else []) ++ codes.filter P := by
  by_cases h : P code <;> simp [h]

namespace Phone

/-- A number within bounds: a plus sign and digits, the first of which is not zero. -/
def IsNumber (b : Bounds) (cs : List Char) : Prop :=
  ∃ digits, cs = '+' :: digits ∧ digits ≠ [] ∧ (∀ c ∈ digits, isAsciiDigit c = true) ∧
    digits.head? ≠ some '0' ∧ b.min ≤ digits.length ∧ (digits.length : Int) ≤ b.max

/-- The codes of the clauses, in the order in which they are reported. -/
def clauses : List ErrorCode := [.phoneNonDigits, .phoneLeadingZero, .phoneTooShort, .phoneTooLong]

/-- The text after the plus sign violates the clause of a code. -/
def Violates (b : Bounds) (rest : List Char) : ErrorCode → Prop
  | .phoneNonDigits => ∃ c ∈ rest, isAsciiDigit c = false
  | .phoneLeadingZero => rest.head? = some '0'
  | .phoneTooShort => (rest.length : Int) < b.min
  | .phoneTooLong => b.max < (rest.length : Int)
  | _ => False

-- looks for a character of the text, not for one among all characters
instance (b : Bounds) (rest : List Char) : DecidablePred (Violates b rest) := fun code => by
  unfold Violates
  split
  · exact List.decidableBEx _ rest
  all_goals infer_instance

/-- **Clauses.** The violated ones are reported, and no others. -/
theorem clauseErrors_eq_filter (b : Bounds) (rest : List Char) :
    clauseErrors b rest = clauses.filter (Violates b rest) := by
  have hdigits : (if rest.all isAsciiDigit then [] else [ErrorCode.phoneNonDigits]) =
      if Violates b rest .phoneNonDigits then [.phoneNonDigits] else [] := by
    have hiff : Violates b rest .phoneNonDigits ↔ ¬ rest.all isAsciiDigit = true := by
      simp [Violates]
    simp only [hiff, ite_not]
  rw [clauses, ErrorCode.filter_cons, ErrorCode.filter_cons, ErrorCode.filter_cons,
    ErrorCode.filter_cons, ← hdigits, List.filter_nil, List.append_nil, ← List.append_assoc,
    ← List.append_assoc]
  rfl

theorem clauseErrors_eq_nil_iff {b : Bounds} {digits : List Char} :
    clauseErrors b digits = [] ↔ (∀ c ∈ digits, isAsciiDigit c = true) ∧
      digits.head? ≠ some '0' ∧ b.min ≤ digits.length ∧ (digits.length : Int) ≤ b.max := by
  rw [clauseErrors_eq_filter, List.filter_eq_nil_iff]
  simp only [clauses, List.forall_mem_cons, decide_eq_true_eq]
  simp [Violates]

/-- **The check.** It accepts the numbers within the bounds. -/
theorem errors_eq_nil_iff {b : Bounds} {s : String} :
    errors b (some s) = [] ↔ IsNumber b s.toList := by
  unfold errors IsNumber
  -- the clauses are looked at only behind a plus sign, and only when something follows it
  cases hs : s.toList with
  | nil => simp [hs]
  | cons c digits =>
    simp only [hs]
    by_cases hplus : c = '+'
    · subst hplus
      by_cases hempty : digits = []
      · simp [hempty]
      · simp [hempty, clauseErrors_eq_nil_iff]
    · simp [hplus]

theorem check_valid_iff {b : Bounds} {s : String} :
    (check b (some s)).valid = true ↔ IsNumber b s.toList := by
  rw [check, Verdict.ofErrors_valid_iff, errors_eq_nil_iff]

theorem isFormatting_of_isAsciiDigit {c : Char} (h : isAsciiDigit c = true) :
    isFormatting c = false := by
  have hall : ∀ n ∈ List.range' 48 10, isFormatting (Char.ofNat n) = false := by decide
  obtain ⟨hfirst, hlast⟩ := isAsciiDigit_iff.mp h
  have hc := hall c.toNat (List.mem_range'_1.mpr ⟨hfirst, by omega⟩)
  rwa [Char.ofNat_toNat] at hc

theorem IsNumber.isFormatting_eq_false {b : Bounds} {cs : List Char} (h : IsNumber b cs) :
    ∀ c ∈ cs, isFormatting c = false := by
  obtain ⟨digits, rfl, -, hdigits, -⟩ := h
  intro c hc
  rw [List.mem_cons] at hc
  rcases hc with rfl | hc
  · decide
  · exact isFormatting_of_isAsciiDigit (hdigits c hc)

end Phone

end IdentityService
