import IdentityService.Proofs.Text.LowerCase
import IdentityService.Proofs.Validation.Contact
import IdentityService.Validation.Otp

/-!
# Texts of Digits

Phone numbers and one-time passwords are digits of a bounded count.  Each of the two checks has a
few early answers, for a text that is missing or has not the right start; behind these every clause
is looked at, whatever the bounds are and whichever other clauses fail.

## Main definitions

- `Phone.Reports`, `Otp.Reports`: the codes for a text.
- `Otp.IsPassword`: the accepted one-time passwords.

## Main statements

- `Phone.errors_eq_iff`, `Otp.errors_eq_iff`: the checks report just these codes.
- `digitTexts_exact`: what the two checks accept and what they report.
-/

namespace IdentityService

open Text

/-! ## §1 Phone numbers -/

namespace Phone

variable {b : Bounds} {phone : Option String} {codes : List ErrorCode}

/-- The codes for a phone number.  When there is a plus sign and something after it, these are the
codes of the violated clauses. -/
inductive Reports (b : Bounds) : Option String → List ErrorCode → Prop
  | null : Reports b none [.phoneNull]
  | empty {s : String} (h : s = "" ∨ s = "+") : Reports b (some s) [.phoneEmpty]
  | plusMissing {s : String} (hne : s ≠ "") (h : s.toList.head? ≠ some '+') :
      Reports b (some s) [.phonePlusMissing]
  | clauses {s : String} {rest : List Char} (hs : s.toList = '+' :: rest) (hrest : rest ≠ []) :
      Reports b (some s) (clauses.filter (Violates b rest))

theorem Reports.errors_eq (h : Reports b phone codes) : errors b phone = codes := by
  cases h with
  | null => rfl
  | empty hs => rcases hs with rfl | rfl <;> rfl
  | @plusMissing s hne hhead =>
    cases hs : s.toList with
    | nil => exact absurd (String.toList_eq_nil_iff.mp hs) hne
    | cons c rest =>
      have hplus : c ≠ '+' := by simpa [hs] using hhead
      simp [errors, hs, hplus]
  | clauses hs hrest => simp [errors, hs, hrest, clauseErrors_eq_filter]

/-- Every text is one of those for which there are codes. -/
theorem exists_reports (b : Bounds) (phone : Option String) : ∃ codes, Reports b phone codes := by
  -- the cases are those in which the check looks no further, and the one in which it does
  cases phone with
  | none => exact ⟨_, .null⟩
  | some s =>
    cases hs : s.toList with
    | nil => exact ⟨_, .empty (.inl (String.toList_eq_nil_iff.mp hs))⟩
    | cons c rest =>
      have hne : s ≠ "" := by
        rintro rfl
        exact List.cons_ne_nil _ _ hs.symm
      by_cases hplus : c = '+'
      · subst hplus
        by_cases hrest : rest = []
        · subst hrest
          exact ⟨_, .empty (.inr (String.toList_inj.mp hs))⟩
        · exact ⟨_, .clauses hs hrest⟩
      · have hhead : s.toList.head? ≠ some '+' := by simpa [hs] using hplus
        exact ⟨_, .plusMissing hne hhead⟩

/-- **The check** reports the codes for the number. -/
theorem errors_eq_iff : errors b phone = codes ↔ Reports b phone codes := by
  refine ⟨?_, Reports.errors_eq⟩
  rintro rfl
  obtain ⟨codes, h⟩ := exists_reports b phone
  rwa [h.errors_eq]

theorem valid_iff_isNumber :
    (check b phone).valid = true ↔ ∃ s, phone = some s ∧ IsNumber b s.toList := by
  cases phone with
  | none => simp [check, errors, Verdict.ofErrors]
  | some s => simp [check_valid_iff]

end Phone

/-! ## §2 One-time passwords -/

namespace Otp

variable {b : Bounds} {otp : Option String} {codes : List ErrorCode}

/-- A one-time password within bounds: digits, and at least one of them. -/
def IsPassword (b : Bounds) (cs : List Char) : Prop :=
  cs ≠ [] ∧ (∀ c ∈ cs, isAsciiDigit c = true) ∧ b.min ≤ cs.length ∧ (cs.length : Int) ≤ b.max

/-- The codes of the clauses, in the order in which they are reported. -/
def clauses : List ErrorCode := [.otpNonDigits, .otpWrongLength]

/-- A text violates the clause of a code. -/
def Violates (b : Bounds) (cs : List Char) : ErrorCode → Prop
  | .otpNonDigits => ∃ c ∈ cs, isAsciiDigit c = false
  | .otpWrongLength => (cs.length : Int) < b.min ∨ b.max < (cs.length : Int)
  | _ => False

-- looks for a character of the text, not for one among all characters
instance (b : Bounds) (cs : List Char) : DecidablePred (Violates b cs) := fun code => by
  unfold Violates
  split
  · exact List.decidableBEx _ cs
  all_goals infer_instance

/-- The codes for a one-time password.  Nothing but blanks is reported as such and nothing else. -/
inductive Reports (b : Bounds) : Option String → List ErrorCode → Prop
  | null : Reports b none [.otpBlank]
  | blank {s : String} (h : strip s = "") : Reports b (some s) [.otpBlank]
  | clauses {s : String} (h : strip s ≠ "") :
      Reports b (some s) (clauses.filter (Violates b s.toList))

theorem Reports.errors_eq (h : Reports b otp codes) : errors b otp = codes := by
  cases h with
  | null => rfl
  | blank hs => simp [errors, strip_eq_empty_iff.mp hs]
  | @clauses s hs =>
    have hblank : ¬ isBlankText s = true := mt strip_eq_empty_iff.mpr hs
    have hdigits : (if s.toList.all isAsciiDigit then [] else [ErrorCode.otpNonDigits]) =
        if Violates b s.toList .otpNonDigits then [.otpNonDigits] else [] := by
      have hiff : Violates b s.toList .otpNonDigits ↔ ¬ s.toList.all isAsciiDigit = true := by
        simp [Violates]
      simp only [hiff, ite_not]
    have hlength : (if b.min ≤ (s.toList.length : Int) ∧ (s.toList.length : Int) ≤ b.max then []
          else [ErrorCode.otpWrongLength]) =
        if Violates b s.toList .otpWrongLength then [.otpWrongLength] else [] := by
      have hiff : Violates b s.toList .otpWrongLength ↔
          ¬ (b.min ≤ (s.toList.length : Int) ∧ (s.toList.length : Int) ≤ b.max) := by
        rw [not_and_or, Int.not_le, Int.not_le]
        rfl
      simp only [hiff, ite_not]
    rw [errors, if_neg hblank, hdigits, hlength, Otp.clauses, ErrorCode.filter_cons,
      ErrorCode.filter_cons, List.filter_nil, List.append_nil]

/-- **The check** reports the codes for the one-time password. -/
theorem errors_eq_iff : errors b otp = codes ↔ Reports b otp codes := by
  refine ⟨?_, Reports.errors_eq⟩
  rintro rfl
  cases otp with
  | none => exact .null
  | some s =>
    by_cases hs : strip s = ""
    · have h := Reports.blank (b := b) hs
      rwa [h.errors_eq]
    · have h := Reports.clauses (b := b) hs
      rwa [h.errors_eq]

theorem isAsciiDigit_not_isBlank {c : Char} (h : isAsciiDigit c = true) : isBlank c = false := by
  have hformatting := Phone.isFormatting_of_isAsciiDigit h
  simp only [Phone.isFormatting, Bool.or_eq_false_iff] at hformatting
  tauto

theorem IsPassword.strip_ne_empty {s : String} (h : IsPassword b s.toList) : strip s ≠ "" := by
  obtain ⟨hne, hdigits, -⟩ := h
  rw [strip_of_forall fun c hc => isAsciiDigit_not_isBlank (hdigits c hc)]
  rintro rfl
  exact hne rfl

theorem valid_iff_isPassword :
    (check b otp).valid = true ↔ ∃ s, otp = some s ∧ IsPassword b s.toList := by
  rw [check, Verdict.ofErrors_valid_iff, errors_eq_iff]
  have hclauses (s : String) : clauses.filter (Violates b s.toList) = [] ↔
      (∀ c ∈ s.toList, isAsciiDigit c = true) ∧ b.min ≤ s.toList.length ∧
        (s.toList.length : Int) ≤ b.max := by
    rw [List.filter_eq_nil_iff]
    simp only [clauses, List.forall_mem_cons, decide_eq_true_eq]
    simp [Violates]
  constructor
  · -- no codes are reported only where the clauses are looked at
    generalize hcodes : ([] : List ErrorCode) = codes
    intro h
    cases h with
    | null => exact absurd hcodes.symm (List.cons_ne_nil _ _)
    | blank => exact absurd hcodes.symm (List.cons_ne_nil _ _)
    | @clauses s hs =>
      refine ⟨s, rfl, ?_, (hclauses s).mp hcodes.symm⟩
      intro hnil
      rw [String.toList_eq_nil_iff.mp hnil] at hs
      exact hs rfl
  · -- digits are not blank, so the clauses are looked at
    rintro ⟨s, rfl, h⟩
    have hreports := Reports.clauses (b := b) h.strip_ne_empty
    rwa [(hclauses s).mpr h.2] at hreports

end Otp

/-! ## §3 The two checks -/

/-- **Texts of digits.** For all bounds a phone number is accepted when it is a plus sign and digits
within the bounds, the first of them not zero; a one-time password, when it is digits within the
bounds and at least one.  Every text is reported with just the codes for it. -/
theorem digitTexts_exact (phoneBounds : Phone.Bounds) (otpBounds : Otp.Bounds)
    (text : Option String) :
    ((Phone.check phoneBounds text).valid = true ↔
      ∃ s, text = some s ∧ Phone.IsNumber phoneBounds s.toList) ∧
    (∀ codes, (Phone.check phoneBounds text).errors = codes ↔
      Phone.Reports phoneBounds text codes) ∧
    ((Otp.check otpBounds text).valid = true ↔
      ∃ s, text = some s ∧ Otp.IsPassword otpBounds s.toList) ∧
    ∀ codes, (Otp.check otpBounds text).errors = codes ↔ Otp.Reports otpBounds text codes :=
  ⟨Phone.valid_iff_isNumber, fun _ => Phone.errors_eq_iff, Otp.valid_iff_isPassword,
    fun _ => Otp.errors_eq_iff⟩

-- with bounds that no count keeps, all that can fail is reported
example : (Phone.check ⟨3, 0⟩ (some "+0٣")).errors =
    [.phoneNonDigits, .phoneLeadingZero, .phoneTooShort, .phoneTooLong] := by
  decide +kernel

end IdentityService
