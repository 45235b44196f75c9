import IdentityService.Validation.Password
import Mathlib.Data.List.Basic

/-!
# Password Strength

A password is refused outright when it is missing, empty or holds a blank.  Of any other password
each strength rule is looked at by itself, and the rules ask for nothing but a number of characters
and the presence of some of them.  More characters therefore never make a password weaker, and
their order does not count.

## Main definitions

- `Password.Reports`: the codes for a password.
- `Password.IsStrong`: the accepted passwords.

## Main statements

- `Password.errors_eq_iff`: the check reports just these codes.
- `Password.Violates.of_subset`: more characters violate no more rules.
- `Password.exists_errors_eq_filter`: the rules may fail in any combination.
- `Password.strength_exact`: what is reported, and how it changes with the password.
-/

namespace IdentityService.Password

open Text

variable {cs ds : List Char} {p q : String} {password : Option String} {codes : List ErrorCode}

/-! ## §1 The rules -/

/-- The codes of the strength rules, in the order in which they are reported. -/
def strengthCodes : List ErrorCode :=
  [.passwordTooShort, .passwordUpperMissing, .passwordLowerMissing, .passwordDigitMissing,
    .passwordSpecialMissing]

/-- A text violates the rule of a code. -/
def Violates (cs : List Char) : ErrorCode → Prop
  | .passwordTooShort => cs.length < 8
  | .passwordUpperMissing => ∀ c ∈ cs, isUppercase c = false
  | .passwordLowerMissing => ∀ c ∈ cs, isLowercase c = false
  | .passwordDigitMissing => ∀ c ∈ cs, isAsciiDigit c = false
  | .passwordSpecialMissing => ∀ c ∈ cs, c ∉ specialChars.toList
  | _ => False

-- looks at the characters of the text, not at all characters
instance (cs : List Char) : DecidablePred (Violates cs) := fun code => by
  unfold Violates
  split
  · infer_instance
  · exact List.decidableBAll _ cs
  · exact List.decidableBAll _ cs
  · exact List.decidableBAll _ cs
  · exact List.decidableBAll _ cs
  · infer_instance

theorem holds_eq_false_iff :
    ∀ rule ∈ strengthRules, rule.holds cs = false ↔ Violates cs rule.code := by
  simp only [strengthRules, List.forall_mem_cons, decide_eq_false_iff_not]
  simp [Violates, minLength]

/-- **Rules.** The violated ones are reported, and no others. -/
theorem violated_eq_filter (cs : List Char) :
    (strengthRules.filter fun rule => !rule.holds cs).map (·.code) =
      strengthCodes.filter (Violates cs) := by
  have hcodes : strengthCodes = strengthRules.map (·.code) := rfl
  rw [hcodes, List.filter_map]
  congr 1
  apply List.filter_congr
  intro rule hrule
  rw [Function.comp_apply, Bool.eq_iff_iff, decide_eq_true_iff, Bool.not_eq_true',
    holds_eq_false_iff rule hrule]

/-! ## §2 The codes for a password -/

/-- The codes for a password.  When there is one and it holds no blank, these are the codes of the
violated rules. -/
inductive Reports : Option String → List ErrorCode → Prop
  | null : Reports none [.passwordNull]
  | empty : Reports (some "") [.passwordEmpty]
  | whitespace {s : String} {c : Char} (hc : c ∈ s.toList) (hblank : isBlank c = true) :
      Reports (some s) [.passwordWhitespace]
  | rules {s : String} (hne : s ≠ "") (hnone : ∀ c ∈ s.toList, isBlank c = false) :
      Reports (some s) (strengthCodes.filter (Violates s.toList))

theorem Reports.errors_eq (h : Reports password codes) : errors password = codes := by
  cases h with
  | null => rfl
  | empty => rfl
  | @whitespace s c hc hblank =>
    have hne : s ≠ "" := by
      rintro rfl
      exact absurd hc List.not_mem_nil
    have hany : s.toList.any isBlank = true := List.any_eq_true.mpr ⟨c, hc, hblank⟩
    simp [errors, hne, hany]
  | @rules s hne hnone =>
    have hany : s.toList.any isBlank = false := by simpa using hnone
    simp [errors, hne, hany, violated_eq_filter]

/-- Every password is one of those for which there are codes. -/
theorem exists_reports (password : Option String) : ∃ codes, Reports password codes := by
  cases password with
  | none => exact ⟨_, .null⟩
  | some s =>
    -- the cases are those in which the check looks no further, and the one in which it does
    by_cases hne : s = ""
    · subst hne
      exact ⟨_, .empty⟩
    · by_cases hblank : ∃ c ∈ s.toList, isBlank c = true
      · obtain ⟨c, hc, hblank⟩ := hblank
        exact ⟨_, .whitespace hc hblank⟩
      · refine ⟨_, .rules hne fun c hc => ?_⟩
        exact eq_false_of_ne_true fun h => hblank ⟨c, hc, h⟩

/-- **The check** reports the codes for the password. -/
theorem errors_eq_iff : errors password = codes ↔ Reports password codes := by
  refine ⟨?_, Reports.errors_eq⟩
  rintro rfl
  obtain ⟨codes, h⟩ := exists_reports password
  rwa [h.errors_eq]

/-! ## §3 Strong passwords -/

/-- A strong password: long enough, without blanks, and with a character of each kind. -/
structure IsStrong (cs : List Char) : Prop where
  long : 8 ≤ cs.length
  noBlank : ∀ c ∈ cs, isBlank c = false
  upper : ∃ c ∈ cs, isUppercase c = true
  lower : ∃ c ∈ cs, isLowercase c = true
  digit : ∃ c ∈ cs, isAsciiDigit c = true
  special : ∃ c ∈ cs, c ∈ specialChars.toList

theorem isStrong_iff :
    IsStrong cs ↔ (∀ c ∈ cs, isBlank c = false) ∧ ∀ code ∈ strengthCodes, ¬ Violates cs code := by
  simp only [strengthCodes, List.forall_mem_cons]
  constructor
  · rintro ⟨hlong, hblank, hupper, hlower, hdigit, hspecial⟩
    refine ⟨hblank, ?_⟩
    simp [Violates, hlong, hupper, hlower, hdigit, hspecial]
  · rintro ⟨hblank, hlong, hupper, hlower, hdigit, hspecial, -⟩
    -- a rule that holds names a character of its kind
    simp only [Violates, not_forall, Bool.not_eq_false, not_not, exists_prop, Nat.not_lt]
      at hlong hupper hlower hdigit hspecial
    exact ⟨hlong, hblank, hupper, hlower, hdigit, hspecial⟩

theorem valid_iff_isStrong :
    (check password).valid = true ↔ ∃ s, password = some s ∧ IsStrong s.toList := by
  rw [check, Verdict.ofErrors_valid_iff, errors_eq_iff]
  constructor
  · -- no codes are reported only where the rules are looked at
    generalize hcodes : ([] : List ErrorCode) = codes
    intro h
    cases h with
    | null => exact absurd hcodes.symm (List.cons_ne_nil _ _)
    | empty => exact absurd hcodes.symm (List.cons_ne_nil _ _)
    | whitespace => exact absurd hcodes.symm (List.cons_ne_nil _ _)
    | @rules s hne hnone =>
      have hviolated := List.filter_eq_nil_iff.mp hcodes.symm
      simp only [decide_eq_true_eq] at hviolated
      exact ⟨s, rfl, isStrong_iff.mpr ⟨hnone, hviolated⟩⟩
  · rintro ⟨s, rfl, h⟩
    have hne : s ≠ "" := by
      rintro rfl
      exact absurd h.long (by decide)
    obtain ⟨hblank, hviolated⟩ := isStrong_iff.mp h
    have hreports := Reports.rules hne hblank
    rwa [List.filter_eq_nil_iff.mpr (by simpa using hviolated)] at hreports

/-! ## §4 More characters, and other orders -/

/-- **Monotony.** A text that has all the characters of another and is no shorter violates no
further rule.  This is all that the rules know of a text: neither where its characters stand nor
how often they occur. -/
theorem Violates.of_subset (hsubset : cs ⊆ ds) (hlength : cs.length ≤ ds.length)
    {code : ErrorCode} (h : Violates ds code) : Violates cs code := by
  -- the first rule counts the characters, and each of the others misses one among them
  unfold Violates at h ⊢
  split at h
  · exact Nat.lt_of_le_of_lt hlength h
  · exact fun c hc => h c (hsubset hc)
  · exact fun c hc => h c (hsubset hc)
  · exact fun c hc => h c (hsubset hc)
  · exact fun c hc => h c (hsubset hc)
  · exact h.elim

/-- Characters inserted into a password add no error, as long as none of them is blank. -/
theorem errors_sublist_of_inserted (hne : p ≠ "") (hinserted : p.toList.Sublist q.toList)
    (hnone : ∀ c ∈ q.toList, isBlank c = false) :
    (errors (some q)).Sublist (errors (some p)) := by
  have hp : Reports (some p) _ := .rules hne fun c hc => hnone c (hinserted.subset hc)
  have hqne : q ≠ "" := by
    rintro rfl
    exact hne (String.toList_eq_nil_iff.mp (List.sublist_nil.mp hinserted))
  have hq : Reports (some q) _ := .rules hqne hnone
  -- neither password is refused outright, so the rules of both are compared one by one
  rw [hp.errors_eq, hq.errors_eq]
  apply List.monotone_filter_right
  intro code hcode
  rw [decide_eq_true_iff] at hcode ⊢
  exact hcode.of_subset hinserted.subset hinserted.length_le

theorem violates_iff_of_perm (h : cs.Perm ds) (code : ErrorCode) :
    Violates cs code ↔ Violates ds code :=
  ⟨Violates.of_subset h.symm.subset (Nat.le_of_eq h.symm.length_eq),
    Violates.of_subset h.subset (Nat.le_of_eq h.length_eq)⟩

/-- The codes for a password are those for the same characters in another order. -/
theorem Reports.of_perm (hperm : p.toList.Perm q.toList) (h : Reports (some p) codes) :
    Reports (some q) codes := by
  cases h with
  | empty =>
    rw [String.toList_eq_nil_iff.mp (List.nil_perm.mp hperm)]
    exact .empty
  | whitespace hc hblank => exact .whitespace (hperm.subset hc) hblank
  | rules hne hnone =>
    have hqne : q ≠ "" := by
      rintro rfl
      exact hne (String.toList_eq_nil_iff.mp (List.perm_nil.mp hperm))
    have hviolated : Violates p.toList = Violates q.toList :=
      funext fun code => propext (violates_iff_of_perm hperm code)
    simp only [hviolated]
    exact .rules hqne fun c hc => hnone c (hperm.symm.subset hc)

/-! ## §5 No rule follows from the others -/

/-- Characters that satisfy the rule of a code.  Letters without case keep a text long. -/
def remedy : ErrorCode → List Char
  | .passwordTooShort => List.replicate 8 '字'
  | .passwordUpperMissing => ['A']
  | .passwordLowerMissing => ['a']
  | .passwordDigitMissing => ['1']
  | .passwordSpecialMissing => ['!']
  | _ => []

theorem not_violates_remedy : ∀ code ∈ strengthCodes, ¬ Violates (remedy code) code := by
  decide +kernel

/-- A remedy for one code is of no use for another, unless a text is too short. -/
theorem violates_remedy : ∀ code ∈ strengthCodes, code ≠ .passwordTooShort →
    Violates ['字'] code ∧ ∀ other ∈ strengthCodes, other ≠ code → Violates (remedy other) code := by
  decide +kernel

/-- All rules but the first look for a character, so they look at one character at a time. -/
theorem violates_iff_forall_singleton : ∀ code ∈ strengthCodes, code ≠ .passwordTooShort →
    (Violates cs code ↔ ∀ c ∈ cs, Violates [c] code) := by
  simp [strengthCodes, Violates]

/-- Characters that violate the rules of some codes and satisfy the others. -/
def violating (codes : List ErrorCode) : List Char :=
  '字' :: (strengthCodes.filter (· ∉ codes)).flatMap remedy

theorem mem_violating_iff {c : Char} :
    c ∈ violating codes ↔ c = '字' ∨ ∃ code ∈ strengthCodes, code ∉ codes ∧ c ∈ remedy code := by
  simp [violating, and_assoc]

theorem length_violating_lt (h : ErrorCode.passwordTooShort ∈ codes) :
    (violating codes).length < 8 := by
  -- of the five remedies the only long one is left out
  have hshort : ∀ code ∈ strengthCodes, code ≠ .passwordTooShort → (remedy code).length = 1 := by
    decide
  have hone : ∀ code ∈ strengthCodes.filter (· ∉ codes), (remedy code).length = 1 := by
    intro code hcode
    obtain ⟨hcode, hnot⟩ := List.mem_filter.mp hcode
    apply hshort code hcode
    rintro rfl
    exact of_decide_eq_true hnot h
  have hfive : (strengthCodes.filter (· ∉ codes)).length ≤ 5 := List.length_filter_le ..
  rw [violating, List.length_cons, List.length_flatMap, List.map_congr_left hone, List.map_const',
    List.sum_replicate_nat, Nat.mul_one]
  omega

theorem violates_violating_iff {code : ErrorCode} (hcode : code ∈ strengthCodes) :
    Violates (violating codes) code ↔ code ∈ codes := by
  constructor
  · -- the remedy for a code that is not wanted is part of the text
    intro h
    by_contra hnot
    have hmem : code ∈ strengthCodes.filter (· ∉ codes) :=
      List.mem_filter.mpr ⟨hcode, decide_eq_true hnot⟩
    have hremedy : (remedy code).Sublist (violating codes) :=
      (List.sublist_flatten_of_mem (List.mem_map_of_mem hmem)).cons _
    exact not_violates_remedy code hcode (h.of_subset hremedy.subset hremedy.length_le)
  · -- no remedy in the text is one for a code that is wanted
    intro h
    by_cases hshort : code = .passwordTooShort
    · subst hshort
      exact length_violating_lt h
    · obtain ⟨hcaseless, hother⟩ := violates_remedy code hcode hshort
      rw [violates_iff_forall_singleton code hcode hshort]
      intro c hc
      obtain rfl | ⟨other, hmem, hnot, hc⟩ := mem_violating_iff.mp hc
      · exact hcaseless
      · have hne : other ≠ code := by
          rintro rfl
          exact hnot h
        exact (violates_iff_forall_singleton code hcode hshort).mp (hother other hmem hne) c hc

/-- **Independence.** Whichever rules are chosen, some password fails these and no others. -/
theorem exists_errors_eq_filter (codes : List ErrorCode) :
    ∃ s, errors (some s) = strengthCodes.filter (· ∈ codes) := by
  have hremedy : ∀ code ∈ strengthCodes, (remedy code).any isBlank = false := by decide
  have hnone : ∀ c ∈ violating codes, isBlank c = false := by
    intro c hc
    obtain rfl | ⟨code, hcode, -, hc⟩ := mem_violating_iff.mp hc
    · decide
    · exact eq_false_of_ne_true (List.any_eq_false.mp (hremedy code hcode) c hc)
  have hne : String.ofList (violating codes) ≠ "" := by simp [violating]
  have hreports : Reports (some (String.ofList (violating codes))) _ :=
    .rules hne (by rwa [String.toList_ofList])
  refine ⟨String.ofList (violating codes), ?_⟩
  rw [hreports.errors_eq]
  apply List.filter_congr
  intro code hcode
  rw [String.toList_ofList, decide_eq_decide]
  exact violates_violating_iff hcode

/-! ## §6 The check -/

/-- **Strength.** Each password is reported with just the codes for it, and the strong ones are
accepted; the rules may fail in any combination.  Inserting characters that are not blank into a
password without blanks adds no error and keeps it valid, and the order of the characters of a
password does not matter. -/
theorem strength_exact (password : Option String) (p q : String) :
    (∀ codes, (check password).errors = codes ↔ Reports password codes) ∧
    ((check password).valid = true ↔ ∃ s, password = some s ∧ IsStrong s.toList) ∧
    (∀ codes : List ErrorCode, ∃ s, (check (some s)).errors = strengthCodes.filter (· ∈ codes)) ∧
    (p ≠ "" → p.toList.Sublist q.toList → (∀ c ∈ q.toList, isBlank c = false) →
      (check (some q)).errors.Sublist (check (some p)).errors ∧
        ((check (some p)).valid = true → (check (some q)).valid = true)) ∧
    (p.toList.Perm q.toList → check (some p) = check (some q)) := by
  refine ⟨fun _ => errors_eq_iff, valid_iff_isStrong, exists_errors_eq_filter, ?_, ?_⟩
  · intro hne hinserted hnone
    have herrors := errors_sublist_of_inserted hne hinserted hnone
    refine ⟨herrors, fun hvalid => ?_⟩
    rw [check, Verdict.ofErrors_valid_iff] at hvalid ⊢
    exact List.sublist_nil.mp (hvalid ▸ herrors)
  · intro hperm
    have hreports : Reports (some q) (errors (some p)) := (errors_eq_iff.mp rfl).of_perm hperm
    rw [check, check, hreports.errors_eq]

/-- Letters of other scripts inserted into a strong password, and its characters in another
order. -/
theorem strength_exact_inserted :
    (check (some "éAbc字def1!")).valid = true ∧
      check (some "Abcdef1!") = check (some "!1fedcbA") := by
  constructor
  · have hnone : "éAbc字def1!".toList.any isBlank = false := by decide
    have h := (strength_exact none "Abcdef1!" "éAbc字def1!").2.2.2.1
    exact (h (by decide) (by decide) (by simpa using hnone)).2 (by decide +kernel)
  · exact (strength_exact none "Abcdef1!" "!1fedcbA").2.2.2.2 (by decide)

end IdentityService.Password
