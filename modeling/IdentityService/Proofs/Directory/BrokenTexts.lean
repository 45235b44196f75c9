import IdentityService.Proofs.Bytes.Unicode
import IdentityService.Proofs.Directory.PhoneNumbers
import IdentityService.Proofs.Directory.Spelling

/-!
# Strings That Spell No Text

A principal may bear an email or a phone number with half of a surrogate pair in it.  A row holds
both as texts, so a synchronizer is given what people see of such a string, where a replacement
character stands for the half.  That character survives trimming and normalizing, and both checks
refuse it: no such string is ever written, and none stands for another one in the store.

## Main statements

- `Synchronizer.syncPrincipal_of_broken`: a principal with such an email or phone number is refused
  before the store is called.
-/

namespace IdentityService

open Text

/-- No address comes of a spelling with a replacement character. -/
theorem Email.not_isAddress_of_replacement {e : String} (h : '\uFFFD' ∈ e.toList) :
    ¬ IsAddress (normalizeEmail e).toList := by
  intro haddress
  have hascii := (isAddress_normalizeEmail_iff.mp haddress).toNat_lt
  have hread : readKelvin '\uFFFD' = '\uFFFD' := by decide
  have hmem : '\uFFFD' ∈ (strip e).toList.map readKelvin :=
    List.mem_map.mpr ⟨_, mem_strip (by decide) h, hread⟩
  exact absurd (hascii _ hmem) (by decide)

/-- A spelling with a replacement character is normalized to something that is no number. -/
theorem Phone.exists_normal_of_replacement {phone : String} (h : '\uFFFD' ∈ phone.toList) :
    ∃ p, normalizePhone phone = some p ∧ ∀ b : Bounds, ¬ IsNumber b p.toList := by
  have hkept : isFormatting '\uFFFD' = false := by decide
  have hsome : ¬ OnlyFormatting phone := fun honly => absurd (honly _ h) (by simp [hkept])
  refine ⟨_, by rw [normalizePhone_eq, if_neg hsome], ?_⟩
  rintro b ⟨digits, hdigits, -, hall, -⟩
  have hmem : '\uFFFD' ∈ (withoutFormatting phone).toList := by
    rw [toList_withoutFormatting, List.mem_filter]
    exact ⟨h, by rw [hkept]; rfl⟩
  rw [hdigits, List.mem_cons] at hmem
  rcases hmem with hplus | hdigit
  · exact absurd hplus (by decide)
  · exact absurd (hall _ hdigit) (by decide)

namespace Synchronizer

variable {σ : Type} {s : Synchronizer} {store : Store σ} {clock : Moment} {state : σ}

/-- **Strings that spell no text.** A principal whose email or phone number spells no text is
refused with the codes of what people see of it, or for want of an email, before the store is
called. -/
theorem syncPrincipal_of_broken {p : Principal}
    (h : (∃ b, p.email = some (.broken b)) ∨ ∃ b, p.phone = some (.broken b)) :
    ∃ e : ServiceError, (e = .missingEmail ∨ ∃ codes ≠ [], e = .validation codes) ∧
      s.syncPrincipal store clock p state = (.error (.service e), state) := by
  cases hemail : p.email with
  | none =>
    refine ⟨.missingEmail, .inl rfl, ?_⟩
    rw [syncPrincipal, hemail]
  | some email =>
    by_cases hempty : email.isEmpty = true
    · refine ⟨.missingEmail, .inl rfl, ?_⟩
      simp only [syncPrincipal, hemail, if_pos hempty]
    · have hrefused : ¬ s.Admits (some email.shown) (p.phone.map (·.shown)) := by
        rintro ⟨haddress, hnumber⟩
        rw [Option.map_some, Email.check_valid_iff] at haddress
        rcases h with ⟨b, hb⟩ | ⟨b, hb⟩
        · obtain rfl := Option.some.inj (hemail.symm.trans hb)
          exact Email.not_isAddress_of_replacement (RawText.replacement_mem_shown b) haddress
        · obtain ⟨q, hq, hnone⟩ :=
            Phone.exists_normal_of_replacement (RawText.replacement_mem_shown b)
          rw [hb, Option.map_some, Option.bind_some] at hnumber
          exact hnone _ (Phone.check_valid_iff.mp (hnumber q hq))
      refine ⟨_, .inr ⟨_, mt admits_iff.mpr hrefused, rfl⟩, ?_⟩
      simp only [syncPrincipal, hemail, if_neg hempty]
      exact createOrUpdate_of_accept_error (accept_of_not_admits hrefused)

end Synchronizer

end IdentityService
