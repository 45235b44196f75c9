import IdentityService.Proofs.Directory.Admission
import IdentityService.Proofs.Validation.AddressGrammar

/-!
# Spellings of an Address

Which spellings are stored as the same address.  Trimming and the case of ASCII letters are
meant to be all that is lost, and for spellings in ASCII nothing else is.  There is one
exception: a Kelvin sign is lower-cased to a small k before the check, so a spelling that the
check refuses is stored as the address of someone else.

## Main statements

- `Email.isAddress_normalizeEmail_iff`: which spellings are stored.
- `Synchronizer.stored_email_eq_iff`: which spellings are stored as the same address.
-/

namespace IdentityService

open Text

/-! ## §1 Normalized spellings -/

namespace Email

theorem IsAddress.toNat_lt {cs : List Char} (h : IsAddress cs) : ∀ c ∈ cs, c.toNat < 128 := by
  intro c hc
  exact toNat_lt_of_isAddressChar (h.isAddressChar c hc)

theorem toList_normalizeEmail (e : String) :
    (normalizeEmail e).toList = lowerChars (strip e).toList := String.toList_ofList

/-- The address as which a spelling is stored, letter by letter. -/
theorem toList_normalizeEmail_of_isAddress {e : String}
    (h : IsAddress (normalizeEmail e).toList) :
    (normalizeEmail e).toList = ((strip e).toList.map readKelvin).map Char.toLower := by
  have hascii := h.toNat_lt
  rw [toList_normalizeEmail] at hascii ⊢
  exact lowerChars_eq_map (lowerChars_ascii_iff.mp hascii)

/-- **Stored spellings.** They are the ones that trimming and reading the Kelvin signs turn into
an address. -/
theorem isAddress_normalizeEmail_iff {e : String} :
    IsAddress (normalizeEmail e).toList ↔ IsAddress ((strip e).toList.map readKelvin) := by
  constructor
  · intro h
    rw [← isAddress_map_toLower, ← toList_normalizeEmail_of_isAddress h]
    exact h
  · intro h
    rw [toList_normalizeEmail, lowerChars_eq_map h.toNat_lt, isAddress_map_toLower]
    exact h

theorem kelvin_notMem_of_isAddress {cs : List Char} (h : IsAddress cs) : kelvin ∉ cs := by
  intro hmem
  exact absurd (h.toNat_lt kelvin hmem) (by decide)

/-- A stored spelling is itself an address unless it holds a Kelvin sign. -/
theorem isAddress_strip_iff {e : String} (h : IsAddress (normalizeEmail e).toList) :
    IsAddress (strip e).toList ↔ kelvin ∉ (strip e).toList := by
  refine ⟨kelvin_notMem_of_isAddress, fun hkelvin => ?_⟩
  rw [isAddress_normalizeEmail_iff, map_readKelvin hkelvin] at h
  exact h

/-- **Normalizing and checking.** Normalizing turns a spelling that the check refuses, when it is
trimmed, into one that it accepts iff the spelling holds a Kelvin sign and is an address once
the Kelvin signs are read; and it turns no address into anything else. -/
theorem normalizeEmail_valid_iff (e : String) :
    (check (some (normalizeEmail e))).valid = true ↔
      (check (some (strip e))).valid = true ∨
        kelvin ∈ (strip e).toList ∧ IsAddress ((strip e).toList.map readKelvin) := by
  rw [check_valid_iff, check_valid_iff, isAddress_normalizeEmail_iff]
  by_cases hkelvin : kelvin ∈ (strip e).toList
  · have hrefused : ¬ IsAddress (strip e).toList := fun h => kelvin_notMem_of_isAddress h hkelvin
    rw [or_iff_right hrefused, and_iff_right hkelvin]
  · rw [map_readKelvin hkelvin, or_iff_left fun h => hkelvin h.1]

end Email

/-! ## §2 Merged spellings -/

namespace Synchronizer

theorem eq_of_accept {s : Synchronizer} {e n : String} {phone q : Option String}
    (h : s.accept (some e) phone = .ok (n, q)) :
    n = normalizeEmail e ∧ Email.IsAddress (normalizeEmail e).toList := by
  by_cases hadmits : s.Admits (some e) phone
  · obtain ⟨⟨e', he', hnormal⟩, -⟩ := hadmits.normal
    rw [Option.map_some, Option.some.injEq] at he'
    subst he'
    rw [accept_of_admits hadmits] at h
    exact ⟨(Prod.mk.inj (Except.ok.inj h)).1.symm, hnormal.address⟩
  · rw [accept_of_not_admits hadmits] at h
    cases h

/-- A successful write stores the email that was accepted. -/
theorem exists_accept_stored {s : Synchronizer} {clock : Moment} {subject : RawText} {e : String}
    {phone : Option String} {m m' : Memory} {result : SyncResult}
    (h : s.createOrUpdate Memory.store clock subject (some e) phone m = (.ok result, m')) :
    ∃ q, s.accept (some e) phone = .ok (result.record.email, q) := by
  unfold createOrUpdate at h
  split at h
  · exact absurd (Prod.mk.inj h).1 (by simp)
  · rename_i n q haccept
    simp only [Memory.store] at h
    split at h
    · rename_i written after hwrite
      obtain ⟨rfl, -⟩ := Memory.records_upsert? hwrite
      rw [← Except.ok.inj (Prod.mk.inj h).1, Memory.email_written]
      exact ⟨q, haccept⟩
    · exact absurd (Prod.mk.inj h).1 (by simp)

/-- **Merged spellings.** Of two spellings that are accepted, by whatever synchronizers and with
whatever phone numbers, the stored emails are the same iff the trimmed spellings differ in the
case of ASCII letters only, once their Kelvin signs are read as the small k.  So the spellings
themselves differ in case only iff they have their Kelvin signs at the same places, which is
always so when they have none.  An accepted spelling is accepted by the check as well, when it
is trimmed, iff it has no Kelvin sign.  What a write stores is the accepted email, and without
a Kelvin sign normalizing makes no address of anything that trimming does not. -/
theorem stored_email_eq_iff {s₁ s₂ : Synchronizer} {e₁ e₂ n₁ n₂ : String}
    {p₁ p₂ q₁ q₂ : Option String} (h₁ : s₁.accept (some e₁) p₁ = .ok (n₁, q₁))
    (h₂ : s₂.accept (some e₂) p₂ = .ok (n₂, q₂)) :
    let t₁ := (strip e₁).toList
    let t₂ := (strip e₂).toList
    (n₁ = n₂ ↔ SameButCase (t₁.map readKelvin) (t₂.map readKelvin)) ∧
    (n₁ = n₂ → (SameButCase t₁ t₂ ↔ t₁.map (· == kelvin) = t₂.map (· == kelvin))) ∧
    (kelvin ∉ t₁ → kelvin ∉ t₂ → (n₁ = n₂ ↔ SameButCase t₁ t₂)) ∧
    ((Email.check (some (strip e₁))).valid = true ↔ kelvin ∉ t₁) ∧
    (∀ clock subject m result m',
      s₁.createOrUpdate Memory.store clock subject (some e₁) p₁ m = (.ok result, m') →
        result.record.email = n₁) ∧
    (∀ e, (Email.check (some (normalizeEmail e))).valid = true ↔
      (Email.check (some (strip e))).valid = true ∨
        kelvin ∈ (strip e).toList ∧ Email.IsAddress ((strip e).toList.map readKelvin)) := by
  intro t₁ t₂
  obtain ⟨rfl, haddress₁⟩ := eq_of_accept h₁
  obtain ⟨rfl, haddress₂⟩ := eq_of_accept h₂
  -- accepted emails are in ASCII, so they are lower-cased letter by letter
  have hsame : normalizeEmail e₁ = normalizeEmail e₂ ↔
      SameButCase (t₁.map readKelvin) (t₂.map readKelvin) := by
    rw [← String.toList_inj, Email.toList_normalizeEmail_of_isAddress haddress₁,
      Email.toList_normalizeEmail_of_isAddress haddress₂]
    rfl
  refine ⟨hsame, fun h => sameButCase_iff_of_read (hsame.mp h), ?_, ?_, ?_,
    Email.normalizeEmail_valid_iff⟩
  · intro hkelvin₁ hkelvin₂
    rw [hsame, map_readKelvin hkelvin₁, map_readKelvin hkelvin₂]
  · rw [Email.check_valid_iff]
    exact Email.isAddress_strip_iff haddress₁
  · intro clock subject m result m' hwrite
    obtain ⟨q, haccept⟩ := exists_accept_stored hwrite
    exact (eq_of_accept haccept).1

/-- Two spellings without a Kelvin sign, one with blanks around it and capital letters. -/
theorem stored_email_eq_iff_capitals :
    let s : Synchronizer := ⟨.usual⟩
    s.accept (some " Kate@Example.COM") none = .ok ("kate@example.com", none) ∧
      s.accept (some "kate@example.com") none = .ok ("kate@example.com", none) ∧
      SameButCase (strip " Kate@Example.COM").toList (strip "kate@example.com").toList := by
  intro s
  have h₁ : s.accept (some " Kate@Example.COM") none = .ok ("kate@example.com", none) := by
    decide +kernel
  have h₂ : s.accept (some "kate@example.com") none = .ok ("kate@example.com", none) := by
    decide +kernel
  obtain ⟨-, -, hsame, -⟩ := stored_email_eq_iff h₁ h₂
  exact ⟨h₁, h₂, (hsame (by decide +kernel) (by decide +kernel)).mp rfl⟩

/-- **The Kelvin sign.** The check refuses a spelling with a Kelvin sign, which differs from
another address by more than case; but it is accepted for writing, as that address, and its
subject is told that the address is taken. -/
theorem stored_email_eq_iff_kelvin :
    let s : Synchronizer := ⟨.usual⟩
    let clock : Moment := ⟨0, some 0⟩
    let spelling := String.ofList (kelvin :: "ate@example.com".toList)
    let m := (s.createOrUpdate Memory.store clock "user-1" (some "kate@example.com") none
      Memory.empty).2
    s.accept (some "kate@example.com") none = .ok ("kate@example.com", none) ∧
      s.accept (some spelling) none = .ok ("kate@example.com", none) ∧
      (Email.check (some (strip spelling))).valid = false ∧
      (Email.check (some (normalizeEmail spelling))).valid = true ∧
      ¬ SameButCase (strip spelling).toList (strip "kate@example.com").toList ∧
      (s.createOrUpdate Memory.store clock "user-2" (some spelling) none m).1 =
        .error (.service (.identityConflict UniqueField.email.label)) := by
  decide +kernel

end Synchronizer

end IdentityService
