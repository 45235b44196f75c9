import IdentityService.Proofs.Directory.PhoneNumbers
import IdentityService.Proofs.Directory.Spelling

/-!
# Registered Users

A registration is checked as it stands, and a synchronizer normalizes before it checks.  The two
agree on every registration that is accepted: normalizing lowers the ASCII letters of its email
and leaves its phone number alone, and what it leaves is accepted again.

## Main statements

- `normalizeEmail_of_isAddress`, `Phone.IsNumber.normalizePhone_eq`: normalizing accepted values.
- `RegisterRequest.exists_of_accepted`: what an accepted registration holds.
- `Synchronizer.agrees_with_registration`: registrations and synchronizers.
-/

namespace IdentityService

open Text

/-! ## §1 Addresses -/

/-- A text with its ASCII letters in lower case. -/
def Text.lowerAscii (s : String) : String := String.ofList (s.toList.map Char.toLower)

theorem Email.IsAddress.isBlank_eq_false {cs : List Char} (h : IsAddress cs) :
    ∀ c ∈ cs, isBlank c = false := by
  intro c hc
  exact forall_ascii (P := fun c => Email.isAddressChar c = true → isBlank c = false)
    (by decide +kernel) (h.toNat_lt c hc) (h.isAddressChar c hc)

/-- **Normalizing an address.** It lowers the ASCII letters and changes nothing else. -/
theorem normalizeEmail_of_isAddress {e : String} (h : Email.IsAddress e.toList) :
    normalizeEmail e = lowerAscii e := by
  have hstrip : strip e = e := strip_of_forall h.isBlank_eq_false
  have hread : e.toList.map readKelvin = e.toList :=
    map_readKelvin (Email.kelvin_notMem_of_isAddress h)
  have hnormal : Email.IsAddress (normalizeEmail e).toList := by
    rw [Email.isAddress_normalizeEmail_iff, hstrip, hread]
    exact h
  rw [← String.toList_inj, Email.toList_normalizeEmail_of_isAddress hnormal, hstrip, hread,
    lowerAscii, String.toList_ofList]

theorem Email.exists_of_valid {email : Option String} (h : (Email.check email).valid = true) :
    ∃ e, email = some e ∧ IsAddress e.toList := by
  cases email with
  | none => exact absurd h Bool.false_ne_true
  | some e => exact ⟨e, rfl, check_valid_iff.mp h⟩

theorem Phone.exists_of_valid {b : Phone.Bounds} {phone : Option String}
    (h : (Phone.check b phone).valid = true) : ∃ p, phone = some p ∧ IsNumber b p.toList := by
  cases phone with
  | none => exact absurd h Bool.false_ne_true
  | some p => exact ⟨p, rfl, check_valid_iff.mp h⟩

/-! ## §2 Registrations -/

namespace RegisterRequest

variable {r : RegisterRequest} {policy : Policy} {today : Date} {v : Verdict}

/-- The validators accept every field of an accepted registration. -/
theorem verdict_valid_of_accepted (h : r.validate policy today = .ok v) (hv : v.valid = true) :
    ∀ f ∈ fields, (f.verdict policy today (r.value f)).valid = true := by
  obtain ⟨w, hw, hjoins, -⟩ := (validatesByField policy today).returns r
  obtain rfl := Except.ok.inj (hw.symm.trans h)
  intro f hf
  exact hjoins.valid_iff_parts.mp hv _ (List.mem_map_of_mem hf)

/-- An accepted registration holds an address and a number. -/
theorem exists_of_accepted (h : r.validate policy today = .ok v) (hv : v.valid = true) :
    ∃ email phone, r.email = some email ∧ r.phone = some phone ∧
      Email.IsAddress email.toList ∧ Phone.IsNumber policy.phone phone.toList := by
  have hparts := verdict_valid_of_accepted h hv
  obtain ⟨email, hemail, haddress⟩ :=
    Email.exists_of_valid (hparts .email (by decide))
  obtain ⟨phone, hphone, hnumber⟩ :=
    Phone.exists_of_valid (hparts .phone (by decide))
  exact ⟨email, phone, hemail, hphone, haddress, hnumber⟩

end RegisterRequest

/-! ## §3 Agreement -/

namespace Synchronizer

variable {s : Synchronizer} {email phone : String}

theorem rules_validate_of_valid (hemail : Email.IsAddress email.toList)
    (hphone : Phone.IsNumber s.policy.phone phone.toList) :
    s.rules.validate (payload (some email) (some phone)) = .ok .success := by
  have hemail' : (Email.check (some email)).errors = [] := Email.errors_eq_nil_iff.mpr hemail
  have hphone' : (Phone.check s.policy.phone (some phone)).errors = [] :=
    Phone.errors_eq_nil_iff.mpr hphone
  rw [rules_validate, hemail']
  simp only [hphone']
  rfl

theorem isAddress_normalizeEmail (h : Email.IsAddress email.toList) :
    Email.IsAddress (normalizeEmail email).toList := by
  rw [normalizeEmail_of_isAddress h, lowerAscii, String.toList_ofList,
    Email.isAddress_map_toLower]
  exact h

/-- **Writing accepted values.** The store is called once, with the ASCII letters of the address
in lower case and with the number as it is. -/
theorem createOrUpdate_of_valid (hemail : Email.IsAddress email.toList)
    (hphone : Phone.IsNumber s.policy.phone phone.toList) {σ : Type} (store : Store σ)
    (clock : Moment) (subject : RawText) (state : σ) (calls : List Store.Call) :
    let step := store.upsert subject (lowerAscii email) (some phone) clock state
    s.createOrUpdate store.recorded clock subject (some email) (some phone) (state, calls) =
      (step.1, step.2, calls ++ [.upsert subject (lowerAscii email) (some phone) clock]) := by
  intro step
  have hvalid : (Email.check (some (normalizeEmail email))).valid = true :=
    Email.check_valid_iff.mpr (isAddress_normalizeEmail hemail)
  rw [createOrUpdate_of_number hvalid hphone.normalizePhone_eq hphone,
    normalizeEmail_of_isAddress hemail]
  rfl

/-- **Registrations and synchronizers.** Email and phone number of an accepted registration pass
the rules of a synchronizer with the same policy, as they stand and when they are normalized.
What reaches the store is the email with its ASCII letters in lower case and the phone number as
it is.  Normalizing an email or a phone number again changes nothing, and the phone check accepts
only what normalizing leaves alone. -/
theorem agrees_with_registration :
    (∀ (policy : Policy) (today : Date) (r : RegisterRequest) (v : Verdict),
      r.validate policy today = .ok v → v.valid = true →
      ∃ email phone, r.email = some email ∧ r.phone = some phone ∧
        let s : Synchronizer := ⟨policy⟩
        s.rules.validate (payload r.email r.phone) = .ok .success ∧
        s.rules.validate (payload (r.email.map normalizeEmail) (r.phone.bind normalizePhone)) =
          .ok .success ∧
        ∀ {σ : Type} (store : Store σ) (clock : Moment) (subject : RawText) (state : σ)
            (calls : List Store.Call),
          let step := store.upsert subject (lowerAscii email) (some phone) clock state
          s.createOrUpdate store.recorded clock subject r.email r.phone (state, calls) =
            (step.1, step.2,
              calls ++ [.upsert subject (lowerAscii email) (some phone) clock])) ∧
    (∀ email, normalizeEmail (normalizeEmail email) = normalizeEmail email) ∧
    (∀ phone, (normalizePhone phone).bind normalizePhone = normalizePhone phone) ∧
    ∀ b phone, (Phone.check b (some phone)).valid = true → normalizePhone phone = some phone := by
  refine ⟨?_, normalizeEmail_normalizeEmail, bind_normalizePhone, ?_⟩
  · intro policy today r v h hv
    obtain ⟨email, phone, hemail, hphone, haddress, hnumber⟩ := r.exists_of_accepted h hv
    refine ⟨email, phone, hemail, hphone, ?_⟩
    intro s
    rw [hemail, hphone, Option.map_some, Option.bind_some, hnumber.normalizePhone_eq]
    refine ⟨rules_validate_of_valid haddress hnumber,
      rules_validate_of_valid (isAddress_normalizeEmail haddress) hnumber, ?_⟩
    intro σ store clock subject state calls
    exact createOrUpdate_of_valid haddress hnumber store clock subject state calls
  · intro b phone hvalid
    exact (Phone.check_valid_iff.mp hvalid).normalizePhone_eq

/-- A registration that is accepted on the birthday that makes its user of age. -/
example : RegisterRequest.validate ⟨some "A.User@Example.COM", some "Passw0rd!",
    some "+14155552671", some "A. User", some "2008-01-15"⟩ .usual ⟨2026, 1, 15, rfl⟩ =
      .ok .success := by
  decide +kernel

end Synchronizer

end IdentityService
