import IdentityService.Proofs.Schema.Checked
import IdentityService.Provider.Account
import IdentityService.Provider.Verification
import Mathlib.Logic.Basic
import Mathlib.Logic.ExistsUnique
import Mathlib.Tactic.ByContra

/-!
# How External Verification Ends

A provider may return any claims, fail in any way, or not answer at all.  Every one of these
behaviours is an ending of the verification: a principal, or one of four reasons why there is
none.  The tagged result carries the ending; of the two forms built on it, one raises an error that
shows the reason and nothing else, and the other gives up the reason as well.

## Main definitions

- `Principal.IsNamedBy`, `Principal.Unusable`: claims that make a principal, and claims that make
  none.
- `CallOutcome.IsProper`: what a client may do.
- `Verifier.Ends`: the ending that a behaviour of the client leads to.
- `ProviderClient.ofServer`: the client that asks the provider's own server.

## Main statements

- `Principal.ofClaims_eq_ok_iff`, `Principal.exists_ofClaims_error_iff`: the claims that are read.
- `Verifier.ends_iff`: the tagged result carries the ending.
- `Verifier.exists_claims_of_current`: where the principal of credentials comes from.
- `Verifier.forms_agree`: there is always one ending, and the three forms agree on it.
- `Verifier.result_of_undelivered`: what a failure does that is not delivered.
-/

namespace IdentityService

/-! ## §1 Claims -/

namespace Principal

variable {claims : Fields} {name : String} {value : Option RawText} {p : Principal}

/-- Claims assert an optional string: the string stands among them and is not empty, or whatever
stands in its place is an empty value. -/
def Asserts (claims : Fields) (name : String) : Option RawText → Prop
  | some s => claims.get? name = some (.raw s) ∧ s ≠ ""
  | none => ∀ v, claims.get? name = some v → v.isEmptyValue = true

/-- Claims name a principal: its subject is a string that is not empty, email and phone number are
asserted, the email is verified when any value that is not empty says so, and the principal keeps
all the claims. -/
structure IsNamedBy (p : Principal) (claims : Fields) : Prop where
  subject : claims.get? "sub" = some (.raw p.subject)
  subject_ne : p.subject ≠ ""
  email : Asserts claims "email" p.email
  phone : Asserts claims "phone_number" p.phone
  verified : p.emailVerified = true ↔
    ∃ v, claims.get? "email_verified" = some v ∧ v.isEmptyValue = false
  claims_eq : p.claims = claims

/-- A claim is not a string although it is not empty either. -/
def Misstates (claims : Fields) (name : String) : Prop :=
  ∃ v, claims.get? name = some v ∧ v.isEmptyValue = false ∧ ∀ s, v ≠ .raw s

/-- Claims are unusable when the subject is not a string that is not empty, or when email or phone
number are neither strings nor empty. -/
def Unusable (claims : Fields) : Prop :=
  (∀ s, claims.get? "sub" = some (.raw s) → s = "") ∨ Misstates claims "email" ∨
    Misstates claims "phone_number"

theorem claimedSubject?_eq_some_iff {s : RawText} :
    claimedSubject? claims = some s ↔ claims.get? "sub" = some (.raw s) ∧ s ≠ "" := by
  simp only [claimedSubject?, bind, Option.bind_eq_some_iff, Json.raw?_eq_some_iff]
  constructor
  · rintro ⟨_, hsub, t, rfl, ht⟩
    by_cases hempty : t = ""
    · exact absurd ht (by simp [RawText.isEmpty_iff.mpr hempty])
    · rw [if_neg (mt RawText.isEmpty_iff.mp hempty), Option.some.injEq] at ht
      subst ht
      exact ⟨hsub, hempty⟩
  · rintro ⟨hsub, hne⟩
    exact ⟨_, hsub, s, rfl, if_neg (mt RawText.isEmpty_iff.mp hne)⟩

theorem isEmptyValue_raw_iff {s : RawText} : (Json.raw s).isEmptyValue = true ↔ s = "" := by
  cases s <;> simp [Json.raw, Json.isEmptyValue]

/-- **Optional claims.** They are read as what is asserted. -/
theorem optionalClaim_eq_ok_iff :
    optionalClaim claims name = .ok value ↔ Asserts claims name value := by
  unfold optionalClaim
  cases hclaim : claims.get? name with
  | none => cases value <;> simp [Asserts, hclaim]
  | some v =>
    show Schema.optional Schema.text v.orNull = .ok value ↔ _
    rw [Schema.optional_text_eq_ok_iff, Json.orNull]
    by_cases hempty : v.isEmptyValue = true
    · -- an empty value counts as none, the empty text too
      rw [if_pos hempty]
      cases value with
      | none => simp [Asserts, hclaim, hempty, Json.ofRaw?]
      | some s =>
        simp only [Asserts, hclaim, Json.ofRaw?, Option.some.injEq]
        refine ⟨fun h => absurd h.symm (Json.raw_ne_null s), ?_⟩
        rintro ⟨rfl, hne⟩
        exact absurd (isEmptyValue_raw_iff.mp hempty) hne
    · rw [if_neg hempty]
      cases value with
      | none =>
        simp only [Asserts, hclaim, Json.ofRaw?, Option.some.injEq, forall_eq', hempty,
          Bool.false_eq_true, iff_false]
        rintro rfl
        exact hempty rfl
      | some s =>
        simp only [Asserts, hclaim, Json.ofRaw?, Option.some.injEq]
        constructor
        · rintro rfl
          exact ⟨rfl, mt isEmptyValue_raw_iff.mpr hempty⟩
        · exact And.left

/-- A claim asserts something unless it misstates it. -/
theorem not_misstates_iff : ¬ Misstates claims name ↔ ∃ value, Asserts claims name value := by
  constructor
  · intro h
    by_cases hempty : ∀ v, claims.get? name = some v → v.isEmptyValue = true
    · exact ⟨none, hempty⟩
    · -- a value that is not empty is a string, or it would misstate the claim
      simp only [not_forall, Bool.not_eq_true] at hempty
      obtain ⟨v, hv, hne⟩ := hempty
      by_contra hnone
      refine h ⟨v, hv, hne, ?_⟩
      rintro s rfl
      refine hnone ⟨some s, hv, ?_⟩
      rw [ne_eq, ← isEmptyValue_raw_iff, hne]
      exact Bool.false_ne_true
  · rintro ⟨value, hvalue⟩ ⟨v, hv, hne, hother⟩
    cases value with
    | none => exact absurd (hvalue v hv) (by simp [hne])
    | some s =>
      obtain ⟨hs, -⟩ := hvalue
      rw [hv, Option.some.injEq] at hs
      exact hother s hs

theorem claimsVerified_eq_true_iff : claimsVerified claims = true ↔
    ∃ v, claims.get? "email_verified" = some v ∧ v.isEmptyValue = false := by
  unfold claimsVerified
  cases claims.get? "email_verified" <;> simp

/-- **Reading claims.** A principal is read from the claims that name it. -/
theorem ofClaims_eq_ok_iff : ofClaims claims = .ok p ↔ p.IsNamedBy claims := by
  unfold ofClaims
  constructor
  · intro h
    split at h
    · exact absurd h (by simp)
    · rename_i subject hsubject
      split at h
      · rename_i email phone hemail hphone
        obtain rfl := Except.ok.inj h
        obtain ⟨hsub, hne⟩ := claimedSubject?_eq_some_iff.mp hsubject
        exact ⟨hsub, hne, optionalClaim_eq_ok_iff.mp hemail, optionalClaim_eq_ok_iff.mp hphone,
          claimsVerified_eq_true_iff, rfl⟩
      · exact absurd h (by simp)
  · rintro ⟨hsub, hne, hemail, hphone, hverified, hclaims⟩
    have hflag : p.emailVerified = claimsVerified claims := by
      rw [Bool.eq_iff_iff, hverified, claimsVerified_eq_true_iff]
    rw [claimedSubject?_eq_some_iff.mpr ⟨hsub, hne⟩, optionalClaim_eq_ok_iff.mpr hemail,
      optionalClaim_eq_ok_iff.mpr hphone, ← hflag]
    cases p
    cases hclaims
    rfl

/-- **Claims without a principal.** Claims are read as a principal unless they are unusable. -/
theorem exists_ofClaims_error_iff :
    (∃ fault, ofClaims claims = .error fault) ↔ Unusable claims := by
  constructor
  · rintro ⟨fault, hfault⟩
    -- claims that are usable would name a principal
    by_contra husable
    simp only [Unusable, not_or, not_forall, not_misstates_iff] at husable
    obtain ⟨⟨subject, hsub, hne⟩, ⟨email, hemail⟩, ⟨phone, hphone⟩⟩ := husable
    have hok : ofClaims claims = .ok ⟨subject, email, phone, claimsVerified claims, claims⟩ :=
      ofClaims_eq_ok_iff.mpr ⟨hsub, hne, hemail, hphone, claimsVerified_eq_true_iff, rfl⟩
    rw [hok] at hfault
    exact absurd hfault (by simp)
  · intro hunusable
    cases hclaims : ofClaims claims with
    | error fault => exact ⟨fault, rfl⟩
    | ok p =>
      obtain ⟨hsub, hne, hemail, hphone, -, -⟩ := ofClaims_eq_ok_iff.mp hclaims
      rcases hunusable with hsubject | hmisstated | hmisstated
      · exact absurd (hsubject _ hsub) hne
      · exact absurd hmisstated (not_misstates_iff.mpr ⟨_, hemail⟩)
      · exact absurd hmisstated (not_misstates_iff.mpr ⟨_, hphone⟩)

end Principal

/-! ## §2 Failures -/

/-- No error is at once a rejection and an outage: every kind refines a single other one. -/
theorem ErrorKind.not_isA_of_isA_unavailable {k : ErrorKind}
    (h : k.isA .providerUnavailable = true) : k.isA .providerTokenRejected = false := by
  induction k with
  | refinement name parent ih =>
    simp only [isA, lineage, List.contains_cons] at h ih ⊢
    exact ih h
  | _ => revert h; decide

/-- A fault counts as a time-out: it is one, or an exhausted iterator, for which the caller waits
until the time is over. -/
def Fault.IsTimeout (f : Fault) : Prop := f = .exhausted ∨ ∃ message, f = .timeout message

/-- A fault says that the provider rejected the token. -/
def Fault.IsRejection (f : Fault) : Prop :=
  ∃ e : ServiceError, f = .service e ∧ e.kind.isA .providerTokenRejected = true

/-- A fault is delivered to the verifier as an exception that it can report: it ends neither the
task nor the process, and the message of an error of the provider is a string. -/
structure Fault.IsDelivered (f : Fault) : Prop where
  not_cancelled : f ≠ .cancelled
  not_exit : ∀ status, f ≠ .exit status
  message : ∀ e : ServiceError, f = .service e →
    e.kind.isA .providerUnavailable = true ∨ e.kind.isA .providerTokenRejected = true →
      e.messageValue.isString = true

/-- What a client may do: return an object of claims, raise an exception that is delivered, or not
answer. -/
def CallOutcome.IsProper : CallOutcome → Prop
  | .claims v => ∃ claims, v = .object claims
  | .failed f => f.IsDelivered
  | .hangs => True

/-- What a result says: the principal, or the reason why there is none. -/
def VerificationResult.ending : VerificationResult → Except VerificationReason Principal
  | .success p => .ok p
  | .failure reason _ => .error reason

namespace Verifier

variable {v : Verifier} {token : String} {ending : Except VerificationReason Principal}
  {p : Principal} {f : Fault}

/-- A message that is a string goes into the failure. -/
theorem exists_failureWith {message : Json} (h : message.isString = true)
    (reason : VerificationReason) :
    ∃ r, failureWith reason message = .ok r ∧ r.ending = .error reason := by
  obtain ⟨s, hs⟩ := Option.isSome_iff_exists.mp h
  rw [failureWith, hs]
  exact ⟨_, rfl, rfl⟩

theorem exists_failureOf_of_isTimeout (h : f.IsTimeout) :
    ∃ r, failureOf f = .ok r ∧ r.ending = .error .timeout := by
  rcases h with rfl | ⟨message, rfl⟩
  · exact ⟨_, rfl, rfl⟩
  · exact ⟨_, rfl, rfl⟩

theorem exists_failureOf_of_isRejection (h : f.IsRejection) (hf : f.IsDelivered) :
    ∃ r, failureOf f = .ok r ∧ r.ending = .error .rejected := by
  obtain ⟨e, rfl, he⟩ := h
  have hreachable : ¬ e.kind.isA .providerUnavailable = true := by
    intro hunavailable
    rw [ErrorKind.not_isA_of_isA_unavailable hunavailable] at he
    exact absurd he Bool.false_ne_true
  rw [failureOf, if_neg hreachable, if_pos he]
  exact exists_failureWith (hf.message e rfl (.inr he)) .rejected

/-- Whatever is delivered and is neither a time-out nor a rejection counts as an outage. -/
theorem exists_failureOf_of_other (htimeout : ¬ f.IsTimeout) (hrejection : ¬ f.IsRejection)
    (hf : f.IsDelivered) : ∃ r, failureOf f = .ok r ∧ r.ending = .error .unavailable := by
  cases f with
  | exhausted => exact absurd (.inl rfl) htimeout
  | timeout message => exact absurd (.inr ⟨message, rfl⟩) htimeout
  | cancelled => exact absurd rfl hf.not_cancelled
  | exit status => exact absurd rfl (hf.not_exit status)
  | service e =>
    have hkind : ¬ e.kind.isA .providerTokenRejected = true := fun he => hrejection ⟨e, rfl, he⟩
    rw [failureOf, if_neg hkind]
    split
    · rename_i hunavailable
      exact exists_failureWith (hf.message e rfl (.inl hunavailable)) .unavailable
    · exact ⟨_, rfl, rfl⟩
  | _ => exact ⟨_, rfl, rfl⟩

/-- **Not delivered.** What is not delivered ends the verification with a fault, and not with the
one of the guards. -/
theorem exists_failureOf_error (hf : ¬ f.IsDelivered) :
    ∃ f', failureOf f = .error f' ∧ f' ≠ .unauthenticated := by
  cases f with
  | cancelled => exact ⟨.cancelled, rfl, by simp⟩
  | exit status => exact ⟨.exit status, rfl, by simp⟩
  | service e =>
    have hwords : ∀ reason, e.messageValue.isString = false →
        ∃ f', failureWith reason e.messageValue = .error f' ∧ f' ≠ .unauthenticated := by
      intro reason hno
      rw [Json.isString, Option.isSome_eq_false_iff, Option.isNone_iff_eq_none] at hno
      rw [failureWith, hno]
      exact ⟨_, rfl, by simp⟩
    have hno : (e.kind.isA .providerUnavailable = true ∨
        e.kind.isA .providerTokenRejected = true) ∧ e.messageValue.isString = false := by
      by_contra hsome
      refine hf ⟨by simp, by simp, ?_⟩
      rintro _ h hkind
      obtain rfl := Fault.service.inj h
      by_contra hstring
      exact hsome ⟨hkind, eq_false_of_ne_true hstring⟩
    by_cases hunavailable : e.kind.isA .providerUnavailable = true
    · rw [failureOf, if_pos hunavailable]
      exact hwords _ hno.2
    · rw [failureOf, if_neg hunavailable, if_pos (hno.1.resolve_left hunavailable)]
      exact hwords _ hno.2
  | _ => exact absurd ⟨by simp, by simp, by simp⟩ hf

theorem failureOf_ne_success (f : Fault) : failureOf f ≠ .ok (.success p) := by
  have hwith (reason : VerificationReason) (message : Json) :
      failureWith reason message ≠ .ok (.success p) := by
    unfold failureWith
    split <;> simp
  cases f with
  | service e =>
    rw [failureOf]
    split
    · exact hwith _ _
    · split
      · exact hwith _ _
      · simp
  | _ => simp [failureOf, timedOut]

/-! ## §3 Endings -/

/-- How a verification ends.  A blank token ends it before the client is called, and so does a time
limit that is over at once; any other token ends it by what the client does about it. -/
inductive Ends (v : Verifier) (token : String) : Except VerificationReason Principal → Prop
  | blank (h : Text.isBlankText token = true) : Ends v token (.error .malformed)
  | limit (hblank : Text.isBlankText token = false) (h : v.timeout.isPositive = false) :
      Ends v token (.error .timeout)
  | hangs (hcalls : v.calls token = true) (h : v.client token = .hangs) :
      Ends v token (.error .timeout)
  | timedOut {f : Fault} (hcalls : v.calls token = true) (h : v.client token = .failed f)
      (hf : f.IsTimeout) : Ends v token (.error .timeout)
  | rejected {f : Fault} (hcalls : v.calls token = true) (h : v.client token = .failed f)
      (hf : f.IsRejection) (hdelivered : f.IsDelivered) : Ends v token (.error .rejected)
  | unavailable {f : Fault} (hcalls : v.calls token = true) (h : v.client token = .failed f)
      (htimeout : ¬ f.IsTimeout) (hrejection : ¬ f.IsRejection) (hdelivered : f.IsDelivered) :
      Ends v token (.error .unavailable)
  | unusable {claims : Fields} (hcalls : v.calls token = true)
      (h : v.client token = .claims (.object claims)) (hclaims : Principal.Unusable claims) :
      Ends v token (.error .malformed)
  | success {claims : Fields} {p : Principal} (hcalls : v.calls token = true)
      (h : v.client token = .claims (.object claims)) (hp : p.IsNamedBy claims) :
      Ends v token (.ok p)

theorem calls_eq_true_iff :
    v.calls token = true ↔ Text.isBlankText token = false ∧ v.timeout.isPositive = true := by
  simp [calls]

/-- Without a call, the result does not depend on the client. -/
theorem verifyResult_of_no_call (h : v.calls token = false) :
    v.verifyResult token = .ok (if Text.isBlankText token then
      .failure .malformed "Empty identity token" else timedOut) := by
  unfold verifyResult
  by_cases hblank : Text.isBlankText token = true
  · rw [if_pos hblank, if_pos hblank]
  · have hlimit : v.timeout.isPositive = false := by
      simpa [calls, hblank] using h
    rw [if_neg hblank, if_neg hblank, hlimit]
    rfl

/-- With a call, the result is made of what the client does. -/
theorem verifyResult_of_call (h : v.calls token = true) :
    v.verifyResult token =
      match v.client token with
      | .hangs => .ok timedOut
      | .failed f => failureOf f
      | .claims c => resultOf c := by
  obtain ⟨hblank, hpositive⟩ := calls_eq_true_iff.mp h
  rw [verifyResult, hblank, hpositive]
  rfl

/-- The ending of every relation stands in the tagged result. -/
theorem Ends.exists_result (h : v.Ends token ending) :
    ∃ r, v.verifyResult token = .ok r ∧ r.ending = ending := by
  cases h with
  | blank h =>
    have hcalls : v.calls token = false := by simp [calls, h]
    exact ⟨_, verifyResult_of_no_call hcalls, by rw [if_pos h]; rfl⟩
  | limit hblank h =>
    have hcalls : v.calls token = false := by simp [calls, h]
    exact ⟨_, verifyResult_of_no_call hcalls, by rw [hblank]; rfl⟩
  | hangs hcalls h =>
    rw [verifyResult_of_call hcalls, h]
    exact ⟨_, rfl, rfl⟩
  | timedOut hcalls h hf =>
    rw [verifyResult_of_call hcalls, h]
    exact exists_failureOf_of_isTimeout hf
  | rejected hcalls h hf hdelivered =>
    rw [verifyResult_of_call hcalls, h]
    exact exists_failureOf_of_isRejection hf hdelivered
  | unavailable hcalls h htimeout hrejection hdelivered =>
    rw [verifyResult_of_call hcalls, h]
    exact exists_failureOf_of_other htimeout hrejection hdelivered
  | @unusable claims hcalls h hclaims =>
    obtain ⟨fault, hfault⟩ := Principal.exists_ofClaims_error_iff.mpr hclaims
    have hresult : resultOf (.object claims) = .ok (.failure .malformed fault.message) := by
      rw [resultOf, hfault]
    rw [verifyResult_of_call hcalls, h]
    exact ⟨_, hresult, rfl⟩
  | @success claims p hcalls h hp =>
    have hresult : resultOf (.object claims) = .ok (.success p) := by
      rw [resultOf, Principal.ofClaims_eq_ok_iff.mpr hp]
    rw [verifyResult_of_call hcalls, h]
    exact ⟨_, hresult, rfl⟩

/-- **Totality.** Whatever a client may do leads to an ending. -/
theorem exists_ends (hproper : v.calls token = true → (v.client token).IsProper) :
    ∃ ending, v.Ends token ending := by
  by_cases hcalls : v.calls token = true
  · have hclient := hproper hcalls
    cases hdone : v.client token with
    | hangs => exact ⟨_, .hangs hcalls hdone⟩
    | failed f =>
      rw [hdone] at hclient
      by_cases htimeout : f.IsTimeout
      · exact ⟨_, .timedOut hcalls hdone htimeout⟩
      · by_cases hrejection : f.IsRejection
        · exact ⟨_, .rejected hcalls hdone hrejection hclient⟩
        · exact ⟨_, .unavailable hcalls hdone htimeout hrejection hclient⟩
    | claims c =>
      rw [hdone] at hclient
      obtain ⟨claims, rfl⟩ := hclient
      cases hread : Principal.ofClaims claims with
      | error fault =>
        exact ⟨_, .unusable hcalls hdone (Principal.exists_ofClaims_error_iff.mp ⟨fault, hread⟩)⟩
      | ok p => exact ⟨_, .success hcalls hdone (Principal.ofClaims_eq_ok_iff.mp hread)⟩
  · by_cases hblank : Text.isBlankText token = true
    · exact ⟨_, .blank hblank⟩
    · rw [Bool.not_eq_true] at hblank
      refine ⟨_, .limit hblank ?_⟩
      simpa [calls, hblank] using hcalls

/-- **The tagged result** carries the ending, and no other. -/
theorem ends_iff (hproper : v.calls token = true → (v.client token).IsProper) :
    v.Ends token ending ↔ ∃ r, v.verifyResult token = .ok r ∧ r.ending = ending := by
  constructor
  · exact Ends.exists_result
  · rintro ⟨r, hr, rfl⟩
    -- some ending is reached, and its result is this one
    obtain ⟨ending, hends⟩ := exists_ends hproper
    obtain ⟨r', hr', rfl⟩ := hends.exists_result
    rw [hr, Except.ok.injEq] at hr'
    rw [hr']
    exact hends

/-- What is not proper ends the verification with a fault, and not with the one of the guards. -/
theorem exists_error_of_improper (hcalls : v.calls token = true)
    (h : ¬ (v.client token).IsProper) :
    ∃ f, v.verifyResult token = .error f ∧ f ≠ .unauthenticated := by
  rw [verifyResult_of_call hcalls]
  cases hdone : v.client token with
  | hangs => exact absurd (by rw [hdone]; trivial) h
  | failed f =>
    rw [hdone] at h
    exact exists_failureOf_error h
  | claims c =>
    rw [hdone] at h
    cases c with
    | object claims => exact absurd ⟨claims, rfl⟩ h
    | _ => exact ⟨_, rfl, by simp⟩

theorem Ends.unique {other : Except VerificationReason Principal} (h : v.Ends token ending)
    (hother : v.Ends token other) : other = ending := by
  obtain ⟨r, hr, rfl⟩ := h.exists_result
  obtain ⟨r', hr', rfl⟩ := hother.exists_result
  rw [hr, Except.ok.injEq] at hr'
  rw [hr']

/-- A principal in the tagged result is named by the claims that the client returned. -/
theorem exists_claims_of_success (h : v.verifyResult token = .ok (.success p)) :
    ∃ claims, v.client token = .claims (.object claims) ∧ p.IsNamedBy claims := by
  cases hcalls : v.calls token with
  | false =>
    rw [verifyResult_of_no_call hcalls, Except.ok.injEq] at h
    split at h
    · exact absurd h (by simp)
    · exact absurd h (by simp [timedOut])
  | true =>
    rw [verifyResult_of_call hcalls] at h
    split at h
    · exact absurd (Except.ok.inj h) (by simp [timedOut])
    · exact absurd h (failureOf_ne_success _)
    · rename_i c hdone
      cases c with
      | object claims =>
        refine ⟨claims, hdone, Principal.ofClaims_eq_ok_iff.mp ?_⟩
        cases hclaims : Principal.ofClaims claims with
        | error fault => exact absurd h (by simp [resultOf, hclaims])
        | ok p' => simpa [resultOf, hclaims] using h
      | _ => exact absurd h (by simp [resultOf])

/-! ## §4 The other two forms -/

theorem Ends.verify_eq (h : v.Ends token ending) :
    v.verify token = match ending with
      | .ok p => .ok p
      | .error reason => .error (.service (.identityVerification reason.text)) := by
  obtain ⟨r, hr, rfl⟩ := h.exists_result
  rw [verify, hr, ok_bind]
  cases r <;> rfl

theorem Ends.verifyOrNone_eq (h : v.Ends token ending) :
    v.verifyOrNone token = match ending with
      | .ok p => .ok (some p)
      | .error _ => .ok none := by
  obtain ⟨r, hr, rfl⟩ := h.exists_result
  rw [verifyOrNone, hr, ok_bind]
  cases r <;> rfl

/-- **Credentials.** The principal of credentials is named by the claims that the client returned
for the token. -/
theorem exists_claims_of_current {credentials : Option String}
    (h : v.current credentials = .ok p) : ∃ token claims, credentials = some token ∧
      v.client token = .claims (.object claims) ∧ p.IsNamedBy claims := by
  cases credentials with
  | none => exact absurd h (by simp [current])
  | some token =>
    obtain ⟨found, hfound, h⟩ := bind_eq_ok_iff.mp h
    obtain ⟨result, hresult, hfound⟩ := bind_eq_ok_iff.mp hfound
    cases result with
    | failure reason message =>
      obtain rfl := Except.ok.inj hfound
      exact absurd h (by simp)
    | success p' =>
      obtain rfl := Except.ok.inj hfound
      obtain rfl : p' = p := Except.ok.inj h
      obtain ⟨claims, hclient, hnamed⟩ := exists_claims_of_success hresult
      exact ⟨token, claims, rfl, hclient, hnamed⟩

/-- The client is called when two clients can make a difference. -/
theorem calls_eq_false_iff : v.calls token = false ↔
    ∀ client, (⟨client, v.timeout⟩ : Verifier).verifyResult token = v.verifyResult token := by
  constructor
  · intro h client
    have hother : (⟨client, v.timeout⟩ : Verifier).calls token = false := h
    rw [verifyResult_of_no_call h, verifyResult_of_no_call hother]
  · intro h
    by_contra hcalls
    rw [Bool.not_eq_false] at hcalls
    -- a client that does not answer and one that fails would end in the same way
    let silent : Verifier := ⟨fun _ => .hangs, v.timeout⟩
    let failing : Verifier := ⟨fun _ => .failed (.runtime ""), v.timeout⟩
    have hsilent : silent.verifyResult token = v.verifyResult token := h _
    have hfailing : failing.verifyResult token = v.verifyResult token := h _
    rw [verifyResult_of_call (v := silent) hcalls] at hsilent
    rw [verifyResult_of_call (v := failing) hcalls, ← hsilent] at hfailing
    have hending := congrArg VerificationResult.ending (Except.ok.inj hfailing)
    simp [timedOut, VerificationResult.ending] at hending

end Verifier

/-! ## §5 The provider's own server -/

/-- A client that asks a server about every token. -/
def ProviderClient.ofServer (server : String → AccountReply) : ProviderClient := fun token =>
  match (server token).claims with
  | .ok claims => .claims (.object claims)
  | .error f => .failed f

/-- The reason for which a server's reply fails a token.  A request that may be tried again and a
fault of the transport are outages; every other refusal, and a reply without a user, rejects the
token. -/
def AccountReply.reason? : AccountReply → Option VerificationReason
  | .nobody => some .rejected
  | .failed (.providerClient kind _) =>
      some (if kind = .retryable then .unavailable else .rejected)
  | .failed (.transport _ _) => some .unavailable
  | _ => none

theorem Fault.not_isTimeout_service (e : ServiceError) : ¬ (Fault.service e).IsTimeout := by
  simp [IsTimeout]

/-- An error of the service with a string for a message is delivered. -/
theorem Fault.isDelivered_service {e : ServiceError} (h : e.messageValue.isString = true) :
    (Fault.service e).IsDelivered := by
  refine ⟨by simp, by simp, ?_⟩
  rintro e' he -
  obtain rfl := Fault.service.inj he
  exact h

theorem Fault.isRejection_providerTokenRejected (message : String) (details : Fields) :
    (Fault.service (.providerTokenRejected message details)).IsRejection :=
  ⟨_, rfl, rfl⟩

theorem Fault.not_isRejection_providerUnavailable (message : String) (details : Fields) :
    ¬ (Fault.service (.providerUnavailable message details)).IsRejection := by
  rintro ⟨e, he, hrejected⟩
  obtain rfl := Fault.service.inj he
  have hother : ¬ ErrorKind.providerUnavailable.isA .providerTokenRejected = true := by decide
  exact hother hrejected

namespace Verifier

variable {v : Verifier} {token : String} {server : String → AccountReply}

/-- The reason that a server's reply gives is the ending. -/
theorem ends_of_reply (hclient : v.client = .ofServer server) (hcalls : v.calls token = true)
    {reason : VerificationReason} (hreason : (server token).reason? = some reason) :
    v.Ends token (.error reason) := by
  have hdone : v.client token = ProviderClient.ofServer server token := by rw [hclient]
  unfold ProviderClient.ofServer at hdone
  cases hreply : server token with
  | user u => exact absurd hreason (by simp [hreply, AccountReply.reason?])
  | nobody =>
    rw [hreply] at hdone hreason
    obtain rfl := Option.some.inj hreason
    exact .rejected hcalls hdone (Fault.isRejection_providerTokenRejected _ _)
      (Fault.isDelivered_service rfl)
  | failed f =>
    rw [hreply] at hdone hreason
    cases f with
    | providerClient kind message =>
      -- a fault that may be tried again is a fault of the client too, so it is looked for first
      obtain rfl := Option.some.inj hreason
      cases kind with
      | retryable =>
        exact .unavailable hcalls hdone (Fault.not_isTimeout_service _)
          (Fault.not_isRejection_providerUnavailable _ _) (Fault.isDelivered_service rfl)
      | refused =>
        exact .rejected hcalls hdone (Fault.isRejection_providerTokenRejected _ _)
          (Fault.isDelivered_service rfl)
      | refusedByInterface =>
        exact .rejected hcalls hdone (Fault.isRejection_providerTokenRejected _ _)
          (Fault.isDelivered_service rfl)
    | transport kind message =>
      obtain rfl := Option.some.inj hreason
      exact .unavailable hcalls hdone (Fault.not_isTimeout_service _)
        (Fault.not_isRejection_providerUnavailable _ _) (Fault.isDelivered_service rfl)
    | _ => exact absurd hreason (by simp [AccountReply.reason?])

/-! ## §6 The three forms -/

/-- **The three forms agree.** Whatever the token and whatever a client may do about it, as long as
its failures are delivered, the verification has one ending, and the tagged result says which.
A blank token is malformed without a call, and nothing else is; the result depends on the client
exactly when it is called.  The second form gives the principal, or raises the one error with a
fixed code and message, of which only the reason tells how the verification ended.  The third form
gives the principal or nothing.  Where the client asks a server, the reason is the one that the
reply gives. -/
theorem forms_agree (v : Verifier) (token : String)
    (hproper : v.calls token = true → (v.client token).IsProper) :
    (∃! ending, v.Ends token ending) ∧
    (∀ ending, v.Ends token ending ↔
      ∃ r, v.verifyResult token = .ok r ∧ r.ending = ending) ∧
    (v.Ends token (.error .malformed) ∧ v.calls token = false ↔
      Text.isBlankText token = true) ∧
    (v.calls token = false ↔
      ∀ client, (⟨client, v.timeout⟩ : Verifier).verifyResult token = v.verifyResult token) ∧
    (∀ p, v.verify token = .ok p ↔ v.Ends token (.ok p)) ∧
    (∀ f, v.verify token = .error f ↔ ∃ reason : VerificationReason,
      v.Ends token (.error reason) ∧ f = .service (.identityVerification reason.text)) ∧
    (∀ reason : VerificationReason,
      (ServiceError.identityVerification reason.text).code = "IDENTITY_VERIFICATION_FAILED" ∧
      (ServiceError.identityVerification reason.text).message =
        "Identity token verification failed" ∧
      (ServiceError.identityVerification reason.text).reason = some reason.text) ∧
    (∀ p, v.verifyOrNone token = .ok (some p) ↔ v.Ends token (.ok p)) ∧
    (v.verifyOrNone token = .ok none ↔
      ∃ reason : VerificationReason, v.Ends token (.error reason)) ∧
    (∀ server reason, v.client = .ofServer server → v.calls token = true →
      (server token).reason? = some reason → v.Ends token (.error reason)) := by
  obtain ⟨ending, hends⟩ := exists_ends hproper
  have honly : ∀ other, v.Ends token other ↔ other = ending := fun other =>
    ⟨fun hother => hends.unique hother, fun hother => hother ▸ hends⟩
  refine ⟨⟨ending, hends, fun other => hends.unique⟩, fun _ => ends_iff hproper, ?_,
    calls_eq_false_iff, ?_, ?_, fun _ => ⟨rfl, rfl, rfl⟩, ?_, ?_,
    fun _ _ hclient hcalls hreason => ends_of_reply hclient hcalls hreason⟩
  · constructor
    · rintro ⟨hmalformed, hcalls⟩
      -- the other endings without a principal need a call, or are a time-out
      cases hmalformed with
      | blank hblank => exact hblank
      | unusable hcalled => exact absurd hcalled (by simp [hcalls])
    · intro hblank
      exact ⟨.blank hblank, by simp [calls, hblank]⟩
  · intro p
    rw [hends.verify_eq, honly]
    cases ending <;> simp [eq_comm]
  · intro f
    rw [hends.verify_eq]
    simp only [honly]
    cases ending <;> simp [eq_comm]
  · intro p
    rw [hends.verifyOrNone_eq, honly]
    cases ending <;> simp [eq_comm]
  · rw [hends.verifyOrNone_eq]
    simp only [honly]
    cases ending <;> simp

/-- Claims with an empty email, no phone number and a number for the verification of the email: the
client behaves, and all three forms give the principal. -/
theorem forms_agree_usual :
    let claims : Fields :=
      [("sub", .text "user-1"), ("email", .text ""), ("email_verified", .int 1)]
    let v : Verifier := ⟨fun _ => .claims (.object claims), .ofInt 5⟩
    let p : Principal := ⟨"user-1", none, none, true, claims⟩
    (v.client " token").IsProper ∧ v.Ends " token" (.ok p) ∧ v.verify " token" = .ok p ∧
      v.verifyOrNone " token" = .ok (some p) := by
  intro claims v p
  have hcalls : v.calls " token" = true := by decide +kernel
  have hproper : (v.client " token").IsProper := ⟨claims, rfl⟩
  have hp : p.IsNamedBy claims := Principal.ofClaims_eq_ok_iff.mp rfl
  have hends : v.Ends " token" (.ok p) := .success hcalls rfl hp
  obtain ⟨-, -, -, -, hverify, -, -, hoptional, -⟩ := forms_agree v " token" fun _ => hproper
  exact ⟨hproper, hends, (hverify p).mpr hends, (hoptional p).mpr hends⟩

/-- **Failures that are not delivered.** A cancelled call ends the verifier too, an exhausted
iterator is waited for until the time is over, a rejection in words that are no string breaks the
result, and within a time limit of nothing the rejection of a token is never heard of. -/
theorem result_of_undelivered :
    let v (f : Fault) (limit : Int) : Verifier := ⟨fun _ => .failed f, .ofInt limit⟩
    let wordless : ServiceError :=
      { ServiceError.providerTokenRejected "" [] with messageValue := .int 5 }
    (v .cancelled 5).verifyResult "t" = .error .cancelled ∧
      (v .cancelled 5).verify "t" = .error .cancelled ∧
      (v .cancelled 5).verifyOrNone "t" = .error .cancelled ∧
      (v .exhausted 5).verifyResult "t" =
        .ok (.failure .timeout "Identity provider timed out") ∧
      (v (.service wordless) 5).verifyResult "t" =
        .error (.issues [⟨[.field "message"], .textExpected⟩]) ∧
      (v (.service (.providerTokenRejected "Unknown token" [])) 0).verifyResult "t" =
        .ok (.failure .timeout "Identity provider timed out") := by
  intro v wordless
  have hblank : Text.isBlankText "t" = false := by decide +kernel
  have hpositive : (Binary64.ofInt 5).isPositive = true := by decide +kernel
  have hover : (Binary64.ofInt 0).isPositive = false := by decide +kernel
  have hcalls : ∀ f, (v f 5).calls "t" = true := fun _ =>
    calls_eq_true_iff.mpr ⟨hblank, hpositive⟩
  have hsilent : ∀ f, (v f 0).calls "t" = false := fun _ => by simp [v, calls, hover]
  have hcancelled : (v .cancelled 5).verifyResult "t" = .error .cancelled :=
    verifyResult_of_call (hcalls _)
  refine ⟨hcancelled, ?_, ?_, verifyResult_of_call (hcalls _), verifyResult_of_call (hcalls _),
    verifyResult_of_no_call (hsilent _)⟩
  · rw [verify, hcancelled, error_bind]
  · rw [verifyOrNone, hcancelled, error_bind]

end Verifier

end IdentityService
