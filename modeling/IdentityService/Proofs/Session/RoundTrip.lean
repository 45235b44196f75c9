import IdentityService.Proofs.Session.Issue

/-!
# Issued Tokens Are Accepted

An issued token gives back the subject it was issued for, until it expires.  The one
exception lies at the end of the calendar: a fractional expiry is recorded through a double,
which takes the last fifteen microseconds of year 9999 for the first second of year 10000,
and such a moment is not read back.

## Main statements

- `SessionService.issue_round_trip`: what an issued token gives back, and until when.
- `SessionService.issue_round_trip_last`: a token of the last microsecond is never verified.
-/

namespace IdentityService

/-! ## §1 Recorded moments -/

namespace Moment

theorem add?_eq_some_iff {m e : Moment} {d : Duration} :
    m.add? d = some e ↔
      inRange (m.wall + d.microseconds) = true ∧
        e = { m with wall := m.wall + d.microseconds } := by
  simp only [add?]
  split
  · rename_i hrange
    simp [hrange, eq_comm]
  · rename_i hrange
    simp [hrange]

theorem instant_of_add? {m e : Moment} {d : Duration} (h : m.add? d = some e) :
    e.instant = m.instant + d.microseconds := by
  obtain ⟨-, rfl⟩ := add?_eq_some_iff.mp h
  simp only [instant]
  omega

/-- Offsets are whole seconds, so a reading and its instant start their second together. -/
theorem instant_truncated (m : Moment) :
    m.truncated.instant = m.instant - m.instant % 1000000 := by
  simp only [truncated, instant]
  omega

/-- **Recording.** A whole second is recorded as it is. -/
theorem timestamp_of_dvd {m : Moment} (h : m.instant % 1000000 = 0) :
    m.timestamp * 1000000 = m.instant :=
  Duration.wholeSeconds_of_dvd h

theorem timestamp_truncated (m : Moment) :
    m.truncated.timestamp * 1000000 = m.instant - m.instant % 1000000 := by
  have hwhole : m.truncated.instant % 1000000 = 0 := by
    rw [instant_truncated]
    omega
  rw [timestamp_of_dvd hwhole, instant_truncated]

/-- Year 1 starts on a whole second, so truncation does not leave the calendar. -/
theorem inRange_truncated {m : Moment} (h : inRange m.instant = true) :
    inRange (m.truncated.timestamp * 1000000) = true := by
  rw [timestamp_truncated]
  rw [inRange_iff, minWall, maxWall] at h ⊢
  omega

end Moment

namespace SessionService

variable {s : SessionService} {t e : Moment} {subject : TokenSubject} {token : String}

/-! ## §2 The parts of a token -/

/-- A segment is a text of the alphabet that is not empty. -/
def IsSegment (cs : List Char) : Prop := cs ≠ [] ∧ ∀ c ∈ cs, Base64Url.inAlphabet c = true

theorem isSegment_encode {bytes : List UInt8} (h : bytes ≠ []) :
    IsSegment (Base64Url.encode bytes) :=
  ⟨fun hnil => h (Base64Url.encode_eq_nil_iff.mp hnil),
    fun _ hc => Base64Url.inAlphabet_of_mem_encode hc⟩

theorem isSegment_object {fs : Fields} :
    IsSegment (Signed.segment (Json.compact (.object fs))) := by
  apply isSegment_encode
  rw [Json.compact]
  simp [Utf8.encode, Utf8.encodeChar]

theorem isSegment_signature (key : List UInt8) (h q : List Char) :
    IsSegment (Signed.signature key h q) := by
  apply isSegment_encode
  intro hnil
  have hlength := Hmac.length_sign key (Utf8.encode (h ++ '.' :: q))
  rw [Signed.digest] at hnil
  rw [hnil] at hlength
  exact absurd hlength (by decide)

/-- An issued token is three segments. -/
theorem exists_segments_of_issue (hissue : s.issue t subject = .ok token) :
    ∃ h q sig, token.toList = Signed.joined h q sig ∧ IsSegment h ∧ IsSegment q ∧
      IsSegment sig := by
  obtain ⟨p, key, -, -, rfl⟩ := issue_eq_ok_iff.mp hissue
  rw [String.toList_ofList]
  exact ⟨_, _, _, rfl, isSegment_object, isSegment_object, isSegment_signature key _ _⟩

/-! ## §3 Acceptance and its end -/

/-- Subjects are told apart by their tokens. -/
theorem subject_eq_of_issue {other : TokenSubject} (haudience : s.settings.audience ≠ "")
    (hissue : s.issue t subject = .ok token) (hother : s.issue t other = .ok token) :
    other = subject := by
  obtain ⟨p, _, hp, -, -⟩ := issue_eq_ok_iff.mp hissue
  obtain ⟨p', _, hp', -, -⟩ := issue_eq_ok_iff.mp hother
  -- both payloads are read back from the one token
  have hread := payloadOf_issued haudience hp hissue ⟨0, true⟩
  rw [payloadOf_issued haudience hp' hother ⟨0, true⟩, Except.ok.injEq] at hread
  obtain ⟨_, -, rfl⟩ := payloadAt_eq_ok_iff.mp hp
  obtain ⟨_, -, rfl⟩ := payloadAt_eq_ok_iff.mp hp'
  rw [SessionPayload.mk.injEq] at hread
  obtain ⟨hsub, hemail, hroles, -⟩ := hread
  cases other
  cases subject
  simp_all

theorem toSubject_eq_ok {k : SessionClaims} (hsub : k.subject = subject.subject)
    (hemail : k.email = subject.email) (hroles : k.roles = subject.roles) :
    k.toSubject = .ok subject := by
  rw [SessionClaims.toSubject, TokenSubject.ofParts, hsub, hemail, hroles,
    dif_neg subject.subject_ne]

/-- A token whose expiry lies in the last fifteen microseconds is never verified: its expiry is
recorded as the first second of year 10000. -/
theorem verify_issued_beyond (haudience : s.settings.audience ≠ "")
    (he : t.truncated.add? s.settings.expiry = some e) (hissue : s.issue t subject = .ok token)
    (hlow : Moment.maxRecorded < e.instant) (hhigh : e.instant ≤ Moment.maxWall)
    (clock : Moment) (machine : Machine) :
    s.verify clock machine token = .error (.badValue none) := by
  have hexp : e.timestamp = 253402300800 := Duration.wholeSeconds_of_beyond hlow hhigh
  rw [verify_issued haudience (payloadAt_eq_ok_iff.mpr ⟨e, he, rfl⟩) hissue, claimsAt, hexp,
    momentClaim, Moment.ofTimestamp_beyond]
  rfl

/-- **Round trip.** An issued token is three segments, and no other subject has it.  When its
expiry is not among the last fifteen microseconds of year 9999, it is accepted at every
reading of a clock up to the recorded expiry and gives back the subject, issuer and audience,
the start of the second of its issue and, after a whole number of seconds, the exact expiry.
Otherwise it is never verified. -/
theorem issue_round_trip (haudience : s.settings.audience ≠ "")
    (hissue : s.issue t subject = .ok token)
    (he : t.truncated.add? s.settings.expiry = some e)
    (ht_range : Moment.inRange t.instant = true) (he_range : Moment.inRange e.instant = true) :
    (∃ h q sig, token.toList = Signed.joined h q sig ∧ IsSegment h ∧ IsSegment q ∧
      IsSegment sig) ∧
    (e.instant ≤ Moment.maxRecorded → ∃ k : SessionClaims,
      k.subject = subject.subject ∧ k.email = subject.email ∧ k.roles = subject.roles ∧
      k.issuer = s.settings.issuer ∧ k.audience = s.settings.audience ∧
      k.issuedAt = ⟨t.instant - t.instant % 1000000, some 0⟩ ∧
      k.expiresAt = ⟨e.timestamp * 1000000, some 0⟩ ∧
      (s.settings.expiry.microseconds % 1000000 = 0 →
        k.issuedAt.add? s.settings.expiry = some k.expiresAt) ∧
      ∀ clock machine, clock.offset.isSome → clock.instant ≤ k.expiresAt.instant →
        s.verify clock machine token = .ok k ∧
          s.verifySubject clock machine token = .ok subject) ∧
    (Moment.maxRecorded < e.instant →
      ∀ clock machine, s.verify clock machine token = .error (.badValue none)) ∧
    (∀ other, s.issue t other = .ok token → other = subject) := by
  have hrange := Moment.inRange_iff.mp he_range
  have hinstant := Moment.instant_of_add? he
  rw [Moment.instant_truncated] at hinstant
  refine ⟨exists_segments_of_issue hissue, ?_, ?_, ?_⟩
  · intro hlast
    have hiat := Moment.inRange_truncated ht_range
    have hexp : Moment.inRange (e.timestamp * 1000000) = true :=
      Duration.inRange_wholeSeconds hrange.1 hlast
    refine ⟨⟨subject.subject, subject.email, subject.roles,
      ⟨t.truncated.timestamp * 1000000, some 0⟩, ⟨e.timestamp * 1000000, some 0⟩,
      s.settings.issuer, s.settings.audience⟩, rfl, rfl, rfl, rfl, rfl, ?_, rfl, ?_, ?_⟩
    · rw [Moment.timestamp_truncated]
    · intro hwhole
      have he_whole : e.instant % 1000000 = 0 := by omega
      rw [Moment.add?_eq_some_iff]
      simp only [Moment.timestamp_truncated, Moment.timestamp_of_dvd he_whole]
      rw [← hinstant]
      exact ⟨he_range, rfl⟩
    · intro clock machine hzone hle
      have hverify := verify_issued_eq_ok haudience he hissue hiat hexp hzone
        (by simpa [Moment.instant] using hle) machine
      refine ⟨hverify, ?_⟩
      rw [verifySubject, hverify]
      exact congrArg Checked.outcome (toSubject_eq_ok rfl rfl rfl)
  · intro hbeyond
    exact verify_issued_beyond haudience he hissue hbeyond hrange.2
  · intro other hother
    exact subject_eq_of_issue haudience hissue hother

/-- A subject with a quote, a character beyond the basic plane and an order of roles, issued a
token in a zone ahead of UTC half a second into a second, is accepted at the very expiry. -/
theorem issue_round_trip_usual :
    ∃ token k, issue ⟨.usual "hunter2"⟩ ⟨1736942400500000, some 3600⟩
        ⟨"\"😀\\", "", ["b", "", "a"], by decide⟩ = .ok token ∧
      k.subject = "\"😀\\" ∧ k.email = .text "" ∧
      k.roles = [.text "b", .text "", .text "a"] ∧
      k.issuedAt = ⟨1736938800000000, some 0⟩ ∧
      k.issuedAt.add? (.ofDays 7) = some k.expiresAt ∧
      verify ⟨.usual "hunter2"⟩ k.expiresAt ⟨0, true⟩ token = .ok k ∧
      verifySubject ⟨.usual "hunter2"⟩ k.expiresAt ⟨0, true⟩ token
        = .ok ⟨"\"😀\\", "", ["b", "", "a"], by decide⟩ := by
  have hkey : Secret.key "hunter2" = .ok (Utf8.ofString "hunter2") :=
    Secret.key_eq_ok_iff.mpr ⟨by decide +kernel, by decide +kernel, rfl⟩
  have he : (Moment.truncated ⟨1736942400500000, some 3600⟩).add? (.ofDays 7)
      = some ⟨1737547200000000, some 3600⟩ := by decide
  obtain ⟨token, hissue⟩ := exists_issue (s := ⟨.usual "hunter2"⟩) he hkey
    ⟨"\"😀\\", "", ["b", "", "a"], by decide⟩
  have haudience : (SessionSettings.usual "hunter2").audience ≠ "" := by
    simp [SessionSettings.usual]
  obtain ⟨-, haccept, -, -⟩ := issue_round_trip haudience hissue he (by decide) (by decide)
  obtain ⟨k, hsub, hemail, hroles, -, -, hiat, hexp, hwhole, hverify⟩ := haccept (by decide)
  have hzone : k.expiresAt.offset.isSome := by
    rw [hexp]
    rfl
  obtain ⟨hclaims, hsubject⟩ := hverify k.expiresAt ⟨0, true⟩ hzone le_rfl
  exact ⟨token, k, hissue, hsub, hemail, hroles, hiat, hwhole (by decide), hclaims, hsubject⟩

/-- **The last microsecond.** A token is issued two seconds before the end of year 9999 for one
microsecond less than two seconds.  Both moments lie in the calendar, and no clock verifies
it. -/
theorem issue_round_trip_last :
    ∃ s token, s = SessionService.mk
        ⟨"test-secret-key-for-testing-only", "eros-backend", "eros-users", "eros-api",
          ⟨1999999⟩⟩ ∧
      s.issue ⟨253402300798000000, some 0⟩ ⟨"user-1", "a@example.com", ["user"], by decide⟩
        = .ok token ∧
      Moment.inRange 253402300798000000 = true ∧
      Moment.inRange (253402300798000000 + s.settings.expiry.microseconds) = true ∧
      ∀ clock machine, s.verify clock machine token = .error (.badValue none) := by
  let s : SessionService := ⟨⟨"test-secret-key-for-testing-only", "eros-backend", "eros-users",
    "eros-api", ⟨1999999⟩⟩⟩
  have hkey : Secret.key s.settings.secret = .ok (Utf8.ofString s.settings.secret) :=
    Secret.key_eq_ok_iff.mpr ⟨by decide +kernel, by decide +kernel, rfl⟩
  have he : (Moment.truncated ⟨253402300798000000, some 0⟩).add? s.settings.expiry
      = some ⟨253402300799999999, some 0⟩ := by decide
  obtain ⟨token, hissue⟩ :=
    exists_issue he hkey ⟨"user-1", "a@example.com", ["user"], by decide⟩
  have haudience : s.settings.audience ≠ "" := by decide
  refine ⟨s, token, rfl, hissue, by decide, by decide, ?_⟩
  intro clock machine
  exact verify_issued_beyond haudience he hissue (by decide) (by decide) clock machine

end SessionService

end IdentityService
