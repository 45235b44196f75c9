import IdentityService.Proofs.Session.Authenticity
import IdentityService.Proofs.Session.RoundTrip

/-!
# Which Settings Serve

A service is made from any settings whose secret is not blank.  Whether it can do its work depends
on more: the secret must not look like a key of another kind, or nothing is ever signed; the
audience must not be empty, or every token is refused, the service's own included; and a token must
live for a second, or it has expired before it is shown.  None of this is found out when the
service is made.

## Main definitions

- `SessionService.Serves`: a service issues a token and accepts it at the same reading.
- `SessionSettings.Usable`: what settings must have besides a secret that is not blank.

## Main statements

- `SessionService.serves_iff`: when a service serves, reading by reading.
- `SessionService.serves_of_usable`: usable settings serve.
- `SessionService.serves_last_microsecond_iff`: one reading at which only usable settings serve.
- `SessionService.serves_exact`: all of it, for every service that can be made.
-/

namespace IdentityService

/-! ## §1 Serving -/

/-- Settings with which a service can work: the secret gives a key, the audience is not empty, and
a token lives for a second at least. -/
structure SessionSettings.Usable (settings : SessionSettings) : Prop where
  secret : ∃ key, Secret.key settings.secret = .ok key
  audience : settings.audience ≠ ""
  expiry : 1000000 ≤ settings.expiry.microseconds

namespace SessionService

variable {s : SessionService} {t e clock : Moment} {subject : TokenSubject} {token : String}
  {machine : Machine} {k : SessionClaims} {f : Fault}

/-- A service serves at a reading when it issues a token there and accepts it. -/
def Serves (s : SessionService) (t : Moment) (machine : Machine) (subject : TokenSubject) : Prop :=
  ∃ token k, s.issue t subject = .ok token ∧ s.verify t machine token = .ok k

/-- A service that accepts any token at all has a key and an audience. -/
theorem settings_of_verify (h : s.verify clock machine token = .ok k) :
    (∃ key, Secret.key s.settings.secret = .ok key) ∧ s.settings.audience ≠ "" := by
  obtain ⟨-, p, hp, -⟩ := verify_eq_ok_iff.mp h
  obtain ⟨key, _, _, _, _, hkey, -, -, -, -, -, hclaims⟩ := payloadOf_eq_ok_iff.mp hp
  obtain ⟨-, -, haudience, hne, -, -⟩ := SessionPayload.ofFields_eq_ok_iff.mp hclaims
  exact ⟨⟨key, hkey⟩, haudience ▸ hne⟩

/-- Without a key every issue fails as the making of the key does. -/
theorem issue_of_badKey (he : t.truncated.add? s.settings.expiry = some e)
    (hkey : Secret.key s.settings.secret = .error f) : s.issue t subject = .error f := by
  rw [issue_eq, payloadAt_eq_ok_iff.mpr ⟨e, he, rfl⟩, ok_bind, hkey, error_bind]

/-- **Reading by reading.** Where the expiry can be computed, a service serves when it has a key
and an audience, the clock has an offset, the recorded moments lie in the calendar, and the
recorded expiry is not before the reading. -/
theorem serves_iff (he : t.truncated.add? s.settings.expiry = some e) :
    s.Serves t machine subject ↔
      (∃ key, Secret.key s.settings.secret = .ok key) ∧ s.settings.audience ≠ "" ∧
        t.offset.isSome ∧ Moment.inRange (t.truncated.timestamp * 1000000) = true ∧
        Moment.inRange (e.timestamp * 1000000) = true ∧ t.instant ≤ e.timestamp * 1000000 := by
  constructor
  · rintro ⟨token, k, hissue, hverify⟩
    obtain ⟨hkey, haudience⟩ := settings_of_verify hverify
    rw [verify_issued haudience (payloadAt_eq_ok_iff.mpr ⟨e, he, rfl⟩) hissue] at hverify
    obtain ⟨hiat, hexp, hzone, hle, -⟩ := claimsAt_eq_ok_iff.mp hverify
    exact ⟨hkey, haudience, hzone, hiat, hexp, hle⟩
  · rintro ⟨⟨key, hkey⟩, haudience, hzone, hiat, hexp, hle⟩
    obtain ⟨token, hissue⟩ := exists_issue he hkey subject
    exact ⟨token, _, hissue,
      verify_issued_eq_ok haudience he hissue hiat hexp hzone hle machine⟩

/-! ## §2 The lifetime -/

/-- A moment of the calendar is small enough to be recorded without leaving its second far
behind. -/
theorem natAbs_lt_of_inRange {n : Int} (h : Moment.inRange n = true) : n.natAbs < 2 ^ 58 := by
  rw [Moment.inRange_iff, Moment.minWall, Moment.maxWall] at h
  omega

/-- **Usable settings serve** at every reading with an offset, as long as it and the expiry lie in
the calendar and the expiry is not among the last fifteen microseconds. -/
theorem serves_of_usable (husable : s.settings.Usable)
    (he : t.truncated.add? s.settings.expiry = some e) (hzone : t.offset.isSome)
    (ht_range : Moment.inRange t.instant = true) (he_range : Moment.inRange e.instant = true)
    (hlast : e.instant ≤ Moment.maxRecorded) : s.Serves t machine subject := by
  have hinstant := Moment.instant_of_add? he
  rw [Moment.instant_truncated] at hinstant
  have hexpiry := husable.expiry
  -- the expiry reaches the second after the one of the issue
  have hreached : t.instant / 1000000 + 1 ≤ e.timestamp :=
    Duration.le_wholeSeconds (natAbs_lt_of_inRange he_range) (by omega)
  exact (serves_iff he).mpr ⟨husable.secret, husable.audience, hzone,
    Moment.inRange_truncated ht_range,
    Duration.inRange_wholeSeconds (Moment.inRange_iff.mp he_range).1 hlast, by omega⟩

/-- A lifetime of minus a second or less has expired at the very reading of the issue. -/
theorem not_serves_of_expiry_le (hexpiry : s.settings.expiry.microseconds ≤ -1000000)
    (he : t.truncated.add? s.settings.expiry = some e)
    (he_range : Moment.inRange e.instant = true) : ¬ s.Serves t machine subject := by
  intro hserves
  obtain ⟨-, -, -, -, -, hle⟩ := (serves_iff he).mp hserves
  have hinstant := Moment.instant_of_add? he
  rw [Moment.instant_truncated] at hinstant
  have hrecorded : e.timestamp ≤ t.instant / 1000000 - 1 :=
    Duration.wholeSeconds_le (natAbs_lt_of_inRange he_range) (by omega)
  omega

/-- **One reading tells.** In the last microsecond of the first second of 1970, a service serves
exactly when its settings are usable. -/
theorem serves_last_microsecond_iff
    (hexpiry : Moment.inRange s.settings.expiry.microseconds = true)
    (hlast : s.settings.expiry.microseconds ≤ Moment.maxRecorded) :
    s.Serves ⟨999999, some 0⟩ machine subject ↔ s.settings.Usable := by
  have he : (Moment.truncated ⟨999999, some 0⟩).add? s.settings.expiry =
      some ⟨s.settings.expiry.microseconds, some 0⟩ := by
    rw [Moment.add?_eq_some_iff]
    simp [Moment.truncated, hexpiry]
  have hinstant : (⟨s.settings.expiry.microseconds, some 0⟩ : Moment).instant =
      s.settings.expiry.microseconds := by simp [Moment.instant]
  constructor
  · intro hserves
    obtain ⟨hkey, haudience, -, -, -, hle⟩ := (serves_iff he).mp hserves
    rw [Moment.timestamp, hinstant] at hle
    refine ⟨hkey, haudience, ?_⟩
    by_contra hshort
    -- less than a second is recorded as the second of the issue, or as an earlier one
    have hrecorded : Duration.wholeSeconds ⟨s.settings.expiry.microseconds⟩ ≤ 0 := by
      by_cases hpos : 0 < s.settings.expiry.microseconds
      · exact (Duration.wholeSeconds_of_lt_second hpos (by omega)).le
      · exact Duration.wholeSeconds_le (natAbs_lt_of_inRange hexpiry) (by omega)
    have hreading : (⟨999999, some 0⟩ : Moment).instant = 999999 := rfl
    omega
  · intro husable
    exact serves_of_usable husable he rfl (by decide) (by rw [hinstant]; exact hexpiry)
      (by rw [hinstant]; exact hlast)

/-! ## §3 Every service that can be made -/

/-- **What making a service leaves open.** A service is made whenever the secret is not blank.
Where the expiry can be computed, it serves exactly under the conditions of each reading, and with
usable settings at all readings of the calendar.  A secret that gives no key makes every issue fail;
without a key or an audience no token is ever accepted; a lifetime of minus a second or less has
always expired; and for lifetimes within the calendar there is a reading at which only usable
settings serve. -/
theorem serves_exact {settings : SessionSettings} (hs : ofSettings settings = .ok s) :
    (∀ t e subject machine, t.truncated.add? settings.expiry = some e →
      (s.Serves t machine subject ↔
        (∃ key, Secret.key settings.secret = .ok key) ∧ settings.audience ≠ "" ∧
          t.offset.isSome ∧ Moment.inRange (t.truncated.timestamp * 1000000) = true ∧
          Moment.inRange (e.timestamp * 1000000) = true ∧
          t.instant ≤ e.timestamp * 1000000) ∧
      (settings.Usable → t.offset.isSome → Moment.inRange t.instant = true →
        Moment.inRange e.instant = true → e.instant ≤ Moment.maxRecorded →
        s.Serves t machine subject) ∧
      (settings.expiry.microseconds ≤ -1000000 → Moment.inRange e.instant = true →
        ¬ s.Serves t machine subject) ∧
      (∀ f, Secret.key settings.secret = .error f → s.issue t subject = .error f)) ∧
    (¬ (∃ key, Secret.key settings.secret = .ok key) ∨ settings.audience = "" →
      ∀ clock machine token k, s.verify clock machine token ≠ .ok k) ∧
    (Moment.inRange settings.expiry.microseconds = true →
      settings.expiry.microseconds ≤ Moment.maxRecorded →
      ∀ subject machine,
        s.Serves ⟨999999, some 0⟩ machine subject ↔ settings.Usable) := by
  obtain ⟨-, rfl⟩ := ofSettings_eq_ok_iff.mp hs
  refine ⟨fun t e subject machine he => ⟨serves_iff he, ?_, ?_, ?_⟩, ?_, ?_⟩
  · exact fun husable hzone ht_range he_range hlast =>
      serves_of_usable husable he hzone ht_range he_range hlast
  · exact fun hexpiry he_range => not_serves_of_expiry_le hexpiry he he_range
  · exact fun f hkey => issue_of_badKey he hkey
  · intro hlacks clock machine token k hverify
    obtain ⟨hkey, haudience⟩ := settings_of_verify hverify
    rcases hlacks with hnone | hempty
    · exact hnone hkey
    · exact haudience hempty
  · exact fun hexpiry hlast subject machine => serves_last_microsecond_iff hexpiry hlast

/-- Under the usual settings a token that is issued half a second into a second, ahead of UTC, is
accepted at once. -/
theorem serves_exact_usual :
    ofSettings (.usual "hunter2") = .ok ⟨.usual "hunter2"⟩ ∧
      Serves ⟨.usual "hunter2"⟩ ⟨1736942400500000, some 3600⟩ ⟨0, true⟩
        ⟨"user-1", "a@example.com", ["user"], by decide⟩ := by
  have hs : ofSettings (.usual "hunter2") = .ok ⟨.usual "hunter2"⟩ :=
    ofSettings_eq_ok_iff.mpr ⟨by decide +kernel, rfl⟩
  have hkey : Secret.key "hunter2" = .ok (Utf8.ofString "hunter2") :=
    Secret.key_eq_ok_iff.mpr ⟨by decide +kernel, by decide +kernel, rfl⟩
  have husable : (SessionSettings.usual "hunter2").Usable :=
    ⟨⟨_, hkey⟩, by simp [SessionSettings.usual], by decide⟩
  have he : (Moment.truncated ⟨1736942400500000, some 3600⟩).add? (.ofDays 7)
      = some ⟨1737547200000000, some 3600⟩ := by decide
  obtain ⟨hreadings, -⟩ := serves_exact hs
  obtain ⟨-, hserves, -⟩ := hreadings _ _ ⟨"user-1", "a@example.com", ["user"], by decide⟩
    ⟨0, true⟩ he
  exact ⟨hs, hserves husable rfl (by decide) (by decide) (by decide)⟩

/-- **Found out too late.** A service is made for an empty audience: it issues a token, which no
service with these settings accepts.  Another is made for a secret that begins like a public key:
it issues nothing. -/
theorem serves_exact_unusable :
    ∃ s s' : SessionService, ∃ token,
      ofSettings ⟨"test-secret-key-for-testing-only", "eros-backend", "", "eros-api",
        .ofDays 7⟩ = .ok s ∧
      s.issue ⟨1736942400000000, some 0⟩ ⟨"user-1", "a@example.com", ["user"], by decide⟩
        = .ok token ∧
      (∀ k, s.verify ⟨1736942400000000, some 0⟩ ⟨0, true⟩ token ≠ .ok k) ∧
      ofSettings ⟨"ssh-rsa AAAA", "eros-backend", "eros-users", "eros-api", .ofDays 7⟩ = .ok s' ∧
      ∀ token', s'.issue ⟨1736942400000000, some 0⟩
        ⟨"user-1", "a@example.com", ["user"], by decide⟩ ≠ .ok token' := by
  let s : SessionService := ⟨⟨"test-secret-key-for-testing-only", "eros-backend", "", "eros-api",
    .ofDays 7⟩⟩
  let s' : SessionService := ⟨⟨"ssh-rsa AAAA", "eros-backend", "eros-users", "eros-api",
    .ofDays 7⟩⟩
  have hs : ofSettings s.settings = .ok s := ofSettings_eq_ok_iff.mpr ⟨by decide +kernel, rfl⟩
  have hs' : ofSettings s'.settings = .ok s' := ofSettings_eq_ok_iff.mpr ⟨by decide +kernel, rfl⟩
  have hkey : Secret.key s.settings.secret = .ok (Utf8.ofString s.settings.secret) :=
    Secret.key_eq_ok_iff.mpr ⟨by decide +kernel, by decide +kernel, rfl⟩
  have he : (Moment.truncated ⟨1736942400000000, some 0⟩).add? (.ofDays 7)
      = some ⟨1737547200000000, some 0⟩ := by decide
  obtain ⟨token, hissue⟩ := exists_issue (s := s) he hkey
    ⟨"user-1", "a@example.com", ["user"], by decide⟩
  refine ⟨s, s', token, hs, hissue, ?_, hs', ?_⟩
  · intro k hverify
    exact (settings_of_verify hverify).2 rfl
  · intro token' hissue'
    obtain ⟨_, key, -, hkey', -⟩ := issue_eq_ok_iff.mp hissue'
    obtain ⟨hother, -⟩ := Secret.key_eq_ok_iff.mp hkey'
    exact absurd hother (by decide +kernel)

end SessionService

end IdentityService
