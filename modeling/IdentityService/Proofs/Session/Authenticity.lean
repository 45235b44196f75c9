import IdentityService.Proofs.Session.Issue

/-!
# Accepted Tokens Are Authentic

What a token must look like to be accepted, and why no other spelling of its signature
is.  Both results rest on one fact: a text passes the two checks of its signature only if
its third segment is the canonical spelling of the digest of the first two.

## Main statements

- `SessionService.verify_authentic`: the claims of an accepted token stand in it, under the
  signature of the service.
- `SessionService.signature_unique`: a header and a payload segment have one signature, and
  every other text in its place is refused.
-/

namespace IdentityService

/-! ## §1 What a token says -/

/-- A token is laid out as three segments without points inside, of which the first two spell
objects. -/
structure Layout (token h q sig : List Char) (header payload : Fields) : Prop where
  token_eq : token = Signed.joined h q sig
  header_free : '.' ∉ h
  payload_free : '.' ∉ q
  signature_free : '.' ∉ sig
  header_spells : Signed.Spells h header
  payload_spells : Signed.Spells q payload

theorem Layout.segments_eq {token h q sig : List Char} {header payload : Fields}
    (hl : Layout token h q sig header payload) : Signed.segments token = [h, q, sig] :=
  Signed.segments_eq_three_iff.mpr
    ⟨hl.token_eq, hl.header_free, hl.payload_free, hl.signature_free⟩

theorem Layout.of_segments {token h q sig : List Char} {header payload : Fields}
    (hsegs : Signed.segments token = [h, q, sig]) (hheader : Signed.Spells h header)
    (hpayload : Signed.Spells q payload) : Layout token h q sig header payload := by
  obtain ⟨htoken, hh, hq, hsig⟩ := Signed.segments_eq_three_iff.mp hsegs
  exact ⟨htoken, hh, hq, hsig, hheader, hpayload⟩

/-- A token is laid out in one way. -/
theorem Layout.unique {token h q sig h' q' sig' : List Char}
    {header payload header' payload' : Fields} (hl : Layout token h q sig header payload)
    (hl' : Layout token h' q' sig' header' payload') :
    h = h' ∧ q = q' ∧ sig = sig' ∧ header = header' ∧ payload = payload' := by
  have hsegs := hl'.segments_eq
  rw [hl.segments_eq] at hsegs
  obtain ⟨rfl, rfl, rfl⟩ : h = h' ∧ q = q' ∧ sig = sig' := by simpa using hsegs
  exact ⟨rfl, rfl, rfl, hl.header_spells.unique hl'.header_spells,
    hl.payload_spells.unique hl'.payload_spells⟩

/-- The spelling of the keyed digest of two segments under the secret of the settings. -/
def SessionSettings.signatureOf (settings : SessionSettings) (h q : List Char) : List Char :=
  Base64Url.encode (Hmac.sign (Utf8.ofString settings.secret) (Utf8.encode (h ++ '.' :: q)))

/-- Claims are attested by the parts of a token: the parts are signed under the settings, the
header names the algorithm, every claim stands in the payload, issuer and audience are those
of the settings, and the clock is not past the expiry. -/
structure Attested (settings : SessionSettings) (clock : Moment) (h q sig : List Char)
    (header payload : Fields) (k : SessionClaims) : Prop where
  signature : sig = settings.signatureOf h q
  algorithm : header.get? "alg" = some (.text "HS256")
  subject : payload.get? "sub" = some (.text k.subject)
  subject_ne : k.subject ≠ ""
  email : payload.get? "email" = some (.raw k.email)
  roles : payload.get? "roles" = some (.ofRaws k.roles) ∨
    payload.get? "roles" = none ∧ k.roles = []
  issuer : payload.get? "iss" = some (.text k.issuer)
  issuer_eq : k.issuer = settings.issuer
  audience : payload.get? "aud" = some (.text k.audience)
  audience_eq : k.audience = settings.audience
  issuedAt : ∃ v n, payload.get? "iat" = some v ∧ Schema.integer v = .ok n ∧
    k.issuedAt = ⟨n * 1000000, some 0⟩
  expiresAt : ∃ v n, payload.get? "exp" = some v ∧ Schema.integer v = .ok n ∧
    k.expiresAt = ⟨n * 1000000, some 0⟩
  clock_offset : clock.offset.isSome
  not_expired : clock.instant ≤ k.expiresAt.instant

namespace SessionService

/-! ## §2 Acceptance -/

theorem ofSettings_eq_ok_iff {settings : SessionSettings} {s : SessionService} :
    ofSettings settings = .ok s ↔
      Text.isBlankText settings.secret = false ∧ s = ⟨settings⟩ := by
  rw [ofSettings]
  by_cases hblank : Text.isBlankText settings.secret = true
  · simp [hblank]
  · simp [hblank, eq_comm]

/-- The claims of an accepted token are attested by its parts. -/
theorem attested_of_verify {s : SessionService} {clock : Moment} {machine : Machine}
    {token : String} {k : SessionClaims} (hverify : s.verify clock machine token = .ok k) :
    ∃ h q sig header payload, Layout token.toList h q sig header payload ∧
      Attested s.settings clock h q sig header payload k := by
  obtain ⟨-, p, hp, hk⟩ := verify_eq_ok_iff.mp hverify
  obtain ⟨key, h, q, header, payload, hkey, hsegs, hheader, hpayload, halg, -, hclaims⟩ :=
    payloadOf_eq_ok_iff.mp hp
  obtain ⟨hcarries, hiss, haud, -, -, -⟩ := SessionPayload.ofFields_eq_ok_iff.mp hclaims
  obtain ⟨-, -, hzone, hle, rfl⟩ := claimsAt_eq_ok_iff.mp hk
  obtain ⟨-, -, rfl⟩ := Secret.key_eq_ok_iff.mp hkey
  obtain ⟨iat, hiat, hiat_ok⟩ := hcarries.iat
  obtain ⟨exp, hexp, hexp_ok⟩ := hcarries.exp
  refine ⟨h, q, _, header, payload, Layout.of_segments hsegs hheader hpayload, ?_⟩
  exact {
    signature := rfl
    algorithm := halg
    subject := hcarries.sub
    subject_ne := hcarries.sub_ne
    email := hcarries.email
    roles := hcarries.roles
    issuer := hcarries.iss
    issuer_eq := hiss
    audience := hcarries.aud
    audience_eq := haud
    issuedAt := ⟨iat, p.iat, hiat, hiat_ok, rfl⟩
    expiresAt := ⟨exp, p.exp, hexp, hexp_ok, rfl⟩
    clock_offset := hzone
    not_expired := by simpa [Moment.instant] using hle }

/-- **Authenticity.** A service that its settings allow accepts a token only with claims that
its parts attest.  A token that names another algorithm, another issuer or another audience,
a list of audiences among them, or that bears any text but the signature of its own first two
segments, is never accepted. -/
theorem verify_authentic {settings : SessionSettings} {s : SessionService}
    (hs : ofSettings settings = .ok s) (clock : Moment) (machine : Machine) (token : String) :
    (∀ k, s.verify clock machine token = .ok k →
      ∃ h q sig header payload, Layout token.toList h q sig header payload ∧
        Attested settings clock h q sig header payload k) ∧
    (∀ h q sig header payload, Layout token.toList h q sig header payload →
      header.get? "alg" ≠ some (.text "HS256") ∨
        payload.get? "iss" ≠ some (.text settings.issuer) ∨
        payload.get? "aud" ≠ some (.text settings.audience) ∨
        sig ≠ settings.signatureOf h q →
      ∀ k, s.verify clock machine token ≠ .ok k) := by
  obtain ⟨-, rfl⟩ := ofSettings_eq_ok_iff.mp hs
  refine ⟨fun k hk => attested_of_verify hk, ?_⟩
  intro h q sig header payload hl hbad k hk
  obtain ⟨h', q', sig', header', payload', hl', ha⟩ := attested_of_verify hk
  -- the token has one layout, so what is attested contradicts whatever is wrong with it
  obtain ⟨rfl, rfl, rfl, rfl, rfl⟩ := hl.unique hl'
  rcases hbad with halg | hiss | haud | hsig
  · exact halg ha.algorithm
  · exact hiss (ha.issuer_eq ▸ ha.issuer)
  · exact haud (ha.audience_eq ▸ ha.audience)
  · exact hsig ha.signature

/-- A token issued under the usual settings is accepted, with claims that it attests. -/
theorem verify_authentic_usual :
    ∃ s token k, ofSettings (.usual "hunter2") = .ok s ∧
      s.issue ⟨0, some 0⟩ ⟨"user-1", "a@example.com", ["user"], by decide⟩ = .ok token ∧
      s.verify ⟨0, some 0⟩ ⟨0, true⟩ token = .ok k ∧
      ∃ h q sig header payload, Layout token.toList h q sig header payload ∧
        Attested (.usual "hunter2") ⟨0, some 0⟩ h q sig header payload k := by
  have hs : ofSettings (.usual "hunter2") = .ok ⟨.usual "hunter2"⟩ :=
    ofSettings_eq_ok_iff.mpr ⟨by decide +kernel, rfl⟩
  have hkey : Secret.key "hunter2" = .ok (Utf8.ofString "hunter2") :=
    Secret.key_eq_ok_iff.mpr ⟨by decide +kernel, by decide +kernel, rfl⟩
  obtain ⟨token, k, hissue, hverify⟩ :=
    exists_accepted_usual hkey ⟨"user-1", "a@example.com", ["user"], by decide⟩
  exact ⟨_, token, k, hs, hissue, hverify, (verify_authentic hs _ _ token).1 k hverify⟩

/-! ## §3 Refusal -/

/-- An outcome is a refusal when a token was found invalid. -/
def IsRefusal {α : Type} (r : Outcome α) : Prop :=
  ∃ message, r = .error (.service (.tokenInvalid message))

theorem isRefusal_of_isTokenFault {α : Type} {f : Fault} (h : IsTokenFault f) :
    IsRefusal (.error f : Outcome α) := by
  obtain ⟨t, rfl⟩ := h
  exact ⟨_, rfl⟩

theorem not_isRefusal_expired {α : Type} :
    ¬ IsRefusal (.error (.service .tokenExpired) : Outcome α) := by
  rintro ⟨_, h⟩
  simp [ServiceError.tokenExpired, ServiceError.tokenExpiredWith, ServiceError.tokenInvalid,
    ServiceError.plain] at h

theorem verify_empty (s : SessionService) (clock : Moment) (machine : Machine) :
    s.verify clock machine "" = .error (.service .missingToken) := rfl

private theorem missingToken_ne_tokenExpired :
    (.error (.service .missingToken) : Outcome SessionClaims) ≠
      .error (.service .tokenExpired) := by
  simp [ServiceError.missingToken, ServiceError.missingTokenWith, ServiceError.tokenExpired,
    ServiceError.tokenExpiredWith, ServiceError.plain]

/-- **One spelling.** What is not refused bears the canonical spelling of its digest, or that of
some bytes behind a header at which the library does not stop. -/
theorem segments_of_not_isRefusal {s : SessionService} {key : List UInt8}
    (hkey : Secret.key s.settings.secret = .ok key) {clock : Moment} {machine : Machine}
    {token : String} (hne : token ≠ "") (hr : ¬ IsRefusal (s.verify clock machine token)) :
    ∃ h q bytes, Signed.segments token.toList = [h, q, Base64Url.encode bytes] ∧
      (bytes = Signed.digest key h q ∨ ¬ machine.StopsAt h) := by
  rw [verify, if_neg (by simpa using hne)] at hr
  cases hpayload : s.payloadOf machine token.toList with
  | ok p =>
    obtain ⟨key', h, q, _, _, hkey', hsegs, -⟩ := payloadOf_eq_ok_iff.mp hpayload
    obtain rfl : key = key' := Except.ok.inj (hkey.symm.trans hkey')
    exact ⟨h, q, _, hsegs, .inl rfl⟩
  | error f =>
    rw [hpayload, error_bind] at hr
    rcases onlyFaults_payloadOf hkey machine _ f hpayload with hrefused | rfl
    · exact absurd (isRefusal_of_isTokenFault hrefused) hr
    · obtain ⟨hlets, hmeets⟩ := (payloadOf_eq_tooDeep_iff hkey).mp hpayload
      cases hmeets with
      | header h q bytes hsegs hdeep =>
        exact ⟨h, q, bytes, hsegs, .inr (Machine.not_stopsAt_iff.mpr ⟨hlets, hdeep⟩)⟩
      | payload h q _ hsegs => exact ⟨h, q, _, hsegs, .inl rfl⟩

/-- A token that is accepted or has expired bears its signature, and its header is no text that
is too deep. -/
theorem segments_of_accepted {s : SessionService} {key : List UInt8}
    (hkey : Secret.key s.settings.secret = .ok key) {clock : Moment} {machine : Machine}
    {token : String} (haccepted : (∃ k, s.verify clock machine token = .ok k) ∨
      s.verify clock machine token = .error (.service .tokenExpired)) :
    ∃ h q, Signed.segments token.toList = [h, q, Signed.signature key h q] ∧
      ¬ Signed.IsTooDeep h := by
  have hne : token ≠ "" := by
    rintro rfl
    rw [verify_empty] at haccepted
    rcases haccepted with ⟨k, hk⟩ | hexpired
    · exact absurd hk (by simp)
    · exact absurd hexpired missingToken_ne_tokenExpired
  rw [verify, if_neg (by simpa using hne)] at haccepted
  -- an outcome that the clock decides has a payload behind it
  cases hpayload : s.payloadOf machine token.toList with
  | ok p =>
    obtain ⟨key', h, q, _, _, hkey', hsegs, hheader, -⟩ := payloadOf_eq_ok_iff.mp hpayload
    obtain rfl : key = key' := Except.ok.inj (hkey.symm.trans hkey')
    exact ⟨h, q, hsegs, hheader.not_isTooDeep⟩
  | error f =>
    rw [hpayload, error_bind] at haccepted
    rcases haccepted with ⟨k, hk⟩ | hexpired
    · exact absurd hk (by simp)
    · obtain rfl := Except.error.inj hexpired
      rcases onlyFaults_payloadOf hkey machine _ _ hpayload with hrefused | hdeep
      · exact absurd (isRefusal_of_isTokenFault (α := SessionClaims) hrefused)
          not_isRefusal_expired
      · exact absurd hdeep (by simp)

theorem toList_joined_ne_nil (h q sig : List Char) :
    String.ofList (Signed.joined h q sig) ≠ "" := by
  intro hempty
  have hlist := congrArg String.toList hempty
  rw [String.toList_ofList] at hlist
  exact absurd hlist (by simp [Signed.joined])

/-- A third segment that is not refused behind a header and a payload segment. -/
theorem signature_of_not_isRefusal {s : SessionService} {key : List UInt8}
    (hkey : Secret.key s.settings.secret = .ok key) {h q sig : List Char} (hh : '.' ∉ h)
    (hq : '.' ∉ q) {clock : Moment} {machine : Machine}
    (hr : ¬ IsRefusal (s.verify clock machine (String.ofList (Signed.joined h q sig)))) :
    ∃ bytes, sig = Base64Url.encode bytes ∧
      (bytes = Signed.digest key h q ∨ ¬ machine.StopsAt h) := by
  obtain ⟨h', q', bytes, hsegs, hbytes⟩ :=
    segments_of_not_isRefusal hkey (toList_joined_ne_nil h q sig) hr
  rw [String.toList_ofList, Signed.joined, List.append_assoc, List.cons_append,
    Signed.segments_append_point hh, Signed.segments_append_point hq] at hsegs
  -- a third segment with points in it would be several
  obtain ⟨rfl, rfl, hsig⟩ : h = h' ∧ q = q' ∧ Signed.segments sig = [Base64Url.encode bytes] := by
    simpa using hsegs
  have hjoin := (Signed.point_notMem_segments sig).2
  rw [hsig] at hjoin
  exact ⟨bytes, by simpa [List.intercalate] using hjoin.symm, hbytes⟩

/-- Behind a header at which the library stops, only the signature is not refused. -/
theorem eq_signature_of_not_isRefusal {s : SessionService} {key : List UInt8}
    (hkey : Secret.key s.settings.secret = .ok key) {h q sig : List Char} (hh : '.' ∉ h)
    (hq : '.' ∉ q) {clock : Moment} {machine : Machine} (hstops : machine.StopsAt h)
    (hr : ¬ IsRefusal (s.verify clock machine (String.ofList (Signed.joined h q sig)))) :
    sig = Signed.signature key h q := by
  obtain ⟨bytes, rfl, rfl | hlets⟩ := signature_of_not_isRefusal hkey hh hq hr
  · rfl
  · exact absurd hstops hlets

/-- **Depth.** A header at which the library does not stop gets through whatever bytes are spelled
behind it. -/
theorem verify_of_not_stopsAt {s : SessionService} {key : List UInt8}
    (hkey : Secret.key s.settings.secret = .ok key) {h q : List Char} (hh : '.' ∉ h)
    (hq : '.' ∉ q) {machine : Machine} (hlets : ¬ machine.StopsAt h) (bytes : List UInt8)
    (clock : Moment) :
    s.verify clock machine (String.ofList (Signed.joined h q (Base64Url.encode bytes)))
      = .error .tooDeep := by
  obtain ⟨hrefuses, hdeep⟩ := Machine.not_stopsAt_iff.mp hlets
  have hsegs : Signed.segments (Signed.joined h q (Base64Url.encode bytes))
      = [h, q, Base64Url.encode bytes] :=
    Signed.segments_eq_three_iff.mpr ⟨rfl, hh, hq, Signed.point_notMem_encode bytes⟩
  rw [verify, if_neg (by simpa using toList_joined_ne_nil h q _), String.toList_ofList,
    (payloadOf_eq_tooDeep_iff hkey).mpr ⟨hrefuses, .header h q bytes hsegs hdeep⟩, error_bind]

/-- **Signatures are not malleable.** A header at which the library stops and a payload segment
have at most one third segment that is not refused, at whatever times.  When a token is accepted,
or reported as expired, every other text in place of its signature is refused at every time,
whatever the library does about depth.  A header at which the library does not stop has no such
token: its depth gets through behind every canonical spelling, and every other text is refused. -/
theorem signature_unique {s : SessionService} {key : List UInt8}
    (hkey : Secret.key s.settings.secret = .ok key) :
    (∀ h q : List Char, '.' ∉ h → '.' ∉ q → ∀ sig sig' clock clock' machine machine',
      machine.StopsAt h → machine'.StopsAt h →
      ¬ IsRefusal (s.verify clock machine (String.ofList (Signed.joined h q sig))) →
      ¬ IsRefusal (s.verify clock' machine' (String.ofList (Signed.joined h q sig'))) →
      sig = sig') ∧
    (∀ token clock machine,
      (∃ k, s.verify clock machine token = .ok k) ∨
        s.verify clock machine token = .error (.service .tokenExpired) →
      ∃ h q sig, token = String.ofList (Signed.joined h q sig) ∧ '.' ∉ h ∧ '.' ∉ q ∧ '.' ∉ sig ∧
        ∀ other ≠ sig, ∀ clock' machine',
          IsRefusal (s.verify clock' machine' (String.ofList (Signed.joined h q other)))) ∧
    (∀ h q : List Char, '.' ∉ h → '.' ∉ q → ∀ machine, ¬ machine.StopsAt h → ∀ clock,
      (∀ bytes, s.verify clock machine
        (String.ofList (Signed.joined h q (Base64Url.encode bytes))) = .error .tooDeep) ∧
      ∀ sig, (∀ bytes, sig ≠ Base64Url.encode bytes) →
        IsRefusal (s.verify clock machine (String.ofList (Signed.joined h q sig)))) := by
  refine ⟨?_, ?_, ?_⟩
  · intro h q hh hq sig sig' clock clock' machine machine' hstops hstops' hsig hsig'
    rw [eq_signature_of_not_isRefusal hkey hh hq hstops hsig,
      eq_signature_of_not_isRefusal hkey hh hq hstops' hsig']
  · intro token clock machine haccepted
    obtain ⟨h, q, hsegs, hheader⟩ := segments_of_accepted hkey haccepted
    obtain ⟨htoken, hh, hq, hsig⟩ := Signed.segments_eq_three_iff.mp hsegs
    refine ⟨h, q, _, by rw [← htoken, String.ofList_toList], hh, hq, hsig, ?_⟩
    intro other hother clock' machine'
    by_contra hr'
    exact hother (eq_signature_of_not_isRefusal hkey hh hq (.inr hheader) hr')
  · intro h q hh hq machine hlets clock
    refine ⟨fun bytes => verify_of_not_stopsAt hkey hh hq hlets bytes clock, ?_⟩
    intro sig hsig
    by_contra hr
    obtain ⟨bytes, hbytes, -⟩ := signature_of_not_isRefusal hkey hh hq hr
    exact hsig bytes hbytes

/-- A token issued under the usual settings, with any other text in place of its signature. -/
theorem signature_unique_usual :
    ∃ key token h q sig, Secret.key (SessionSettings.usual "hunter2").secret = .ok key ∧
      SessionService.issue ⟨.usual "hunter2"⟩ ⟨0, some 0⟩
        ⟨"user-1", "a@example.com", ["user"], by decide⟩ = .ok token ∧
      token = String.ofList (Signed.joined h q sig) ∧
      ∀ other ≠ sig, ∀ clock machine, IsRefusal (SessionService.verify ⟨.usual "hunter2"⟩
        clock machine (String.ofList (Signed.joined h q other))) := by
  have hkey : Secret.key "hunter2" = .ok (Utf8.ofString "hunter2") :=
    Secret.key_eq_ok_iff.mpr ⟨by decide +kernel, by decide +kernel, rfl⟩
  obtain ⟨token, k, hissue, hverify⟩ :=
    exists_accepted_usual hkey ⟨"user-1", "a@example.com", ["user"], by decide⟩
  obtain ⟨h, q, sig, htoken, -, -, -, hrefused⟩ :=
    (signature_unique (s := ⟨.usual "hunter2"⟩) hkey).2.1 token _ _ (Or.inl ⟨k, hverify⟩)
  exact ⟨_, token, h, q, sig, hkey, hissue, htoken, hrefused⟩

end SessionService

end IdentityService
