import IdentityService.Proofs.Json.RoundTrip
import IdentityService.Proofs.Session.Verification

/-!
# Issued Tokens Are Read Back

Every layer of a written token is read back by the layer of the reader that stands
against it: the segments, their bytes, the objects in them, the claims.  Verification of
an issued token therefore comes down to its two moments.

## Main statements

- `Signed.segments_write`: the segments of a written token.
- `SessionPayload.ofFields_fields`: a written payload is in order.
- `SessionService.verify_issued`: verification of an issued token.
-/

namespace IdentityService

/-! ## §1 Segments of a written token -/

namespace Signed

theorem point_notMem_encode (bytes : List UInt8) : '.' ∉ Base64Url.encode bytes := by
  intro hmem
  exact (Base64Url.ne_of_inAlphabet (Base64Url.inAlphabet_of_mem_encode hmem)).2.1 rfl

/-- **Segments.** A written token is its header, its payload and the signature of both. -/
theorem segments_write (key : List UInt8) (payload : Json) :
    segments (write key payload) = [segment header.compact, segment payload.compact,
      signature key (segment header.compact) (segment payload.compact)] :=
  segments_eq_three_iff.mpr
    ⟨rfl, point_notMem_encode _, point_notMem_encode _, point_notMem_encode _⟩

/-- The segment of a regular object spells this object. -/
theorem spells_segment {fs : Fields} (hne : fs ≠ [])
    (h : Json.isRegular Json.maxDepth (.object fs) = true) :
    Spells (segment (Json.compact (.object fs))) fs :=
  ⟨_, Base64Url.decode?_encode _, Json.ofBytes_compact hne h⟩

theorem spells_header : Spells (segment header.compact) headerFields :=
  spells_segment (by decide) (by decide)

theorem get?_headerFields_alg : headerFields.get? "alg" = some (.text algorithm) := by
  decide

theorem checkExtensions_headerFields : checkExtensions headerFields = .ok () := by
  decide

end Signed

/-! ## §2 The claims of a written payload -/

namespace SessionPayload

theorem carries_fields {p : SessionPayload} (h : p.sub ≠ "") : Carries p.fields p where
  sub := by simp [fields, Assoc.get?_cons]
  sub_ne := h
  email := by simp [fields, Assoc.get?_cons]
  roles := Or.inl (by simp [fields, Assoc.get?_cons])
  iat := ⟨.int p.iat, by simp [fields, Assoc.get?_cons], Schema.integer_int _⟩
  exp := ⟨.int p.exp, by simp [fields, Assoc.get?_cons], Schema.integer_int _⟩
  iss := by simp [fields, Assoc.get?_cons]
  aud := by simp [fields, Assoc.get?_cons]

/-- A written payload holds strings and integers, and one list of strings. -/
theorem isRegular_fields (p : SessionPayload) :
    Json.isRegular Json.maxDepth (.object p.fields) = true := by
  have hemail : Json.isRegular 989 (.raw p.email) = true := Json.isRegular_raw 989 p.email
  have hroles : Json.isRegular 989 (.ofRaws p.roles) = true := Json.areRegular_raws 988 p.roles
  have hfields : Json.areRegularFields 989 p.fields = true := by
    simp [fields, Json.areRegularFields, Json.isRegular, hemail, hroles]
  exact hfields

theorem spells_fields (p : SessionPayload) :
    Signed.Spells (Signed.segment p.toJson.compact) p.fields :=
  Signed.spells_segment (by simp [fields]) p.isRegular_fields

/-- **Claims.** The claims of a written payload are in order for its own issuer and audience,
whatever the time of the machine. -/
theorem ofFields_fields {p : SessionPayload} (hsub : p.sub ≠ "") (haud : p.aud ≠ "")
    (machineTime : Int) : ofFields p.fields p.iss p.aud machineTime = .ok p := by
  have hbefore : p.fields.get? "nbf" = none := by
    simp [fields, Assoc.get?_cons, Assoc.get?_nil]
  have hid : p.fields.get? "jti" = none := by
    simp [fields, Assoc.get?_cons, Assoc.get?_nil]
  rw [ofFields_eq_ok_iff]
  refine ⟨carries_fields hsub, rfl, rfl, haud, ?_, ?_⟩
  · rw [checkNotBefore, hbefore]
  · rw [checkText, hid]

end SessionPayload

/-! ## §3 Issuing -/

namespace SessionService

variable {s : SessionService} {t e : Moment} {subject : TokenSubject} {token : String}
  {p : SessionPayload}

theorem payloadIn_eq_ok_iff {zone : Int → Option Int} :
    s.payloadIn zone t subject = .ok p ↔
      ∃ e, t.truncated.addIn? zone s.settings.expiry = some e ∧
        p = ⟨subject.subject, subject.email, subject.roles, t.truncated.timestamp, e.timestamp,
          s.settings.issuer, s.settings.audience⟩ := by
  simp only [payloadIn]
  cases t.truncated.addIn? zone s.settings.expiry with
  | none => simp
  | some e => simp [eq_comm]

theorem payloadAt_eq_ok_iff :
    s.payloadAt t subject = .ok p ↔
      ∃ e, t.truncated.add? s.settings.expiry = some e ∧
        p = ⟨subject.subject, subject.email, subject.roles, t.truncated.timestamp, e.timestamp,
          s.settings.issuer, s.settings.audience⟩ := by
  have hfixed : t.truncated.addIn? (fun _ => t.offset) s.settings.expiry
      = t.truncated.add? s.settings.expiry := t.truncated.addIn?_fixed _
  rw [payloadAt, payloadIn_eq_ok_iff, hfixed]

theorem payloadAt_of_none (h : t.truncated.add? s.settings.expiry = none) (subject : TokenSubject) :
    s.payloadAt t subject = .error .overflow := by
  have hfixed : t.truncated.addIn? (fun _ => t.offset) s.settings.expiry = none :=
    (t.truncated.addIn?_fixed _).trans h
  rw [payloadAt, payloadIn, hfixed]

theorem issueIn_eq_ok_iff {zone : Int → Option Int} :
    s.issueIn zone t subject = .ok token ↔
      ∃ p key, s.payloadIn zone t subject = .ok p ∧ Secret.key s.settings.secret = .ok key ∧
        token = String.ofList (Signed.write key p.toJson) := by
  simp only [issueIn, bind_eq_ok_iff, Except.ok.injEq]
  constructor
  · rintro ⟨p, hp, key, hkey, rfl⟩
    exact ⟨p, key, hp, hkey, rfl⟩
  · rintro ⟨p, key, hp, hkey, rfl⟩
    exact ⟨p, hp, key, hkey, rfl⟩

/-- Issuing for a clock of one offset, step by step. -/
theorem issue_eq (s : SessionService) (t : Moment) (subject : TokenSubject) :
    s.issue t subject = s.payloadAt t subject >>= fun p =>
      Secret.key s.settings.secret >>= fun key =>
        .ok (String.ofList (Signed.write key p.toJson)) := rfl

theorem issue_eq_ok_iff :
    s.issue t subject = .ok token ↔
      ∃ p key, s.payloadAt t subject = .ok p ∧ Secret.key s.settings.secret = .ok key ∧
        token = String.ofList (Signed.write key p.toJson) :=
  issueIn_eq_ok_iff

theorem exists_issue {key : List UInt8} (he : t.truncated.add? s.settings.expiry = some e)
    (hkey : Secret.key s.settings.secret = .ok key) (subject : TokenSubject) :
    ∃ token, s.issue t subject = .ok token :=
  ⟨_, issue_eq_ok_iff.mpr ⟨_, key, payloadAt_eq_ok_iff.mpr ⟨e, he, rfl⟩, hkey, rfl⟩⟩

/-- **Reading back.** What is written with the secret of a service, for its issuer and its
audience, has the payload that was written. -/
theorem payloadOf_write {key : List UInt8} (hkey : Secret.key s.settings.secret = .ok key)
    (hsub : p.sub ≠ "") (haud : p.aud ≠ "") (hissuer : p.iss = s.settings.issuer)
    (haudience : p.aud = s.settings.audience) (machine : Machine) :
    s.payloadOf machine (Signed.write key p.toJson) = .ok p := by
  rw [payloadOf_eq_ok_iff, ← hissuer, ← haudience]
  exact ⟨key, _, _, Signed.headerFields, _, hkey, Signed.segments_write key _,
    Signed.spells_header, SessionPayload.spells_fields _, Signed.get?_headerFields_alg,
    Signed.checkExtensions_headerFields, SessionPayload.ofFields_fields hsub haud machine.time⟩

/-- The payload of an issued token is the payload that was written. -/
theorem payloadOf_issuedIn {zone : Int → Option Int} (haudience : s.settings.audience ≠ "")
    (hp : s.payloadIn zone t subject = .ok p) (hissue : s.issueIn zone t subject = .ok token)
    (machine : Machine) : s.payloadOf machine token.toList = .ok p := by
  obtain ⟨p', key, hp', hkey, rfl⟩ := issueIn_eq_ok_iff.mp hissue
  obtain rfl : p = p' := by
    rw [hp, Except.ok.injEq] at hp'
    exact hp'
  obtain ⟨e, -, rfl⟩ := payloadIn_eq_ok_iff.mp hp
  rw [String.toList_ofList]
  exact payloadOf_write hkey subject.subject_ne haudience rfl rfl machine

theorem payloadOf_issued (haudience : s.settings.audience ≠ "")
    (hp : s.payloadAt t subject = .ok p) (hissue : s.issue t subject = .ok token)
    (machine : Machine) : s.payloadOf machine token.toList = .ok p :=
  payloadOf_issuedIn haudience hp hissue machine

theorem written_ne_empty (key : List UInt8) (payload : Json) :
    String.ofList (Signed.write key payload) ≠ "" := by
  intro hempty
  have hlist := congrArg String.toList hempty
  rw [String.toList_ofList] at hlist
  exact absurd hlist (by simp [Signed.write])

/-- **Verification of an issued token.** It comes down to the two moments of the payload. -/
theorem verify_issued (haudience : s.settings.audience ≠ "")
    (hp : s.payloadAt t subject = .ok p) (hissue : s.issue t subject = .ok token)
    (clock : Moment) (machine : Machine) :
    s.verify clock machine token = claimsAt clock p := by
  have hne : token ≠ "" := by
    obtain ⟨_, _, -, -, rfl⟩ := issue_eq_ok_iff.mp hissue
    exact written_ne_empty _ _
  rw [verify, if_neg (by simpa using hne), payloadOf_issued haudience hp hissue]
  rfl

/-- **Acceptance of an issued token.** When its two recorded moments exist, an issued token is
accepted up to the second of them, with what was written into it. -/
theorem verify_issued_eq_ok (haudience : s.settings.audience ≠ "")
    (he : t.truncated.add? s.settings.expiry = some e) (hissue : s.issue t subject = .ok token)
    (hiat : Moment.inRange (t.truncated.timestamp * 1000000) = true)
    (hexp : Moment.inRange (e.timestamp * 1000000) = true) {clock : Moment}
    (hzone : clock.offset.isSome) (hle : clock.instant ≤ e.timestamp * 1000000)
    (machine : Machine) :
    s.verify clock machine token =
      .ok ⟨subject.subject, subject.email, subject.roles,
        ⟨t.truncated.timestamp * 1000000, some 0⟩, ⟨e.timestamp * 1000000, some 0⟩,
        s.settings.issuer, s.settings.audience⟩ := by
  rw [verify_issued haudience (payloadAt_eq_ok_iff.mpr ⟨e, he, rfl⟩) hissue,
    claimsAt_eq_ok_iff]
  exact ⟨hiat, hexp, hzone, hle, rfl⟩

/-- Under the usual settings, with any secret that may serve, a token issued at the start of
1970 is accepted at once. -/
theorem exists_accepted_usual {secret : String} {key : List UInt8}
    (hkey : Secret.key secret = .ok key) (subject : TokenSubject) :
    ∃ token k, issue ⟨.usual secret⟩ ⟨0, some 0⟩ subject = .ok token ∧
      verify ⟨.usual secret⟩ ⟨0, some 0⟩ ⟨0, true⟩ token = .ok k := by
  have he : (Moment.truncated ⟨0, some 0⟩).add? (.ofDays 7) = some ⟨604800000000, some 0⟩ := by
    decide
  have hzone : (⟨0, some 0⟩ : Moment).offset.isSome := rfl
  obtain ⟨token, hissue⟩ := exists_issue (s := ⟨.usual secret⟩) he hkey subject
  have haudience : (SessionSettings.usual secret).audience ≠ "" := by
    simp [SessionSettings.usual]
  exact ⟨token, _, hissue,
    verify_issued_eq_ok haudience he hissue (by decide) (by decide) hzone (by decide) ⟨0, true⟩⟩

end SessionService

end IdentityService
