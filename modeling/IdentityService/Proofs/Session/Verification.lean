import IdentityService.Proofs.Calendar.Timestamp
import IdentityService.Proofs.Session.Segments
import IdentityService.Session.Token

/-!
# When Verification Succeeds

Each step of verification succeeds under a condition on the texts of the token.  The
steps together give the exact condition under which a token is accepted, and the claims
that it then yields.

## Main statements

- `SessionPayload.ofFields_eq_ok_iff`: the payloads whose claims are in order.
- `SessionService.payloadOf_eq_ok_iff`: the tokens whose signature and claims are in order.
- `SessionService.payloadOf_eq_tooDeep_iff`: the tokens whose depth gets past the library.
- `SessionService.onlyFaults_payloadOf`: up to its payload, nothing else than a refusal can stop
  the other tokens.
- `SessionService.claimsAt_eq_ok_iff`: the payloads that are accepted at a reading of the
  clock.
-/

namespace IdentityService

/-! ## §1 The claims of a payload -/

namespace SessionPayload

/-- A record carries a payload: every claim stands in it under its name. -/
structure Carries (fs : Fields) (p : SessionPayload) : Prop where
  sub : fs.get? "sub" = some (.text p.sub)
  sub_ne : p.sub ≠ ""
  email : fs.get? "email" = some (.raw p.email)
  roles : fs.get? "roles" = some (.ofRaws p.roles) ∨ fs.get? "roles" = none ∧ p.roles = []
  iat : ∃ v, fs.get? "iat" = some v ∧ Schema.integer v = .ok p.iat
  exp : ∃ v, fs.get? "exp" = some v ∧ Schema.integer v = .ok p.exp
  iss : fs.get? "iss" = some (.text p.iss)
  aud : fs.get? "aud" = some (.text p.aud)

/-- **Reading.** A payload is read from the records that carry it. -/
theorem read_eq_ok_iff {fs : Fields} {p : SessionPayload} : read fs = .ok p ↔ Carries fs p := by
  simp only [read, Checked.seq_eq_ok_iff, Checked.map_eq_ok_iff, Schema.required_eq_ok_iff,
    Schema.withDefault_eq_ok_iff, Schema.nonEmptyText_eq_ok_iff, Schema.text_eq_ok_iff,
    Schema.plainText_eq_ok_iff, Schema.list_text_eq_ok_iff]
  -- the fields are peeled off from the last to the first
  constructor
  · rintro ⟨_, aud, ⟨_, iss, ⟨_, exp, ⟨_, iat, ⟨_, roles, ⟨_, email, ⟨sub, ⟨_, hsub, rfl, hne⟩,
      rfl⟩, ⟨_, hemail, rfl⟩, rfl⟩, hroles, rfl⟩, hiat, rfl⟩, hexp, rfl⟩, ⟨_, hiss, rfl⟩, rfl⟩,
      ⟨_, haud, rfl⟩, rfl⟩
    refine ⟨hsub, hne, hemail, ?_, hiat, hexp, hiss, haud⟩
    rcases hroles with ⟨_, hroles, rfl⟩ | hroles
    · exact Or.inl hroles
    · exact Or.inr hroles
  · rintro ⟨hsub, hne, hemail, hroles, hiat, hexp, hiss, haud⟩
    refine ⟨_, p.aud, ⟨_, p.iss, ⟨_, p.exp, ⟨_, p.iat, ⟨_, p.roles, ⟨_, p.email, ⟨p.sub,
      ⟨_, hsub, rfl, hne⟩, rfl⟩, ⟨_, hemail, rfl⟩, rfl⟩, ?_, rfl⟩, hiat, rfl⟩, hexp, rfl⟩,
      ⟨_, hiss, rfl⟩, rfl⟩, ⟨_, haud, rfl⟩, rfl⟩
    rcases hroles with hroles | hroles
    · exact Or.inl ⟨_, hroles, rfl⟩
    · exact Or.inr hroles

theorem not_lacks {fs : Fields} {name : String} {v : Json} (h : fs.get? name = some v)
    (hv : v ≠ .null) : lacks fs name = false := by
  rw [lacks, h]
  cases v with
  | null => exact absurd rfl hv
  | _ => rfl

private theorem ne_null_of_integer {v : Json} {n : Int} (h : Schema.integer v = .ok n) :
    v ≠ .null := by
  rintro rfl
  exact absurd h (by simp [Schema.integer, Checked.fail])

theorem Carries.checkRequired {fs : Fields} {p : SessionPayload} (h : Carries fs p) :
    checkRequired fs = .ok () := by
  obtain ⟨_, hiat, hiat_ok⟩ := h.iat
  obtain ⟨_, hexp, hexp_ok⟩ := h.exp
  have hfind : requiredClaims.find? (lacks fs) = none := by
    simp [requiredClaims, not_lacks h.sub, not_lacks h.email (Json.raw_ne_null _),
      not_lacks h.iss, not_lacks h.aud, not_lacks hiat (ne_null_of_integer hiat_ok),
      not_lacks hexp (ne_null_of_integer hexp_ok)]
  rw [SessionPayload.checkRequired, hfind]

theorem checkIssuer_eq_ok_iff {fs : Fields} {issuer : String} :
    checkIssuer fs issuer = .ok () ↔ fs.get? "iss" = some (.text issuer) := by
  rw [checkIssuer]
  cases fs.get? "iss" with
  | none => simp
  | some v => cases v <;> simp

/-- A text in place of the audience must be the audience, which must not be empty. -/
theorem checkAudience_eq_ok_iff {fs : Fields} {a audience : String}
    (h : fs.get? "aud" = some (.text a)) :
    checkAudience fs audience = .ok () ↔ a = audience ∧ a ≠ "" := by
  rw [checkAudience, h]
  by_cases ha : a = ""
  · simp [ha, Json.isEmptyValue]
  · by_cases haud : a = audience <;>
      simp [Json.isEmptyValue, Json.isString, Json.raw?, String.isEmpty_iff, ha, haud]

theorem checkText_eq_ok {fs : Fields} {name s : String} {fault : TokenFault}
    (h : fs.get? name = some (.text s)) : checkText fs name fault = .ok () := by
  rw [checkText, h]
  rfl

/-- **Claims in order.** The record carries the payload, issuer and audience are those that
are asked for, the audience is not empty, and neither of the two further claims that are
looked at speaks against it. -/
theorem ofFields_eq_ok_iff {fs : Fields} {issuer audience : String} {machineTime : Int}
    {p : SessionPayload} :
    ofFields fs issuer audience machineTime = .ok p ↔
      Carries fs p ∧ p.iss = issuer ∧ p.aud = audience ∧ p.aud ≠ "" ∧
        checkNotBefore fs machineTime = .ok () ∧ checkText fs "jti" .tokenIdNotText = .ok () := by
  simp only [ofFields, checkClaims, bind_eq_ok_iff]
  constructor
  · rintro ⟨_, ⟨_, -, _, hbefore, _, hiss, _, haud, _, -, hid⟩, hread⟩
    -- the record is read last, and decides that the audience is a single text
    have hcarries : Carries fs p := by
      rw [← read_eq_ok_iff]
      split at hread
      · rename_i hok
        rw [hok, Except.ok.inj hread]
      · exact absurd hread (by simp)
    rw [checkAudience_eq_ok_iff hcarries.aud] at haud
    rw [checkIssuer_eq_ok_iff, hcarries.iss, Option.some.injEq, Json.text.injEq] at hiss
    exact ⟨hcarries, hiss, haud.1, haud.2, hbefore, hid⟩
  · rintro ⟨hcarries, rfl, haud, hne, hbefore, hid⟩
    refine ⟨(), ⟨(), hcarries.checkRequired, (), hbefore, (),
      checkIssuer_eq_ok_iff.mpr hcarries.iss, (),
      (checkAudience_eq_ok_iff hcarries.aud).mpr ⟨haud, hne⟩, (), checkText_eq_ok hcarries.sub,
      hid⟩, ?_⟩
    rw [read_eq_ok_iff.mpr hcarries]

end SessionPayload

/-! ## §2 The service -/

/-- **Secrets.** A text may serve as a secret when it looks like no other kind of key, and the
key is its bytes. -/
theorem Secret.key_eq_ok_iff {s : String} {bytes : List UInt8} :
    Secret.key s = .ok bytes ↔
      (isArmoured s.toList || isShellKey s.toList || isBinaryKey (Utf8.ofString s)) = false ∧
        isWrittenKey (Utf8.ofString s) = false ∧ bytes = Utf8.ofString s := by
  simp only [Secret.key]
  split
  · rename_i hother
    simp [hother]
  · rename_i hother
    rw [Bool.not_eq_true] at hother
    split
    · rename_i hwritten
      simp [hwritten]
    · rename_i hwritten
      simp [hother, hwritten, eq_comm]

namespace SessionService

/-- **Signature and claims.** A text has a payload when it is a header, a payload segment and
the spelling of their digest, the header names the only algorithm and asks for nothing
unknown, and the claims in the payload segment are in order. -/
theorem payloadOf_eq_ok_iff {s : SessionService} {machine : Machine} {token : List Char}
    {p : SessionPayload} :
    s.payloadOf machine token = .ok p ↔
      ∃ key h q header payload, Secret.key s.settings.secret = .ok key ∧
        Signed.segments token = [h, q, Signed.signature key h q] ∧
        Signed.Spells h header ∧ Signed.Spells q payload ∧
        header.get? "alg" = some (.text Signed.algorithm) ∧
        Signed.checkExtensions header = .ok () ∧
        SessionPayload.ofFields payload s.settings.issuer s.settings.audience machine.time
          = .ok p := by
  simp only [payloadOf, bind_eq_ok_iff, TokenFault.refused_eq_ok_iff]
  constructor
  · rintro ⟨_, htext, ⟨header, bytes⟩, hsplit, key, hkey, _, hcheck, payload, hpayload, hclaims⟩
    obtain ⟨h, q, hsegs⟩ := Signed.signature_eq_of_checks htext hcheck
    rw [Signed.split_eq_ok_iff hsegs] at hsplit
    obtain ⟨hheader, hbytes, hext, halg⟩ := hsplit
    exact ⟨key, h, q, header, payload, hkey, hsegs, hheader,
      ⟨bytes, hbytes, Machine.readObject_eq_ok_iff.mp hpayload⟩, halg, hext, hclaims⟩
  · rintro ⟨key, h, q, header, payload, hkey, hsegs, hheader, ⟨bytes, hbytes, hpayload⟩, halg,
      hext, hclaims⟩
    exact ⟨(), Signed.checkSignatureText_eq_ok_iff.mpr ⟨h, q, _, hsegs⟩, (header, bytes),
      (Signed.split_eq_ok_iff hsegs).mpr ⟨hheader, hbytes, hext, halg⟩, key, hkey, (),
      Signed.checkSignature_signature hsegs, payload, Machine.readObject_eq_ok_iff.mpr hpayload,
      hclaims⟩

/-- Opening a token under a key meets a text that is too deep before anything refuses the token:
the signature is spelled canonically and the header is too deep, or the signature is right, the
header is in order, and the payload is too deep. -/
inductive MeetsDepth (key : List UInt8) (token : List Char) : Prop
  | header (h q : List Char) (bytes : List UInt8)
      (segments_eq : Signed.segments token = [h, q, Base64Url.encode bytes])
      (deep : Signed.IsTooDeep h)
  | payload (h q : List Char) (header : Fields)
      (segments_eq : Signed.segments token = [h, q, Signed.signature key h q])
      (spells : Signed.Spells h header)
      (algorithm : header.get? "alg" = some (.text Signed.algorithm))
      (extensions : Signed.checkExtensions header = .ok ())
      (deep : Signed.IsTooDeep q)

variable {s : SessionService} {key : List UInt8} {machine : Machine} {token : List Char}

/-- **Depth.** The depth of a text in a token gets past the library where the library refuses
none and nothing else has refused the token before. -/
theorem payloadOf_eq_tooDeep_iff (hkey : Secret.key s.settings.secret = .ok key) :
    s.payloadOf machine token = .error .tooDeep ↔
      machine.refusesDepth = false ∧ MeetsDepth key token := by
  simp only [payloadOf, hkey, bind_eq_error_iff, TokenFault.refused_eq_ok_iff,
    TokenFault.refused_ne_tooDeep, false_or, and_false, exists_false, or_false, Except.ok.injEq,
    reduceCtorEq, Signed.readPayload, Machine.readObject_eq_tooDeep_iff]
  constructor
  · rintro ⟨_, htext, hdeep | ⟨⟨header, bytes⟩, hsplit, _, rfl, _, hcheck, hlets, hdeep⟩⟩
    · obtain ⟨h, q, bytes, hsegs⟩ := Signed.checkSignatureText_eq_ok_iff.mp htext
      have hnot := (Signed.split_eq_tooDeep_iff hsegs).mp hdeep
      obtain ⟨hlets, hdeep⟩ := Machine.not_stopsAt_iff.mp hnot
      exact ⟨hlets, .header h q bytes hsegs hdeep⟩
    · obtain ⟨h, q, hsegs⟩ := Signed.signature_eq_of_checks htext hcheck
      obtain ⟨hheader, hbytes, hext, halg⟩ := (Signed.split_eq_ok_iff hsegs).mp hsplit
      exact ⟨hlets, .payload h q header hsegs hheader halg hext ⟨bytes, hbytes, hdeep⟩⟩
  · rintro ⟨hlets, ⟨h, q, bytes, hsegs, hdeep⟩ |
      ⟨h, q, header, hsegs, hheader, halg, hext, bytes, hbytes, hdeep⟩⟩
    · exact ⟨(), Signed.checkSignatureText_eq_ok_iff.mpr ⟨h, q, bytes, hsegs⟩,
        .inl ((Signed.split_eq_tooDeep_iff hsegs).mpr
          (Machine.not_stopsAt_iff.mpr ⟨hlets, hdeep⟩))⟩
    · exact ⟨(), Signed.checkSignatureText_eq_ok_iff.mpr ⟨h, q, _, hsegs⟩,
        .inr ⟨(header, bytes), (Signed.split_eq_ok_iff hsegs).mpr ⟨hheader, hbytes, hext, halg⟩,
          key, rfl, (), Signed.checkSignature_signature hsegs, hlets, hdeep⟩⟩

/-- **Up to the payload.** With a secret that may serve, every step from the text of a token to
its payload can only refuse the token or let its depth through. -/
theorem onlyFaults_payloadOf (hkey : Secret.key s.settings.secret = .ok key) (machine : Machine)
    (token : List Char) :
    OnlyFaults (fun f => IsTokenFault f ∨ f = .tooDeep) (s.payloadOf machine token) := by
  have hrefused : ∀ {α : Type} (r : Except TokenFault α),
      OnlyFaults (fun f => IsTokenFault f ∨ f = .tooDeep) (TokenFault.refused r) :=
    fun r f hf => .inl (TokenFault.onlyFaults_refused r f hf)
  unfold payloadOf
  rw [hkey]
  -- every one of the five steps turns its own refusal into a fault of the token
  apply (hrefused _).bind
  intro _
  apply (Signed.onlyFaults_split machine token).bind
  rintro ⟨_, bytes⟩
  apply (hrefused _).bind
  intro _
  apply OnlyFaults.bind
  · intro f hf
    rcases Machine.readObject_eq_error hf with rfl | ⟨rfl, -⟩
    · exact .inl ⟨_, rfl⟩
    · exact .inr rfl
  · exact fun fields => hrefused _

theorem momentClaim_eq_ok_iff {seconds : Int} {m : Moment} :
    momentClaim seconds = .ok m ↔
      Moment.inRange (seconds * 1000000) = true ∧ m = ⟨seconds * 1000000, some 0⟩ := by
  rw [← Moment.ofTimestamp_eq_ok_iff, momentClaim]
  split
  · rename_i hread
    simp [hread]
  all_goals
    rename_i hread
    simp [hread]

/-- **Expiry.** A payload is accepted when its two moments exist and the clock, which must
know its offset, is not past the second of them. -/
theorem claimsAt_eq_ok_iff {clock : Moment} {p : SessionPayload} {k : SessionClaims} :
    claimsAt clock p = .ok k ↔
      Moment.inRange (p.iat * 1000000) = true ∧ Moment.inRange (p.exp * 1000000) = true ∧
        clock.offset.isSome ∧ clock.instant ≤ p.exp * 1000000 ∧
        k = ⟨p.sub, p.email, p.roles, ⟨p.iat * 1000000, some 0⟩, ⟨p.exp * 1000000, some 0⟩,
          p.iss, p.aud⟩ := by
  simp only [claimsAt, bind_eq_ok_iff, momentClaim_eq_ok_iff]
  have hinstant : (⟨p.exp * 1000000, some 0⟩ : Moment).instant = p.exp * 1000000 := by
    simp [Moment.instant]
  have hafter : clock.isAfter? ⟨p.exp * 1000000, some 0⟩ = some false ↔
      clock.offset.isSome = true ∧ clock.instant ≤ p.exp * 1000000 := by
    by_cases hzone : clock.offset.isSome <;> simp [Moment.isAfter?, hzone, hinstant]
  constructor
  · rintro ⟨_, ⟨hexp, rfl⟩, hrest⟩
    split at hrest
    · exact absurd hrest (by simp)
    · exact absurd hrest (by simp)
    · rename_i htime
      obtain ⟨hzone, hle⟩ := hafter.mp htime
      obtain ⟨_, hiat, hk⟩ := bind_eq_ok_iff.mp hrest
      obtain ⟨hrange, rfl⟩ := momentClaim_eq_ok_iff.mp hiat
      exact ⟨hrange, hexp, hzone, hle, (Except.ok.inj hk).symm⟩
  · rintro ⟨hiat, hexp, hzone, hle, rfl⟩
    refine ⟨_, ⟨hexp, rfl⟩, ?_⟩
    rw [hafter.mpr ⟨hzone, hle⟩]
    exact bind_eq_ok_iff.mpr ⟨_, momentClaim_eq_ok_iff.mpr ⟨hiat, rfl⟩, rfl⟩

theorem verify_eq_ok_iff {s : SessionService} {clock : Moment} {machine : Machine}
    {token : String} {k : SessionClaims} :
    s.verify clock machine token = .ok k ↔
      token ≠ "" ∧ ∃ p, s.payloadOf machine token.toList = .ok p ∧ claimsAt clock p = .ok k := by
  rw [verify]
  by_cases hempty : token = ""
  · simp [hempty]
  · rw [if_neg (by simpa using hempty), bind_eq_ok_iff]
    simp [hempty]

end SessionService

end IdentityService
