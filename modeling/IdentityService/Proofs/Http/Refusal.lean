import IdentityService.Proofs.Http.Plan
import IdentityService.Proofs.Provider.Verification
import IdentityService.Proofs.Session.Collapse
import IdentityService.Proofs.Session.RoundTrip
import IdentityService.Proofs.Text.LowerCase

/-!
# Refusals Look Alike

Why a request is not authenticated is nobody's business.  Whatever is wrong with the credentials,
and whatever the provider makes of them, the response is one and the same, the route does not run,
and nothing is asked of the store.

A session token is refused in the same way, unless it gets past the guards as a fault, which ends
in a breakdown of the server that no refusal looks like.  The expiry of a token is turned into a
moment before it is compared with the clock, and this fails where it lies outside the calendar; and
a text that is nested too deep may get past the library.

## Main definitions

- `Http.LacksCredentials`: a request without credentials.
- `Verifier.Refuses`: what makes a verifier refuse a token.
- `SessionService.Refuses`: what makes a session token refused.

## Main statements

- `Verifier.current_eq_unauthenticated_iff`: the requests that a verifier refuses.
- `SessionGuard.current_of_refuses`: the session tokens that are refused.
- `Application.refusals_alike`: the response to all of them.
- `Application.refusal_beyond_calendar`: an expired token that is answered otherwise.
-/

namespace IdentityService

open Http

/-! ## §1 Credentials -/

namespace Http

/-- The scheme of an authorization header: what stands before the first space. -/
def scheme (header : String) : String := String.ofList (header.toList.takeWhile (· != ' '))

/-- What stands behind the scheme. -/
def afterScheme (header : String) : String :=
  String.ofList ((header.toList.dropWhile (· != ' ')).drop 1)

theorem bearerIn?_eq_some_iff {header token : String} :
    bearerIn? header = some token ↔
      Text.lower (scheme header) = "bearer" ∧ Text.strip (afterScheme header) = token ∧
        token ≠ "" := by
  have hbearerIn : bearerIn? header =
      if Text.lower (scheme header) == "bearer" && !(Text.strip (afterScheme header)).isEmpty then
        some (Text.strip (afterScheme header))
      else none := rfl
  rw [hbearerIn]
  split
  · rename_i h
    simp only [Bool.and_eq_true, beq_iff_eq, Bool.not_eq_true', String.isEmpty_eq_false_iff] at h
    rw [Option.some.injEq]
    constructor
    · rintro rfl
      exact ⟨h.1, rfl, h.2⟩
    · exact fun htoken => htoken.2.1
  · rename_i h
    constructor
    · intro hnone
      exact absurd hnone (by simp)
    · rintro ⟨hscheme, rfl, hne⟩
      exact absurd (by simp [hscheme, String.isEmpty_eq_false_iff.mpr hne]) h

/-- A request lacks credentials: it has no authorization header, or one of another scheme, or one
with nothing but blanks behind the scheme. -/
inductive LacksCredentials (r : Request) : Prop
  | absent (h : r.header? "Authorization" = none)
  | other {value : String} (h : r.header? "Authorization" = some value)
      (hscheme : Text.lower (scheme value) ≠ "bearer")
  | blank {value : String} (h : r.header? "Authorization" = some value)
      (hblank : Text.strip (afterScheme value) = "")

theorem bearer?_eq_none_iff {r : Request} : bearer? r = none ↔ LacksCredentials r := by
  unfold bearer?
  cases hheader : r.header? "Authorization" with
  | none => exact ⟨fun _ => .absent hheader, fun _ => rfl⟩
  | some value =>
    rw [Option.bind_some, Option.eq_none_iff_forall_ne_some]
    constructor
    · intro hnone
      by_cases hscheme : Text.lower (scheme value) = "bearer"
      · by_cases hblank : Text.strip (afterScheme value) = ""
        · exact .blank hheader hblank
        · exact absurd (bearerIn?_eq_some_iff.mpr ⟨hscheme, rfl, hblank⟩) (hnone _)
      · exact .other hheader hscheme
    · intro hlacks token htoken
      obtain ⟨hscheme, htrimmed, hne⟩ := bearerIn?_eq_some_iff.mp htoken
      cases hlacks with
      | absent h => exact absurd (hheader.symm.trans h) (by simp)
      | other h hother =>
        obtain rfl := Option.some.inj (hheader.symm.trans h)
        exact hother hscheme
      | blank h hblank =>
        obtain rfl := Option.some.inj (hheader.symm.trans h)
        exact hne (htrimmed.symm.trans hblank)

/-- A text that blanks do not surround is the credentials of its header. -/
theorem bearerIn?_bearer {token : String} (htrimmed : Text.Trimmed token.toList)
    (hne : token ≠ "") : bearerIn? ("Bearer " ++ token) = some token := by
  have htoList : ("Bearer " ++ token).toList = "Bearer".toList ++ ' ' :: token.toList := by
    rw [String.toList_append]
    rfl
  have hscheme : scheme ("Bearer " ++ token) = "Bearer" := by
    rw [scheme, htoList]
    rfl
  have hafter : afterScheme ("Bearer " ++ token) = token := by
    rw [afterScheme, htoList]
    exact String.ofList_toList
  refine bearerIn?_eq_some_iff.mpr ⟨?_, ?_, hne⟩
  · rw [hscheme]
    decide
  · rw [hafter, Text.strip, Text.trim_of_trimmed htrimmed, String.ofList_toList]

end Http

/-! ## §2 Provider tokens -/

namespace Verifier

variable {v : Verifier} {token : String}

/-- A verifier refuses a token: the verification ends without a principal, because the time limit is
over before the call begins, because the client does not answer in time or fails, or because it
returns claims without a usable principal. -/
def Refuses (v : Verifier) (token : String) : Prop :=
  ∃ reason : VerificationReason, v.Ends token (.error reason)

theorem current_of_refuses (h : v.Refuses token) :
    v.current (some token) = .error .unauthenticated := by
  obtain ⟨reason, hends⟩ := h
  rw [current, hends.verifyOrNone_eq]
  rfl

theorem refuses_of_current (h : v.current (some token) = .error .unauthenticated) :
    v.Refuses token := by
  by_cases hproper : v.calls token = true → (v.client token).IsProper
  · obtain ⟨ending, hends⟩ := exists_ends hproper
    cases ending with
    | error reason => exact ⟨reason, hends⟩
    | ok p =>
      rw [current, hends.verifyOrNone_eq] at h
      exact absurd (id h : Except.ok p = Except.error _) (by simp)
  · -- a client that misbehaves ends the request with another fault
    simp only [Classical.not_imp] at hproper
    obtain ⟨hcalls, himproper⟩ := hproper
    obtain ⟨f, hf, hother⟩ := exists_error_of_improper hcalls himproper
    rw [current, verifyOrNone, hf, error_bind, error_bind] at h
    exact absurd (Except.error.inj h) hother

/-- **Refused requests.** A verifier refuses the requests without credentials, and those whose
token it refuses. -/
theorem current_eq_unauthenticated_iff {r : Request} :
    v.current (bearer? r) = .error .unauthenticated ↔
      LacksCredentials r ∨ ∃ token, bearer? r = some token ∧ v.Refuses token := by
  rw [← bearer?_eq_none_iff]
  cases hbearer : bearer? r with
  | none => exact ⟨fun _ => .inl rfl, fun _ => rfl⟩
  | some token =>
    constructor
    · intro hcurrent
      exact .inr ⟨token, rfl, refuses_of_current hcurrent⟩
    · rintro (hnone | ⟨token', htoken, hrefuses⟩)
      · exact absurd hnone (by simp)
      · obtain rfl := Option.some.inj htoken
        exact current_of_refuses hrefuses

end Verifier

/-! ## §3 Session tokens -/

namespace SessionService

variable {s issuer : SessionService} {key : List UInt8} {machine : Machine} {token : String}
  {zone : Int → Option Int} {t clock : Moment} {subject : TokenSubject} {p p' : SessionPayload}

/-- A payload that is read from an issued token is the one that was written, for the issuer and the
audience that are asked for. -/
theorem payload_of_issued (hissue : issuer.issueIn zone t subject = .ok token)
    (hpayload : issuer.payloadIn zone t subject = .ok p)
    (hread : s.payloadOf machine token.toList = .ok p') :
    p' = p ∧ issuer.settings.issuer = s.settings.issuer ∧
      issuer.settings.audience = s.settings.audience := by
  obtain ⟨p₀, key, hpayload₀, -, rfl⟩ := issueIn_eq_ok_iff.mp hissue
  obtain rfl := Except.ok.inj (hpayload.symm.trans hpayload₀)
  obtain ⟨_, _, q, _, fields, -, hsegs, -, hspells, -, -, hclaims⟩ := payloadOf_eq_ok_iff.mp hread
  -- the payload segment spells one object only
  obtain rfl : fields = p.fields := by
    rw [String.toList_ofList, Signed.segments_write] at hsegs
    obtain ⟨-, rfl, -⟩ : _ ∧ Signed.segment p.toJson.compact = q ∧ _ := by simpa using hsegs
    exact hspells.unique p.spells_fields
  obtain ⟨e, -, hp⟩ := payloadIn_eq_ok_iff.mp hpayload
  have hsub : p.sub ≠ "" := by
    rw [hp]
    exact subject.subject_ne
  obtain ⟨hcarries, hissuer, haudience, -⟩ := SessionPayload.ofFields_eq_ok_iff.mp hclaims
  obtain rfl : p' = p := by
    have hsame := (SessionPayload.read_eq_ok_iff.mpr hcarries).symm.trans
      (SessionPayload.read_eq_ok_iff.mpr (SessionPayload.carries_fields hsub))
    exact Checked.ok.inj hsame
  rw [hp] at hissuer haudience
  exact ⟨rfl, hissuer, haudience⟩

/-- No segment of an issued token is too deep. -/
theorem not_meetsDepth_of_issued (hissue : issuer.issueIn zone t subject = .ok token)
    (key : List UInt8) : ¬ MeetsDepth key token.toList := by
  obtain ⟨p, key', -, -, rfl⟩ := issueIn_eq_ok_iff.mp hissue
  rw [String.toList_ofList]
  rintro (⟨h, q, bytes, hsegs, hdeep⟩ | ⟨h, q, header, hsegs, -, -, -, hdeep⟩)
  · rw [Signed.segments_write] at hsegs
    obtain ⟨rfl, -⟩ := List.cons.inj hsegs
    exact Signed.spells_header.not_isTooDeep hdeep
  · rw [Signed.segments_write] at hsegs
    obtain ⟨-, hsegs⟩ := List.cons.inj hsegs
    obtain ⟨rfl, -⟩ := List.cons.inj hsegs
    exact p.spells_fields.not_isTooDeep hdeep

theorem isBlank_of_inAlphabet {c : Char} (h : Base64Url.inAlphabet c = true) :
    Text.isBlank c = false := by
  obtain ⟨n, hn⟩ := Option.isSome_iff_exists.mp h
  obtain ⟨hlt, rfl⟩ := Base64Url.letter_of_sextet? hn
  have hall : ∀ n < 64, Text.isBlank (Base64Url.letter n) = false := by decide
  exact hall n hlt

/-- An issued token is not surrounded by blanks, for there are none in it. -/
theorem trimmed_of_issue (hissue : s.issue t subject = .ok token) :
    Text.Trimmed token.toList := by
  obtain ⟨h, q, sig, htoken, ⟨-, hh⟩, ⟨-, hq⟩, -, hsig⟩ := exists_segments_of_issue hissue
  have hall : ∀ c ∈ token.toList, Text.isBlank c = false := by
    intro c hc
    simp only [htoken, Signed.joined, List.mem_append, List.mem_cons] at hc
    rcases hc with (hc | rfl | hc) | rfl | hc
    · exact isBlank_of_inAlphabet (hh c hc)
    · decide
    · exact isBlank_of_inAlphabet (hq c hc)
    · decide
    · exact isBlank_of_inAlphabet (hsig c hc)
  constructor
  · intro c hc
    exact hall c (List.mem_of_mem_head? hc)
  · intro c hc
    exact hall c (List.mem_of_getLast? hc)

theorem ne_empty_of_issue (hissue : s.issueIn zone t subject = .ok token) : token ≠ "" := by
  obtain ⟨_, _, -, -, rfl⟩ := issueIn_eq_ok_iff.mp hissue
  exact written_ne_empty _ _

/-- An issued token is the credentials of a request that bears it. -/
theorem bearer?_of_issue (hissue : s.issue t subject = .ok token) {r : Request}
    (hheader : r.header? "Authorization" = some ("Bearer " ++ token)) :
    bearer? r = some token := by
  rw [bearer?, hheader, Option.bind_some]
  exact bearerIn?_bearer (trimmed_of_issue hissue) (ne_empty_of_issue hissue)

/-- What makes a session token refused: it is not signed under the key of the service, and no depth
in it gets past the library; or it was issued, by this service or another one and in whatever zone,
for another issuer or another audience; or it was issued and has expired, with an expiry in the
calendar. -/
inductive Refuses (s : SessionService) (key : List UInt8) (clock : Moment) (machine : Machine)
    (token : String) : Prop
  | unsigned
      (h : ∀ h q, Signed.segments token.toList ≠ [h, q, Signed.signature key h q])
      (hstops : machine.refusesDepth = true ∨ ¬ MeetsDepth key token.toList)
  | foreign {issuer : SessionService} {zone : Int → Option Int} {t : Moment}
      {subject : TokenSubject} (hissue : issuer.issueIn zone t subject = .ok token)
      (hother : issuer.settings.issuer ≠ s.settings.issuer ∨
        issuer.settings.audience ≠ s.settings.audience)
  | expired {issuer : SessionService} {zone : Int → Option Int} {t : Moment}
      {subject : TokenSubject} {p : SessionPayload}
      (hissue : issuer.issueIn zone t subject = .ok token)
      (hpayload : issuer.payloadIn zone t subject = .ok p)
      (hzone : clock.offset.isSome) (hpast : p.exp * 1000000 < clock.instant)
      (hcalendar : Moment.inRange (p.exp * 1000000) = true)

end SessionService

namespace SessionGuard

open SessionService (Defeats MeetsDepth)

variable {s : SessionService} {key : List UInt8} {clock : Moment} {machine : Machine}
  {token : String}

theorem collapse_eq_ok_iff {α : Type} {r : Outcome α} {a : α} :
    collapse r = .ok a ↔ r = .ok a := by
  unfold collapse
  split
  · split <;> simp
  · rfl

/-- A token without a payload in order is refused, unless its depth gets past the library. -/
theorem decode_of_no_payload (hkey : Secret.key s.settings.secret = .ok key)
    (hstops : machine.refusesDepth = true ∨ ¬ MeetsDepth key token.toList)
    (h : ∀ p, s.payloadOf machine token.toList ≠ .ok p) :
    decode s clock machine token = .error .unauthenticated := by
  have hsound : ¬ Escapes s key clock machine token := by
    rintro (⟨p, hp, -⟩ | ⟨hlets, hmeets⟩)
    · exact h p hp
    · rcases hstops with hrefuses | hshallow
      · exact absurd hlets (by simp [hrefuses])
      · exact hshallow hmeets
  rcases decode_of_not_escapes hkey hsound with ⟨k, hk⟩ | hrefused
  · -- an accepted token has a payload
    obtain ⟨-, p, hp, -⟩ := SessionService.verify_eq_ok_iff.mp (collapse_eq_ok_iff.mp hk)
    exact absurd hp (h p)
  · exact hrefused

/-- A token whose payload has expired is refused, if the expiry lies in the calendar. -/
theorem decode_of_expired {p : SessionPayload}
    (hp : s.payloadOf machine token.toList = .ok p) (hne : token ≠ "")
    (hzone : clock.offset.isSome) (hpast : p.exp * 1000000 < clock.instant)
    (hcalendar : Moment.inRange (p.exp * 1000000) = true) :
    decode s clock machine token = .error .unauthenticated := by
  have hclock : clock.offset ≠ none := Option.isSome_iff_ne_none.mp hzone
  unfold decode SessionService.verify
  rw [if_neg (by simpa using hne), hp, ok_bind, SessionService.claimsAt_of_expiry hcalendar,
    if_neg hclock, if_pos hpast]
  rfl

/-- **Refused tokens.** Whatever makes a session token refused, the guard says no more than that it
is. -/
theorem decode_of_refuses (hkey : Secret.key s.settings.secret = .ok key)
    (h : s.Refuses key clock machine token) :
    decode s clock machine token = .error .unauthenticated := by
  cases h with
  | unsigned h hstops =>
    apply decode_of_no_payload hkey hstops
    intro p hp
    obtain ⟨key', header, q, _, _, hkey', hsegs, -⟩ := SessionService.payloadOf_eq_ok_iff.mp hp
    obtain rfl := Except.ok.inj (hkey.symm.trans hkey')
    exact h header q hsegs
  | foreign hissue hother =>
    apply decode_of_no_payload hkey (.inr (SessionService.not_meetsDepth_of_issued hissue key))
    intro p hp
    obtain ⟨p₀, _, hpayload, -⟩ := SessionService.issueIn_eq_ok_iff.mp hissue
    obtain ⟨-, hissuer, haudience⟩ := SessionService.payload_of_issued hissue hpayload hp
    exact hother.elim (· hissuer) (· haudience)
  | @expired _ _ _ _ p hissue hpayload hzone hpast hcalendar =>
    by_cases hread : ∃ p', s.payloadOf machine token.toList = .ok p'
    · obtain ⟨p', hp'⟩ := hread
      obtain ⟨rfl, -⟩ := SessionService.payload_of_issued hissue hpayload hp'
      have hne := SessionService.ne_empty_of_issue hissue
      exact decode_of_expired hp' hne hzone hpast hcalendar
    · exact decode_of_no_payload hkey
        (.inr (SessionService.not_meetsDepth_of_issued hissue key)) fun p' hp' => hread ⟨p', hp'⟩

end SessionGuard

/-! ## §4 Routes that end before they begin -/

namespace Route

/-- The routes that take a provider token. -/
def ofIdentities : List Route := [syncProfile, identity, deleteAccount, session]

/-- The routes that take a session token. -/
def ofUsers : List Route := [user, admin]

variable {σ : Type} {sv : Services σ} {c : Call} {f : Fault} {route : Route}

/-- Without a principal, a route of identities ends before it calls its store. -/
theorem plan_of_no_principal (hroute : route ∈ ofIdentities) (h : sv.principal c = .error f) :
    route.plan sv c = .done (.error f) := by
  have hidentity : sv.identity c = .error f := by
    rw [Services.identity, h, error_bind]
  simp only [ofIdentities, List.mem_cons, List.not_mem_nil, or_false] at hroute
  rcases hroute with rfl | rfl | rfl | rfl <;> rw [plan, hidentity] <;> rfl

/-- Without a session, a route of users ends. -/
theorem plan_of_no_session (hroute : route ∈ ofUsers) (h : sv.session c = .error f) :
    route.plan sv c = .done (.error f) := by
  simp only [ofUsers, List.mem_cons, List.not_mem_nil, or_false] at hroute
  rcases hroute with rfl | rfl
  · rw [plan, Services.readUser, h, error_bind]
  · rw [plan, Services.readAdmin, h]
    rfl

end Route

namespace Application

variable {a : Application} {r r' : Request} {route : Route} {clock : Moment} {machine : Machine}
  {f : Fault}

/-- The route does not depend on the headers. -/
theorem findRoute_headers (method path : String) (headers : Assoc String) :
    findRoute ⟨method, path, headers⟩ = findRoute ⟨method, path, []⟩ := by
  simp only [findRoute, Request.route]

/-- A request whose plan is a fault is answered with the fault, and leaves everything as it is. -/
theorem respond_of_fault (hroute : findRoute r = .ok route)
    (hplan : route.plan a.services (callOf clock machine r) = .done (.error f))
    (d : Directory) :
    a.respond clock machine r d =
      ((if f.isAnswered then a.settings.crossOrigin.announce r f.response else f.response,
        f.level?), d) := by
  have hrun : runRoute a.services clock machine route r d = (.error f, d) := by
    have hroute := Route.run_plan a.services (callOf clock machine r) route
    rw [hplan] at hroute
    exact (congrFun hroute d).symm
  exact respondWith_of_fault a.settings.crossOrigin hroute hrun

/-- **The uniform response.** An announced refusal has the status, the challenge and the body of
every other, and tells requests apart by their origins and cookies only. -/
theorem announce_unauthenticated (policy : CrossOriginPolicy) (r : Request) :
    (policy.announce r Http.unauthenticated).status = 401 ∧
      (policy.announce r Http.unauthenticated).body = Http.unauthenticated.body ∧
      (policy.announce r Http.unauthenticated).header? "www-authenticate" = some "Bearer" := by
  unfold CrossOriginPolicy.announce
  cases r.header? "Origin" with
  | none => exact ⟨rfl, rfl, rfl⟩
  | some origin =>
    simp only [CrossOriginPolicy.naming]
    cases policy.answerOrigin? r origin with
    | none => exact ⟨rfl, rfl, rfl⟩
    | some o =>
      refine ⟨rfl, rfl, ?_⟩
      rw [Response.header?, Assoc.get?_set, if_neg (by decide)]
      rfl

theorem announce_congr (policy : CrossOriginPolicy) (response : Response)
    (horigin : r.header? "Origin" = r'.header? "Origin")
    (hcookie : r.header? "Cookie" = r'.header? "Cookie") :
    policy.announce r response = policy.announce r' response := by
  simp only [CrossOriginPolicy.announce, CrossOriginPolicy.answerOrigin?, horigin, hcookie]

/-- A kind below authentication is treated like authentication. -/
theorem ofKind_of_authentication {kind : ErrorKind} (h : kind.isA .authentication = true) :
    Treatment.ofKind kind = .unauthenticated := by
  induction kind with
  | refinement name parent ih =>
    -- a refinement has no treatment of its own, and lies where its parent lies
    have hparent : parent.isA .authentication = true := by
      simpa [ErrorKind.isA, ErrorKind.lineage] using h
    have hown : Treatment.own? (.refinement name parent) = none := by
      simp [Treatment.own?, Treatment.registered]
    rw [← ih hparent, Treatment.ofKind, ErrorKind.lineage, List.findSome?_cons_of_isNone]
    · rfl
    · rw [hown]
      rfl
  | _ =>
    revert h
    decide

/-- Errors of authentication that no guard collapses are answered in the same way. -/
theorem response_of_authentication {e : ServiceError} (h : e.kind.isA .authentication = true) :
    e.response = Http.unauthenticated := by
  rw [ServiceError.response, ServiceError.reply?, ofKind_of_authentication h]
  rfl

/-! ## §5 Refused requests -/

variable {handle : ProviderHandle ProviderClient} {s : SessionService} {key : List UInt8}

theorem principal_eq (hprovider : a.provider = some handle) (c : Call) :
    a.services.principal c = (Verifier.ofHandle handle).current c.credentials := by
  have hverifier : a.services.verifier = .ok (Verifier.ofHandle handle) := by
    rw [services, Services.ofSettings, hprovider]
    rfl
  rw [Services.principal, hverifier, ok_bind]

theorem session_eq (hsessions : a.settings.sessionService = .ok s) (c : Call) :
    a.services.session c = SessionGuard.current s c.clock c.machine c.credentials := by
  have hservice : a.services.sessions = .ok s := hsessions
  rw [Services.session, hservice, ok_bind]

/-- The plan and the response of a request that is not authenticated. -/
theorem refused_of_plan (hroute : findRoute r = .ok route)
    (hplan : route.plan a.services (callOf clock machine r) = .done (.error .unauthenticated))
    (d : Directory) :
    route.plan a.services (callOf clock machine r) = .done (.error .unauthenticated) ∧
      a.respond clock machine r d =
        ((a.settings.crossOrigin.announce r Http.unauthenticated, none), d) :=
  ⟨hplan, respond_of_fault hroute hplan d⟩

/-- **Escapes.** A token that gets past the guards as a fault breaks its request down. -/
theorem respond_of_escapes {token : String} (hsessions : a.settings.sessionService = .ok s)
    (hkey : Secret.key s.settings.secret = .ok key) (hroute : findRoute r = .ok route)
    (husers : route ∈ Route.ofUsers) (hbearer : bearer? r = some token)
    (hescapes : SessionGuard.Escapes s key clock machine token) (d : Directory) :
    a.respond clock machine r d = ((Http.breakdown, none), d) := by
  obtain ⟨f, hf, hdecode⟩ := SessionGuard.decode_of_escapes hkey hescapes
  have hsession : a.services.session (callOf clock machine r) = .error f := by
    rw [session_eq hsessions, callOf, hbearer]
    exact hdecode
  rw [respond_of_fault hroute (Route.plan_of_no_session husers hsession)]
  rcases hf with (rfl | rfl | rfl | rfl) | rfl <;> rfl

/-- An issued token whose recorded expiry lies outside the calendar, expired or not, escapes. -/
theorem escapes_of_beyond {token : String} {zone : Int → Option Int} {t : Moment}
    {subject : TokenSubject} {p : SessionPayload} (haudience : s.settings.audience ≠ "")
    (hissue : s.issueIn zone t subject = .ok token)
    (hpayload : s.payloadIn zone t subject = .ok p)
    (hbeyond : Moment.inRange (p.exp * 1000000) = false) :
    SessionGuard.Escapes s key clock machine token :=
  .moments p (SessionService.payloadOf_issuedIn haudience hpayload hissue machine) (.inl hbeyond)

/-- **Refusals look alike.** The provider is initialized and the secret may serve.  A request to a
route of identities that has no credentials, or whose token the provider or its client fails to
turn into a principal in whatever way, ends before its route begins, changes nothing, and has the
uniform response; there is no other way not to be authenticated.  So does a request to a route of
users that has no credentials, or a token that is not signed under the secret, was issued for
another issuer or audience, or has expired with an expiry in the calendar.

The uniform response has one status, one challenge and one body; requests from the same origin
with the same cookies cannot be told apart by any header either; and errors of authentication that
no guard collapses are answered in the same way.  Only tokens that get past the guards as a fault
break their requests down.  An issued token does so when its recorded expiry lies outside the
calendar; a token that is not signed, when the library lets the depth of a text in it through. -/
theorem refusals_alike (hprovider : a.provider = some handle)
    (hsessions : a.settings.sessionService = .ok s)
    (hkey : Secret.key s.settings.secret = .ok key) :
    (∀ route ∈ Route.ofIdentities, ∀ r clock machine d, findRoute r = .ok route →
      (LacksCredentials r ∨
        ∃ token, bearer? r = some token ∧ (Verifier.ofHandle handle).Refuses token) →
      route.plan a.services (callOf clock machine r) = .done (.error .unauthenticated) ∧
        a.respond clock machine r d =
          ((a.settings.crossOrigin.announce r Http.unauthenticated, none), d)) ∧
    (∀ r, (Verifier.ofHandle handle).current (bearer? r) = .error .unauthenticated ↔
      LacksCredentials r ∨
        ∃ token, bearer? r = some token ∧ (Verifier.ofHandle handle).Refuses token) ∧
    (∀ route ∈ Route.ofUsers, ∀ r clock machine d, findRoute r = .ok route →
      (LacksCredentials r ∨
        ∃ token, bearer? r = some token ∧ s.Refuses key clock machine token) →
      route.plan a.services (callOf clock machine r) = .done (.error .unauthenticated) ∧
        a.respond clock machine r d =
          ((a.settings.crossOrigin.announce r Http.unauthenticated, none), d)) ∧
    (∀ r, let response := a.settings.crossOrigin.announce r Http.unauthenticated
      response.status = 401 ∧ response.body = Http.unauthenticated.body ∧
        response.header? "www-authenticate" = some "Bearer") ∧
    (∀ r r', r.header? "Origin" = r'.header? "Origin" →
      r.header? "Cookie" = r'.header? "Cookie" →
        a.settings.crossOrigin.announce r Http.unauthenticated =
          a.settings.crossOrigin.announce r' Http.unauthenticated) ∧
    (∀ e : ServiceError, e.kind.isA .authentication = true →
      e.response = Http.unauthenticated) ∧
    (∀ route ∈ Route.ofUsers, ∀ r clock machine d token,
      findRoute r = .ok route → bearer? r = some token →
      SessionGuard.Escapes s key clock machine token →
        a.respond clock machine r d = ((Http.breakdown, none), d)) ∧
    (∀ clock machine token zone t subject p, s.settings.audience ≠ "" →
      s.issueIn zone t subject = .ok token → s.payloadIn zone t subject = .ok p →
      Moment.inRange (p.exp * 1000000) = false →
        SessionGuard.Escapes s key clock machine token) := by
  refine ⟨fun route hidentities r clock machine d hroute hrefused => ?_,
    fun r => Verifier.current_eq_unauthenticated_iff,
    fun route husers r clock machine d hroute hrefused => ?_,
    fun r => announce_unauthenticated _ r, fun r r' => announce_congr _ _,
    fun e => response_of_authentication,
    fun route husers r clock machine d token hroute hbearer hescapes =>
      respond_of_escapes hsessions hkey hroute husers hbearer hescapes d,
    fun clock machine token zone t subject p => escapes_of_beyond⟩
  · have hprincipal : a.services.principal (callOf clock machine r) =
        .error .unauthenticated := by
      rw [principal_eq hprovider]
      exact Verifier.current_eq_unauthenticated_iff.mpr hrefused
    exact refused_of_plan hroute (Route.plan_of_no_principal hidentities hprincipal) d
  · have hsession : a.services.session (callOf clock machine r) =
        .error .unauthenticated := by
      rw [session_eq hsessions, callOf]
      rcases hrefused with hlacks | ⟨token, hbearer, hrefuses⟩
      · rw [bearer?_eq_none_iff.mpr hlacks]
        rfl
      · rw [hbearer]
        exact SessionGuard.decode_of_refuses hkey hrefuses
    exact refused_of_plan hroute (Route.plan_of_no_session husers hsession) d

/-- A client that fails, and a token that has expired. -/
theorem refusals_alike_usual :
    let claims : Fields := [("email", .text "a@example.com")]
    let client : ProviderClient := fun token =>
      if token = "down" then .failed (.runtime "down") else .claims (.object claims)
    let a : Application :=
      ⟨⟨"Eros Identity API", "0.1.0", false, "INFO", "0.0.0.0", 8000, false,
          ⟨["*"], false, ["*"], ["*"]⟩, ⟨"hunter2", "eros-backend", "eros-users", "eros-api", 7⟩,
          ⟨"", "", ProviderSettings.usualTimeout⟩, .memory, ⟨"", ""⟩, .usual⟩,
        some ⟨"eros", client, ProviderSettings.usualTimeout⟩⟩
    let exchange : String → Request := fun token =>
      ⟨"POST", "/api/auth/session", [("Authorization", "Bearer " ++ token)]⟩
    let read : String → Request := fun token =>
      ⟨"GET", "/api/users/me", [("Authorization", "Bearer " ++ token)]⟩
    ∃ token, a.settings.sessionService = .ok ⟨.usual "hunter2"⟩ ∧
      Secret.key "hunter2" = .ok (Utf8.ofString "hunter2") ∧
      SessionService.issue ⟨.usual "hunter2"⟩ ⟨0, some 0⟩
        ⟨"user-1", "a@example.com", ["user"], by decide⟩ = .ok token ∧
      ∀ d,
        (a.respond ⟨0, some 0⟩ ⟨0, true⟩ (exchange "down") d) =
          ((Http.unauthenticated, none), d) ∧
        (a.respond ⟨0, some 0⟩ ⟨0, true⟩ (exchange "other") d) = ((Http.unauthenticated, none), d) ∧
        (a.respond ⟨604800000001, some 0⟩ ⟨0, true⟩ (read token) d) =
          ((Http.unauthenticated, none), d) := by
  intro claims client a exchange read
  have hkey : Secret.key "hunter2" = .ok (Utf8.ofString "hunter2") :=
    Secret.key_eq_ok_iff.mpr ⟨by decide +kernel, by decide +kernel, rfl⟩
  let s : SessionService := ⟨.usual "hunter2"⟩
  let subject : TokenSubject := ⟨"user-1", "a@example.com", ["user"], by decide⟩
  have hsessions : a.settings.sessionService = .ok s := by decide +kernel
  have he : (Moment.truncated ⟨0, some 0⟩).add? s.settings.expiry =
      some ⟨604800000000, some 0⟩ := by
    decide
  obtain ⟨token, hissue⟩ := SessionService.exists_issue he hkey subject
  have hpayload : s.payloadAt ⟨0, some 0⟩ subject =
      .ok ⟨"user-1", "a@example.com", ["user"], 0, 604800, "eros-backend", "eros-users"⟩ :=
    SessionService.payloadAt_eq_ok_iff.mpr ⟨_, he, rfl⟩
  obtain ⟨hidentities, -, husers, -⟩ := refusals_alike (a := a) rfl hsessions hkey
  have hheader : (read token).header? "Authorization" = some ("Bearer " ++ token) := by
    simp [read, Request.header?]
  have hexpired : s.Refuses (Utf8.ofString "hunter2") ⟨604800000001, some 0⟩ ⟨0, true⟩ token :=
    .expired hissue hpayload rfl (by decide) (by decide)
  refine ⟨token, hsessions, hkey, hissue, fun d => ⟨?_, ?_, ?_⟩⟩
  · have hbearer : bearer? (exchange "down") = some "down" := by decide +kernel
    have hclient : client "down" = .failed (.runtime "down") := if_pos rfl
    have hcalls : (Verifier.ofHandle ⟨"eros", client, ProviderSettings.usualTimeout⟩).calls
        "down" = true := by
      decide +kernel
    exact (hidentities .session (by decide) (exchange "down") _ ⟨0, true⟩ d (by decide +kernel)
      (.inr ⟨"down", hbearer, .unavailable, .unavailable hcalls hclient (by simp [Fault.IsTimeout])
        (by simp [Fault.IsRejection]) ⟨by simp, by simp, by simp⟩⟩)).2
  · have hbearer : bearer? (exchange "other") = some "other" := by decide +kernel
    have hclient : client "other" = .claims (.object claims) := if_neg (by decide)
    have hclaims : Principal.Unusable claims :=
      Principal.exists_ofClaims_error_iff.mp ⟨.subjectMissing, rfl⟩
    have hcalls : (Verifier.ofHandle ⟨"eros", client, ProviderSettings.usualTimeout⟩).calls
        "other" = true := by
      decide +kernel
    exact (hidentities .session (by decide) (exchange "other") _ ⟨0, true⟩ d (by decide +kernel)
      (.inr ⟨"other", hbearer, .malformed, .unusable hcalls hclient hclaims⟩)).2
  · have hroute : findRoute (read token) = .ok .user :=
      (findRoute_headers "GET" "/api/users/me" _).trans (by decide +kernel)
    have hname : Text.lower "Authorization" ≠ Text.lower "Origin" := by decide +kernel
    have horigin : (read token).header? "Origin" = none := by
      simp [read, Request.header?, hname]
    have hannounced : a.settings.crossOrigin.announce (read token) Http.unauthenticated =
        Http.unauthenticated := by
      rw [CrossOriginPolicy.announce, horigin]
    rw [← hannounced]
    exact (husers .user (by decide) (read token) _ ⟨0, true⟩ d hroute
      (.inr ⟨token, SessionService.bearer?_of_issue hissue hheader, hexpired⟩)).2

/-- **After the calendar.** The clock runs an hour behind UTC and tokens are valid for seven days.
A token of the last week of year 9999 has its recorded expiry in year 10000.  The server breaks
down over it on the last evening, when it has expired. -/
theorem refusal_beyond_calendar :
    let a : Application :=
      ⟨⟨"Eros Identity API", "0.1.0", false, "INFO", "0.0.0.0", 8000, false,
          ⟨["*"], false, ["*"], ["*"]⟩,
          ⟨"test-secret-key-for-testing-only", "eros-backend", "eros-users", "eros-api", 7⟩,
          ⟨"", "", ProviderSettings.usualTimeout⟩, .memory, ⟨"", ""⟩, .usual⟩,
        some ⟨"eros-test", fun _ => .hangs, ProviderSettings.usualTimeout⟩⟩
    let issuedAt : Moment := ⟨253401694200000000, some (-3600)⟩
    let clock : Moment := ⟨253402299900000000, some (-3600)⟩
    ∃ s token p, a.settings.sessionService = .ok s ∧
      Secret.key s.settings.secret = .ok (Utf8.ofString s.settings.secret) ∧
      s.issue issuedAt ⟨"user-1", "a@example.com", ["user"], by decide⟩ = .ok token ∧
      s.payloadAt issuedAt ⟨"user-1", "a@example.com", ["user"], by decide⟩ = .ok p ∧
      p.exp * 1000000 < clock.instant ∧
      ∀ d, a.respond clock ⟨0, true⟩
          ⟨"GET", "/api/users/me", [("Authorization", "Bearer " ++ token)]⟩ d =
        ((Http.breakdown, none), d) := by
  intro a issuedAt clock
  let s : SessionService := ⟨.usual "test-secret-key-for-testing-only"⟩
  let subject : TokenSubject := ⟨"user-1", "a@example.com", ["user"], by decide⟩
  have hkey : Secret.key s.settings.secret = .ok (Utf8.ofString s.settings.secret) :=
    Secret.key_eq_ok_iff.mpr ⟨by decide +kernel, by decide +kernel, rfl⟩
  have hsessions : a.settings.sessionService = .ok s := by decide +kernel
  have he : issuedAt.truncated.add? s.settings.expiry =
      some ⟨253402299000000000, some (-3600)⟩ := by
    decide
  obtain ⟨token, hissue⟩ := SessionService.exists_issue he hkey subject
  have hpayload : s.payloadAt issuedAt subject =
      .ok ⟨"user-1", "a@example.com", ["user"], 253401697800, 253402302600, "eros-backend",
        "eros-users"⟩ :=
    SessionService.payloadAt_eq_ok_iff.mpr ⟨_, he, rfl⟩
  let r : Request := ⟨"GET", "/api/users/me", [("Authorization", "Bearer " ++ token)]⟩
  have hheader : r.header? "Authorization" = some ("Bearer " ++ token) := by
    simp [r, Request.header?]
  have hroute : findRoute r = .ok .user :=
    (findRoute_headers "GET" "/api/users/me" _).trans (by decide +kernel)
  refine ⟨s, token, _, hsessions, hkey, hissue, hpayload, by decide, fun d => ?_⟩
  exact respond_of_escapes hsessions hkey hroute (by decide)
    (SessionService.bearer?_of_issue hissue hheader)
    (escapes_of_beyond (by decide) hissue hpayload (by decide)) d

end Application

end IdentityService
