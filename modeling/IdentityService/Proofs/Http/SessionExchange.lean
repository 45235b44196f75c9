import IdentityService.Proofs.Http.Occasion
import IdentityService.Proofs.Http.Refusal
import IdentityService.Proofs.Session.RoleAccess

/-!
# From a Provider Token to a Session

A provider token is exchanged for a session token once, and the session token is presented many
times.  What it says comes from the store and not from the provider: the identifier and the email
of the row, and the roles that every user has.  So no request leads to a session of an
administrator.

Two expiries are out of reach.  Local time ends with year 9999, whatever the time in UTC is, and an
expiry beyond it is not computed.  A fractional expiry in the last fifteen microseconds of year
9999 is recorded as the first second of year 10000, and the token is not read back.

## Main definitions

- `Http.Occasion.Exchanges`, `Http.Occasion.Presents`: requests for a token and with a token.
- `StandsFor`: what a token for a row is good for.

## Main statements

- `standsFor_of_issue`: an issued token stands for its row.
- `session_exchange`: what the exchange answers, and what its token is good for.
- `session_exchange_last`: a token that is good for nothing.
-/

namespace IdentityService

open Http

variable {s : SessionService} {key : List UInt8} {o : Occasion} {m : Memory} {p : Principal}
  {row : IdentityRecord} {token : String} {t e : Moment} {k : SessionClaims}

/-! ## §1 The exchange -/

/-- A request exchanges the token of a principal for a token of a session service: it finds the
route, and the services that the route depends on are there. -/
structure Http.Occasion.Exchanges (o : Occasion) (s : SessionService) (p : Principal) : Prop where
  store : o.services.store = Memory.store
  sessions : o.services.sessions = .ok s
  synchronizer : ∃ synchronizer, o.services.synchronizer = .ok synchronizer
  route : Application.findRoute o.request = .ok .session
  principal : o.services.principal o.call = .ok p

/-- The subject of a row for which a token is issued: its identifier spells the text. -/
def TokenSubject.ofRow (row : IdentityRecord) {name : String} (h : name ≠ "") : TokenSubject :=
  ⟨name, row.email, TokenSubject.usualRoles, h⟩

/-- The reply of the exchange for a row. -/
def SessionReply.ofRow (s : SessionService) (row : IdentityRecord) (verified : Bool)
    (token : String) : SessionReply :=
  ⟨token, SessionReply.bearer, s.expiresIn, .ofRecord row verified⟩

theorem Services.sessionReply_eq {name : String} (hid : row.id = .text name) (hname : name ≠ "")
    (clock : Moment) (verified : Bool) :
    Services.sessionReply s clock row verified =
      s.issue clock (.ofRow row hname) >>= fun token =>
        .ok (.ok (SessionReply.ofRow s row verified token).toJson) := by
  have hreply : ∀ token, RouteReply.ofBody (SessionReply.ofRow s row verified token).toJson =
      .ok (.ok (SessionReply.ofRow s row verified token).toJson) := by
    intro token
    apply RouteReply.ofBody_of_spells
    rw [SessionReply.spellsTexts_toJson]
    simp [SessionReply.ofRow, IdentitySummary.ofRecord, hid, RawText.text?]
  simp only [← hreply]
  simp only [sessionReply, TokenSubject.ofParts, hid, dif_neg hname]
  rfl

/-- There is no token for an identifier that spells no text. -/
theorem Services.sessionReply_of_broken {b : BrokenText} (hid : row.id = .broken b)
    (clock : Moment) (verified : Bool) :
    ∃ issues, Services.sessionReply s clock row verified = .error (.issues issues) := by
  simp only [sessionReply, TokenSubject.ofParts, hid]
  exact ⟨_, rfl⟩

/-- A session can be shown when its email and its roles spell texts. -/
theorem SessionUser.spellsTexts_toBody {k : SessionClaims} {email : String} {roles : List String}
    (hemail : k.email = .text email) (hroles : k.roles = roles.map .text) :
    (SessionUser.ofClaims k).toBody.spellsTexts = true := by
  have hitems : ∀ roles : List String,
      Json.itemsSpellTexts ((roles.map RawText.text).map Json.raw) = true := by
    intro roles
    induction roles with
    | nil => rfl
    | cons role roles ih => exact ih
  simp only [toBody, toJsonWith, ofClaims, hemail, hroles, Json.ofRaws, Json.spellsTexts,
    Json.fieldsSpellTexts, Json.raw, hitems, Bool.and_self]

namespace Http.Occasion

/-- The exchange looks for the row of the principal, and replies with a token for it. -/
theorem Exchanges.run_eq (h : o.Exchanges s p) (m : Memory) :
    Route.session.run o.services o.call m =
      (match m.records.get? p.subject with
        | none => .error (.service (.identityNotFound p.subject))
        | some row => Services.sessionReply s o.clock row p.emailVerified, m) := by
  obtain ⟨synchronizer, hsynchronizer⟩ := h.synchronizer
  have hidentity : o.services.identity o.call = .ok (p, synchronizer) := by
    rw [Services.identity, h.principal, ok_bind, hsynchronizer]
    rfl
  simp only [Route.run, Services.createSession, hidentity, h.sessions, ok_bind, Services.row,
    h.store, Memory.store, Memory.findById, StoreStep.ofOutcome, StoreStep.andThen]
  cases m.records.get? p.subject <;> rfl

theorem Exchanges.subject_ne (h : o.Exchanges s p) : p.subject ≠ .text "" := by
  obtain ⟨v, -, hcurrent⟩ := bind_eq_ok_iff.mp h.principal
  obtain ⟨_, _, -, -, hnamed⟩ := Verifier.exists_claims_of_current hcurrent
  exact hnamed.subject_ne

theorem Exchanges.name_ne (h : o.Exchanges s p) {name : String} (hp : p.subject = .text name) :
    name ≠ "" := by
  rintro rfl
  exact h.subject_ne hp

theorem Exchanges.state_eq (h : o.Exchanges s p) (m : Memory) : (o.answer m).2 = m := by
  obtain ⟨-, -, hstate⟩ := answer_of_route h.route m
  rw [hstate, h.run_eq]

/-- Without a row there is nothing to issue a token for. -/
theorem Exchanges.status_of_absent (h : o.Exchanges s p)
    (hrow : m.records.get? p.subject = none) : (o.answer m).1.status = 404 := by
  rw [status_of_route h.route, h.run_eq, hrow]
  rfl

/-- A token that is issued for the row is the reply. -/
theorem Exchanges.answer_of_issue (h : o.Exchanges s p) {name : String}
    (hid : row.id = .text name) (hname : name ≠ "")
    (hrow : m.records.get? p.subject = some row)
    (hissue : s.issue o.clock (.ofRow row hname) = .ok token) :
    (o.answer m).1.status = 200 ∧
      (o.answer m).1.body = .json (SessionReply.ofRow s row p.emailVerified token).toJson := by
  rw [status_of_route h.route, body_of_route h.route, h.run_eq, hrow]
  simp only [Services.sessionReply_eq hid hname, hissue, ok_bind]
  exact ⟨rfl, rfl⟩

/-- An expiry that is not computed breaks the exchange down. -/
theorem Exchanges.status_of_overflow (h : o.Exchanges s p) {name : String}
    (hid : row.id = .text name) (hname : name ≠ "")
    (hrow : m.records.get? p.subject = some row)
    (hnone : o.clock.truncated.add? s.settings.expiry = none) : (o.answer m).1.status = 500 := by
  have hissue : s.issue o.clock (.ofRow row hname) = .error .overflow := by
    rw [SessionService.issue_eq, SessionService.payloadAt_of_none hnone, error_bind]
  rw [status_of_route h.route, h.run_eq, hrow]
  simp only [Services.sessionReply_eq hid hname, hissue, error_bind]
  rfl

/-- So does an identifier that spells no text. -/
theorem Exchanges.status_of_broken (h : o.Exchanges s p) {b : BrokenText}
    (hid : row.id = .broken b) (hrow : m.records.get? p.subject = some row) :
    (o.answer m).1.status = 500 := by
  obtain ⟨issues, hreply⟩ := Services.sessionReply_of_broken (s := s) hid o.clock p.emailVerified
  rw [status_of_route h.route, h.run_eq, hrow]
  simp only [hreply]
  rfl

end Http.Occasion

/-! ## §2 Presenting a token -/

/-- A request presents a token on a route, to services with a session service and a clock with an
offset. -/
structure Http.Occasion.Presents (o : Occasion) (s : SessionService) (token : String)
    (route : Route) : Prop where
  sessions : o.services.sessions = .ok s
  route : Application.findRoute o.request = .ok route
  header : o.request.header? "Authorization" = some ("Bearer " ++ token)
  zone : o.clock.offset.isSome

namespace Http.Occasion

variable {subject : TokenSubject} {route : Route} {f : Fault}

theorem Presents.session_eq (h : o.Presents s token route)
    (hissue : s.issue t subject = .ok token) :
    o.services.session o.call = SessionGuard.decode s o.clock o.machine token := by
  have hbearer : o.call.credentials = some token := SessionService.bearer?_of_issue hissue h.header
  rw [Services.session, h.sessions, ok_bind, hbearer]
  rfl

/-- A session that can be shown is answered with its claims. -/
theorem Presents.answer_of_session (h : o.Presents s token .user)
    (hsession : o.services.session o.call = .ok k)
    (hspells : (SessionUser.ofClaims k).toBody.spellsTexts = true) (m : Memory) :
    (o.answer m).1.status = 200 ∧
      (o.answer m).1.body = .json (SessionUser.ofClaims k).toBody := by
  rw [status_of_route h.route, body_of_route h.route, Route.run, Services.readUser, hsession,
    ok_bind, RouteReply.ofBody_of_spells hspells]
  exact ⟨rfl, rfl⟩

/-- A session without the role of administrators is turned away from their route. -/
theorem Presents.status_of_no_admin (h : o.Presents s token .admin)
    (hsession : o.services.session o.call = .ok k) (hroles : ∀ t ∈ k.roles, ¬ Role.admin.Names t)
    (m : Memory) : (o.answer m).1.status = 403 := by
  rw [status_of_route h.route, Route.run, Services.readAdmin, hsession, ok_bind,
    SessionGuard.requireRole_of_not_named hroles]
  rfl

/-- Without a session the routes of users answer with the fault. -/
theorem Presents.status_of_no_session (h : o.Presents s token route)
    (husers : route ∈ Route.ofUsers) (hsession : o.services.session o.call = .error f)
    (m : Memory) : (o.answer m).1.status = f.response.status := by
  have hplan := Route.plan_of_no_session husers hsession
  rw [status_of_route h.route, ← Route.run_plan, hplan]
  rfl

end Http.Occasion

/-! ## §3 What a token is good for -/

/-- A token stands for a row with its claims: they name the identifier and the email of the row and
the usual roles, they are accepted up to the expiry, the route of all users tells them, and that of
administrators turns them away; after the expiry both refuse the token. -/
structure StandsFor (s : SessionService) (token : String) (row : IdentityRecord)
    (k : SessionClaims) : Prop where
  subject : row.id = .text k.subject
  email : k.email = .text row.email
  roles : k.roles = [.text "user"]
  accepted : ∀ (clock : Moment) (machine : Machine), clock.offset.isSome →
    clock.instant ≤ k.expiresAt.instant → s.verify clock machine token = .ok k
  user : ∀ (o : Occasion) (m : Memory), o.Presents s token .user →
    o.clock.instant ≤ k.expiresAt.instant →
      (o.answer m).1.status = 200 ∧ (o.answer m).1.body = .json (SessionUser.ofClaims k).toBody
  admin : ∀ (o : Occasion) (m : Memory), o.Presents s token .admin →
    o.clock.instant ≤ k.expiresAt.instant → (o.answer m).1.status = 403
  expired : ∀ (o : Occasion) (m : Memory) (route : Route), route ∈ Route.ofUsers →
    o.Presents s token route → k.expiresAt.instant < o.clock.instant →
      (o.answer m).1.status = 401

theorem Role.not_names_admin_usual : ∀ t ∈ TokenSubject.usualRoles, ¬ Role.admin.Names t := by
  intro t ht
  obtain rfl := List.mem_singleton.mp ht
  rw [Role.names_text_iff]
  decide

/-- An issued token is refused after its recorded expiry. -/
theorem SessionGuard.decode_issued_of_past {subject : TokenSubject} {clock : Moment}
    (haudience : s.settings.audience ≠ "") (he : t.truncated.add? s.settings.expiry = some e)
    (hissue : s.issue t subject = .ok token)
    (hexp : Moment.inRange (e.timestamp * 1000000) = true) (hzone : clock.offset.isSome)
    (hpast : e.timestamp * 1000000 < clock.instant) (machine : Machine) :
    decode s clock machine token = .error .unauthenticated := by
  obtain ⟨p, _, hp, -, -⟩ := SessionService.issue_eq_ok_iff.mp hissue
  have hread := SessionService.payloadOf_issued haudience hp hissue machine
  obtain ⟨e', he', rfl⟩ := SessionService.payloadAt_eq_ok_iff.mp hp
  obtain rfl : e = e' := Option.some.inj (he.symm.trans he')
  exact decode_of_expired hread (SessionService.ne_empty_of_issue hissue) hzone hpast hexp

/-- **Issued tokens.** A token whose expiry is not among the last fifteen microseconds of the
calendar stands for the row for which it was issued. -/
theorem standsFor_of_issue (haudience : s.settings.audience ≠ "") {name : String}
    (hid : row.id = .text name) (hname : name ≠ "") (ht : Moment.inRange t.instant = true)
    (he : t.truncated.add? s.settings.expiry = some e)
    (he_range : Moment.inRange e.instant = true) (hlast : e.instant ≤ Moment.maxRecorded)
    (hissue : s.issue t (.ofRow row hname) = .ok token) :
    ∃ k : SessionClaims, k.expiresAt = ⟨e.timestamp * 1000000, some 0⟩ ∧
      StandsFor s token row k := by
  have hiat := Moment.inRange_truncated ht
  have hexp : Moment.inRange (e.timestamp * 1000000) = true :=
    Duration.inRange_wholeSeconds (Moment.inRange_iff.mp he_range).1 hlast
  let k : SessionClaims := ⟨name, row.email, TokenSubject.usualRoles,
    ⟨t.truncated.timestamp * 1000000, some 0⟩, ⟨e.timestamp * 1000000, some 0⟩,
    s.settings.issuer, s.settings.audience⟩
  have hinstant : k.expiresAt.instant = e.timestamp * 1000000 := by
    simp [k, Moment.instant]
  have haccepted : ∀ (clock : Moment) (machine : Machine), clock.offset.isSome →
      clock.instant ≤ k.expiresAt.instant → s.verify clock machine token = .ok k := by
    intro clock machine hzone hle
    rw [hinstant] at hle
    exact SessionService.verify_issued_eq_ok haudience he hissue hiat hexp hzone hle machine
  -- until its expiry the token is a session, whoever asks
  have hsession : ∀ {o : Occasion} {route : Route}, o.Presents s token route →
      o.clock.instant ≤ k.expiresAt.instant → o.services.session o.call = .ok k := by
    intro o route h hle
    rw [h.session_eq hissue, SessionGuard.decode, haccepted _ _ h.zone hle]
    rfl
  refine ⟨k, rfl, hid, rfl, rfl, haccepted, ?_, ?_, ?_⟩
  · intro o m h hle
    have hroles : k.roles = ["user"].map .text := rfl
    have hspells : (SessionUser.ofClaims k).toBody.spellsTexts = true :=
      SessionUser.spellsTexts_toBody rfl hroles
    exact h.answer_of_session (hsession h hle) hspells m
  · intro o m h hle
    exact h.status_of_no_admin (hsession h hle) Role.not_names_admin_usual m
  · intro o m route husers h hpast
    rw [hinstant] at hpast
    have hrefused := SessionGuard.decode_issued_of_past haudience he hissue hexp h.zone hpast
      o.machine
    exact h.status_of_no_session husers ((h.session_eq hissue).trans hrefused) m

/-- A token whose expiry is among the last fifteen microseconds of the calendar breaks every
request down that presents it. -/
theorem status_of_beyond {subject : TokenSubject} {route : Route}
    (haudience : s.settings.audience ≠ "") (he : t.truncated.add? s.settings.expiry = some e)
    (he_range : Moment.inRange e.instant = true) (hbeyond : Moment.maxRecorded < e.instant)
    (hissue : s.issue t subject = .ok token) (husers : route ∈ Route.ofUsers)
    (h : o.Presents s token route) (m : Memory) : (o.answer m).1.status = 500 := by
  have hhigh := (Moment.inRange_iff.mp he_range).2
  have hverify := SessionService.verify_issued_beyond haudience he hissue hbeyond hhigh o.clock
    o.machine
  have hsession : o.services.session o.call = .error (.badValue none) := by
    rw [h.session_eq hissue, SessionGuard.decode, hverify]
    rfl
  exact h.status_of_no_session husers hsession m

/-- Whoever obtains an issued token obtains the usual roles, and no access for administrators. -/
theorem IsIssued.roles_eq (h : IsIssued token) (s : SessionService) (clock : Moment)
    (machine : Machine) :
    (∀ k, s.verify clock machine token = .ok k → k.roles = ["user"]) ∧
      ∀ k, SessionGuard.access s clock machine .admin (some token) ≠ .ok k := by
  obtain ⟨issuer, t, subject, hissue, hroles⟩ := h
  have husual : ∀ k, s.verify clock machine token = .ok k →
      k.roles = TokenSubject.usualRoles := by
    intro k hk
    obtain ⟨p, hp, hk⟩ := SessionGuard.roles_of_accepted hk
    obtain ⟨p', _, hp', -, -⟩ := SessionService.issue_eq_ok_iff.mp hissue
    obtain ⟨rfl, -⟩ := SessionService.payload_of_issued hissue hp' hp
    obtain ⟨e, -, rfl⟩ := SessionService.payloadAt_eq_ok_iff.mp hp'
    exact hk.trans hroles
  refine ⟨husual, ?_⟩
  intro k hk
  obtain ⟨claims, hclaims, hk⟩ := bind_eq_ok_iff.mp hk
  have hverify := SessionGuard.collapse_eq_ok_iff.mp hclaims
  have hnot : ∀ t ∈ claims.roles, ¬ Role.admin.Names t := by
    rw [husual claims hverify]
    exact Role.not_names_admin_usual
  rw [SessionGuard.requireRole_of_not_named hnot] at hk
  exact absurd hk (by simp)

/-! ## §4 One user -/

/-- The services of one user: a session service, a provider that returns the same claims for every
token, and the memory store. -/
def Services.ofUser (s : SessionService) (claims : Fields) : Services Memory where
  version := "0.1.0"
  isProviderInitialized := true
  sessions := .ok s
  verifier := .ok ⟨fun _ => .claims (.object claims), ProviderSettings.usualTimeout⟩
  synchronizer := .ok ⟨.usual⟩
  store := Memory.store

/-- A request on a route, with a bearer token. -/
def Http.Occasion.bearing (services : Services Memory) (route : Route) (clock : Moment)
    (token : String) : Occasion :=
  ⟨⟨["*"], false, ["*"], ["*"]⟩, services, clock, ⟨0, true⟩,
    ⟨route.method, route.path, [("Authorization", "Bearer " ++ token)]⟩⟩

theorem Http.Occasion.presents_bearing {services : Services Memory}
    (hsessions : services.sessions = .ok s) (route : Route) {clock : Moment}
    (hzone : clock.offset.isSome) :
    (bearing services route clock token).Presents s token route := by
  have hroute : Application.findRoute ⟨route.method, route.path, []⟩ = .ok route := by
    cases route <;> decide +kernel
  refine ⟨hsessions, (Application.findRoute_headers _ _ _).trans hroute, ?_, hzone⟩
  simp [bearing, Request.header?]

theorem Http.Occasion.exchanges_bearing {claims : Fields}
    (hclaims : Principal.ofClaims claims = .ok p) (clock : Moment) :
    (bearing (.ofUser s claims) .session clock "provider").Exchanges s p := by
  have hprincipal : (⟨fun _ => .claims (.object claims), ProviderSettings.usualTimeout⟩ :
      Verifier).current (some "provider") = .ok p := by
    have hblank : Text.isBlankText "provider" = false := by decide +kernel
    have hpositive : ProviderSettings.usualTimeout.isPositive = true := by decide +kernel
    simp [Verifier.current, Verifier.verifyOrNone, Verifier.verifyResult, hblank, hpositive,
      Verifier.resultOf, hclaims, ok_bind]
  have hheader : (bearing (.ofUser s claims) .session clock "provider").request.header?
      "Authorization" = some ("Bearer " ++ "provider") := by
    simp [bearing, Request.header?]
  have hbearer : bearer? (bearing (.ofUser s claims) .session clock "provider").request =
      some "provider" := by
    rw [bearer?, hheader, Option.bind_some]
    decide +kernel
  refine ⟨rfl, rfl, ⟨_, rfl⟩, ?_, ?_⟩
  · exact (Application.findRoute_headers _ _ _).trans (by decide +kernel)
  · rw [Services.principal, call, Application.callOf, hbearer]
    exact hprincipal

/-- The row of a first user. -/
def IdentityRecord.first : IdentityRecord :=
  ⟨"user-1", "a@example.com", none, ⟨0, some 0⟩, ⟨0, some 0⟩, none⟩

/-- The store after this row was written. -/
def Memory.first : Memory :=
  store.after .empty (.upsert "user-1" "a@example.com" none ⟨0, some 0⟩)

theorem Memory.get?_first : Memory.first.records.get? "user-1" = some .first := by
  decide +kernel

theorem Memory.reached_first : Memory.first.Reached := by
  have haccept : (⟨.usual⟩ : Synchronizer).accept (some "a@example.com") none =
      .ok ("a@example.com", none) := by
    decide +kernel
  refine Reached.empty.call ⟨⟨.usual⟩, .createOrUpdate "user-1" (some "a@example.com") none
    ⟨0, some 0⟩, ?_⟩
  rw [Synchronizer.asks, Synchronizer.write?, haccept]

/-! ## §5 End to end -/

/-- The exchange says that there is no row exactly when there is none. -/
theorem Http.Occasion.Exchanges.status_eq_not_found_iff (h : o.Exchanges s p)
    (hkey : Secret.key s.settings.secret = .ok key) (hm : m.Reached) :
    (o.answer m).1.status = 404 ↔ m.records.get? p.subject = none := by
  constructor
  · intro hstatus
    by_contra hpresent
    obtain ⟨row, hrow⟩ := Option.ne_none_iff_exists'.mp hpresent
    have hsubject := hm.consistent.id_eq _ _ hrow
    -- a row is answered with its token, or with a breakdown
    cases hid : row.id with
    | broken b =>
      rw [h.status_of_broken hid hrow] at hstatus
      exact absurd hstatus (by decide)
    | text name =>
      have hname := h.name_ne (hsubject.symm.trans hid)
      cases he : o.clock.truncated.add? s.settings.expiry with
      | none =>
        rw [h.status_of_overflow hid hname hrow he] at hstatus
        exact absurd hstatus (by decide)
      | some e =>
        obtain ⟨token, hissue⟩ := SessionService.exists_issue he hkey (.ofRow row hname)
        obtain ⟨hok, -⟩ := h.answer_of_issue hid hname hrow hissue
        rw [hok] at hstatus
        exact absurd hstatus (by decide)
  · exact h.status_of_absent

/-- **From a provider token to a session.** The secret may serve, and the audience is not empty.
In every state that is reached, the exchange changes nothing, and tells that there is no row
exactly when the principal has none.  For the row of the principal, whose email is in normal form,
it gives a token, if the clock and the expiry lie in the calendar; and the token stands for the
row, whatever email the provider asserts.  The exceptions are an identifier that spells no text and
an expiry that is not computed, for which there is no token, and an expiry in the last fifteen
microseconds of the calendar, for which the token is never read back.

Requests one after another keep to the states that are reached; and whichever tokens are found in
their responses, they have the usual role alone wherever they are accepted, and nobody passes as
an administrator with them. -/
theorem session_exchange (hkey : Secret.key s.settings.secret = .ok key)
    (haudience : s.settings.audience ≠ "") :
    (∀ (o : Occasion) (m : Memory) (p : Principal), o.Exchanges s p → m.Reached →
      (o.answer m).2 = m ∧
      ((o.answer m).1.status = 404 ↔ m.records.get? p.subject = none) ∧
      ∀ row, m.records.get? p.subject = some row →
        row.id = p.subject ∧ Email.IsNormal row.email ∧
        (∀ b, p.subject = .broken b → (o.answer m).1.status = 500) ∧
        (o.clock.truncated.add? s.settings.expiry = none → (o.answer m).1.status = 500) ∧
        ∀ name e, p.subject = .text name → o.clock.truncated.add? s.settings.expiry = some e →
          Moment.inRange o.clock.instant = true → Moment.inRange e.instant = true →
            ∃ token, (o.answer m).1.status = 200 ∧
              (o.answer m).1.body =
                .json (SessionReply.ofRow s row p.emailVerified token).toJson ∧
              (e.instant ≤ Moment.maxRecorded →
                ∃ k : SessionClaims, k.expiresAt = ⟨e.timestamp * 1000000, some 0⟩ ∧
                  StandsFor s token row k) ∧
              (Moment.maxRecorded < e.instant →
                ∀ (o' : Occasion) (m' : Memory) (route : Route), route ∈ Route.ofUsers →
                  o'.Presents s token route → (o'.answer m').1.status = 500)) ∧
    (∀ (occasions : List Occasion) (m : Memory), m.Reached →
      (∀ o ∈ occasions, o.services.store = Memory.store) →
        (Occasion.run occasions m).2.Reached ∧
          ∀ response ∈ (Occasion.run occasions m).1, ∀ token, response.token? = some token →
            ∀ (clock : Moment) (machine : Machine),
              (∀ k, s.verify clock machine token = .ok k → k.roles = ["user"]) ∧
                ∀ k, SessionGuard.access s clock machine .admin (some token) ≠ .ok k) := by
  constructor
  · intro o m p h hm
    refine ⟨h.state_eq m, h.status_eq_not_found_iff hkey hm, ?_⟩
    intro row hrow
    have hsubject := hm.consistent.id_eq _ _ hrow
    refine ⟨hsubject, hm.normal _ _ hrow, fun b hb => h.status_of_broken (hsubject.trans hb) hrow,
      ?_, ?_⟩
    · intro hnone
      cases hid : row.id with
      | broken b => exact h.status_of_broken hid hrow
      | text name =>
        exact h.status_of_overflow hid (h.name_ne (hsubject.symm.trans hid)) hrow hnone
    intro name e hp he hclock he_range
    have hid : row.id = .text name := hsubject.trans hp
    have hname : name ≠ "" := h.name_ne hp
    obtain ⟨token, hissue⟩ := SessionService.exists_issue he hkey (.ofRow row hname)
    obtain ⟨hstatus, hbody⟩ := h.answer_of_issue hid hname hrow hissue
    refine ⟨token, hstatus, hbody, ?_, ?_⟩
    · intro hlast
      exact standsFor_of_issue haudience hid hname hclock he he_range hlast hissue
    · intro hbeyond o' m' route husers hpresents
      exact status_of_beyond haudience he he_range hbeyond hissue husers hpresents m'
  · intro occasions m hm hstore
    obtain ⟨hreached, hissued⟩ := Occasion.reached_run hm hstore
    refine ⟨hreached, ?_⟩
    intro response hresponse token htoken clock machine
    exact (hissued response hresponse token htoken).roles_eq s clock machine

/-- The provider asserts another email than the one that is stored, and a session of a week is used
up to its last microsecond. -/
theorem session_exchange_usual :
    let s : SessionService := ⟨.usual "hunter2"⟩
    let claims : Fields := [("sub", .text "user-1"), ("email", .text "b@example.com")]
    let services := Services.ofUser s claims
    let issued : Moment := ⟨0, some 0⟩
    let last : Moment := ⟨604800000000, some 0⟩
    let past : Moment := ⟨604800000001, some 0⟩
    let exchange := Occasion.bearing services .session issued "provider"
    ∃ token k, Secret.key "hunter2" = .ok (Utf8.ofString "hunter2") ∧
      (exchange.answer .first).1.status = 200 ∧
      (exchange.answer .first).1.token? = some token ∧
      k.email = .text "a@example.com" ∧ s.verify last ⟨0, true⟩ token = .ok k ∧
      ((Occasion.bearing services .user last token).answer .first).1.status = 200 ∧
      ((Occasion.bearing services .admin last token).answer .first).1.status = 403 ∧
      ((Occasion.bearing services .user past token).answer .first).1.status = 401 ∧
      SessionGuard.access s last ⟨0, true⟩ .admin (some token) ≠ .ok k := by
  intro s claims services issued last past exchange
  have hkey : Secret.key "hunter2" = .ok (Utf8.ofString "hunter2") :=
    Secret.key_eq_ok_iff.mpr ⟨by decide +kernel, by decide +kernel, rfl⟩
  have hclaims : Principal.ofClaims claims =
      .ok ⟨"user-1", some (.text "b@example.com"), none, false, claims⟩ := rfl
  have hexchanges : exchange.Exchanges s _ := Occasion.exchanges_bearing hclaims issued
  obtain ⟨hexchange, hhistory⟩ := session_exchange (s := s) hkey (by decide)
  obtain ⟨-, -, hrow⟩ := hexchange _ _ _ hexchanges Memory.reached_first
  obtain ⟨-, -, -, -, hissued⟩ := hrow .first Memory.get?_first
  have he : issued.truncated.add? s.settings.expiry = some last := by decide
  obtain ⟨token, hstatus, hbody, hstands, -⟩ := hissued "user-1" last rfl he (by decide) (by decide)
  obtain ⟨k, hexp, hk⟩ := hstands (by decide)
  have htoken : (exchange.answer .first).1.token? = some token := by
    rw [Response.token?, hbody]
    rfl
  have hlast : last.instant ≤ k.expiresAt.instant := by
    rw [hexp]
    decide
  have hpast : k.expiresAt.instant < past.instant := by
    rw [hexp]
    decide
  obtain ⟨-, hroles⟩ := hhistory [exchange] .first Memory.reached_first
    (by simp [exchange, Occasion.bearing, services, Services.ofUser])
  obtain ⟨-, hnone⟩ := hroles _ (List.mem_singleton_self _) token htoken last ⟨0, true⟩
  have hpresents : ∀ route (clock : Moment), clock.offset.isSome →
      (Occasion.bearing services route clock token).Presents s token route :=
    fun route clock hzone => Occasion.presents_bearing rfl route hzone
  have hverify : s.verify last ⟨0, true⟩ token = .ok k := hk.accepted last ⟨0, true⟩ rfl hlast
  obtain ⟨huser, -⟩ := hk.user _ .first (hpresents .user last rfl) hlast
  have hadmin := hk.admin _ .first (hpresents .admin last rfl) hlast
  have hexpired := hk.expired _ .first .user (by decide) (hpresents .user past rfl) hpast
  exact ⟨token, k, hkey, hstatus, htoken, hk.email, hverify, huser, hadmin, hexpired, hnone k⟩

/-- **The last microsecond.** A session begins two seconds before the end of year 9999 and lasts one
microsecond less than two seconds.  Both moments lie in the calendar, and the server breaks down
over the token from the very beginning. -/
theorem session_exchange_last :
    let s : SessionService := ⟨⟨"test-secret-key-for-testing-only", "eros-backend", "eros-users",
      "eros-api", ⟨1999999⟩⟩⟩
    let claims : Fields := [("sub", .text "user-1"), ("email", .text "a@example.com")]
    let services := Services.ofUser s claims
    let issued : Moment := ⟨253402300798000000, some 0⟩
    let exchange := Occasion.bearing services .session issued "provider"
    ∃ token, Moment.inRange issued.instant = true ∧
      Moment.inRange (issued.instant + s.settings.expiry.microseconds) = true ∧
      (exchange.answer .first).1.status = 200 ∧ (exchange.answer .first).1.token? = some token ∧
      ((Occasion.bearing services .user issued token).answer .first).1.status = 500 ∧
      ((Occasion.bearing services .admin issued token).answer .first).1.status = 500 := by
  intro s claims services issued exchange
  have hkey : Secret.key s.settings.secret = .ok (Utf8.ofString s.settings.secret) :=
    Secret.key_eq_ok_iff.mpr ⟨by decide +kernel, by decide +kernel, rfl⟩
  have haudience : s.settings.audience ≠ "" := by decide
  have he : issued.truncated.add? s.settings.expiry = some ⟨253402300799999999, some 0⟩ := by
    decide
  have hclaims : Principal.ofClaims claims =
      .ok ⟨"user-1", some (.text "a@example.com"), none, false, claims⟩ := rfl
  have hexchanges : exchange.Exchanges s _ := Occasion.exchanges_bearing hclaims issued
  have hname : "user-1" ≠ "" := by decide
  obtain ⟨token, hissue⟩ := SessionService.exists_issue he hkey (.ofRow .first hname)
  obtain ⟨hstatus, hbody⟩ := hexchanges.answer_of_issue rfl hname Memory.get?_first hissue
  have htoken : (exchange.answer .first).1.token? = some token := by
    rw [Response.token?, hbody]
    rfl
  have hfails : ∀ route ∈ Route.ofUsers,
      ((Occasion.bearing services route issued token).answer .first).1.status = 500 := by
    intro route husers
    have hpresents : (Occasion.bearing services route issued token).Presents s token route :=
      Occasion.presents_bearing rfl route rfl
    exact status_of_beyond haudience he (by decide) (by decide) hissue husers hpresents .first
  exact ⟨token, by decide, by decide, hstatus, htoken, hfails .user (by decide),
    hfails .admin (by decide)⟩

end IdentityService
