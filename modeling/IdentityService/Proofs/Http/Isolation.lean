import IdentityService.Proofs.Http.AllOrNothing

/-!
# One Subject at a Time

A request acts for the subject as which it is authenticated, and for no other.  Every call of its
plan is about this subject, so the rows of all others stay as they are, whatever the claims say and
however the request ends.  That the others keep their index entries as well is due to the indexes
being in step with the rows, before the request and after it.

## Main definitions

- `Services.caller?`: the subject as which a request is authenticated.
- `Discloses`: what a successful response tells about a subject.

## Main statements

- `Route.plan_makes_about`: the calls of a plan are about the caller.
- `Memory.Consistent.same_entries`: rows that stay keep their index entries.
- `Application.only_own_row`: a request touches the row of the caller alone, and tells of no other.
-/

namespace IdentityService

/-! ## §1 Callers -/

variable {σ : Type} {sv : Services σ} {c : Call} {subject : RawText}

/-- The subject as which a request is authenticated on a route: that of its session on the routes
of users, and that of its principal on the routes of identities. -/
def Services.caller? (sv : Services σ) (c : Call) : Route → Option RawText
  | .health | .readiness => none
  | .user | .admin => (sv.session c).toOption.map (.text ·.subject)
  | .syncProfile | .identity | .deleteAccount | .session =>
      (sv.principal c).toOption.map (·.subject)

theorem eq_of_toOption {α : Type} {r : Outcome α} {f : α → RawText} {a : α}
    (h : r.toOption.map f = some subject) (hr : r = .ok a) : f a = subject := by
  rw [hr] at h
  exact Option.some.inj h

theorem Services.principal_of_identity {p : Principal} {s : Synchronizer}
    (h : sv.identity c = .ok (p, s)) : sv.principal c = .ok p := by
  obtain ⟨p', hp', h⟩ := bind_eq_ok_iff.mp h
  obtain ⟨s', -, h⟩ := bind_eq_ok_iff.mp h
  obtain ⟨rfl, -⟩ := Prod.mk.inj (Except.ok.inj h)
  exact hp'

/-- The principal that a plan acts for is the caller. -/
theorem Services.subject_of_identity {p : Principal} {s : Synchronizer}
    (hcaller : (sv.principal c).toOption.map (·.subject) = some subject)
    (h : sv.identity c = .ok (p, s)) : p.subject = subject :=
  eq_of_toOption hcaller (principal_of_identity h)

theorem Services.subject_of_exchange {p : Principal} {sessions : SessionService}
    (hcaller : (sv.principal c).toOption.map (·.subject) = some subject)
    (h : (do
      let (p, _) ← sv.identity c
      let sessions ← sv.sessions
      .ok (p, sessions)) = Except.ok (p, sessions)) : p.subject = subject := by
  obtain ⟨⟨p', s⟩, hidentity, h⟩ := bind_eq_ok_iff.mp h
  obtain ⟨sessions', -, h⟩ := bind_eq_ok_iff.mp h
  obtain ⟨rfl, -⟩ := Prod.mk.inj (Except.ok.inj h)
  exact subject_of_identity hcaller hidentity

/-! ## §2 The calls of a plan -/

/-- **Plans.** Every call that the plan of a route makes is about the caller. -/
theorem Route.plan_makes_about {route : Route} (h : sv.caller? c route = some subject) :
    (route.plan sv c).Makes (Store.Call.IsAbout subject) := by
  cases route with
  | health => trivial
  | readiness => trivial
  | user => trivial
  | admin => trivial
  | syncProfile =>
    apply Plan.Makes.given
    rintro ⟨p, s⟩ hidentity
    have hsubject := Services.subject_of_identity h hidentity
    apply Plan.Makes.given
    intro accepted _
    exact ⟨fun _ => hsubject, fun _ => ⟨fun _ => hsubject, fun _ => trivial⟩⟩
  | identity =>
    apply Plan.Makes.given
    rintro ⟨p, s⟩ hidentity
    have hsubject := Services.subject_of_identity h hidentity
    apply Plan.Makes.row hsubject
    intro r
    exact ⟨fun _ => hsubject, fun _ => trivial⟩
  | deleteAccount =>
    apply Plan.Makes.given
    rintro ⟨p, s⟩ hidentity
    exact ⟨Services.subject_of_identity h hidentity, fun _ => trivial⟩
  | session =>
    apply Plan.Makes.given
    rintro ⟨p, sessions⟩ hexchange
    have hsubject := Services.subject_of_exchange h hexchange
    exact .row hsubject fun r => trivial

/-! ## §3 The rows of others -/

namespace Memory

variable {m m' : Memory}

/-- Calls about a subject leave the rows of all others alone. -/
theorem get?_run_of_about {calls : List Store.Call} (h : ∀ call ∈ calls, call.IsAbout subject)
    {other : RawText} (hother : other ≠ subject) (m : Memory) :
    (store.run m calls).records.get? other = m.records.get? other := by
  refine Store.run_induction (P := fun m' : Memory => m'.records.get? other = m.records.get? other)
    (Q := Store.Call.IsAbout subject) ?_ rfl h
  -- each call keeps the row of the other
  intro state call hcall hstate
  rw [get?_after_of_about hcall hother, hstate]

theorem Consistent.run (h : Consistent m) (calls : List Store.Call) :
    Consistent (store.run m calls) :=
  Store.run_induction (Q := fun _ => True) (fun _ call _ hstate => hstate.after call) h
    fun _ _ => trivial

/-- **Entries.** Where rows and indexes are in step, a row that stays keeps its entries. -/
theorem Consistent.same_entries (h : Consistent m) (h' : Consistent m')
    (hrow : m'.records.get? subject = m.records.get? subject) :
    (∀ k, m'.byEmail.get? k = some subject ↔ m.byEmail.get? k = some subject) ∧
      ∀ p, m'.byPhone.get? p = some subject ↔ m.byPhone.get? p = some subject :=
  ⟨h.email.same_owner h'.email hrow, h.phone.same_owner h'.phone hrow⟩

end Memory

/-! ## §4 What a response tells -/

open Http

/-- What the body of a successful response tells about a subject.  On the routes of identities it
describes the row of the subject as it is now, and a session token carries the identifier and the
email of this row; on the routes of users it repeats the claims of the session of the subject. -/
inductive Discloses (sv : Services σ) (c : Call) (subject : RawText) (m : Memory) :
    Route → Body → Prop
  | synchronized {row : IdentityRecord} (verified created : Bool)
      (hrow : m.records.get? subject = some row) (hid : row.id = subject) :
      Discloses sv c subject m .syncProfile
        (.json (SyncReply.toJson ⟨.ofRecord row verified, created⟩))
  | identity {row : IdentityRecord} (verified : Bool)
      (hrow : m.records.get? subject = some row) (hid : row.id = subject) :
      Discloses sv c subject m .identity (.json (IdentitySummary.ofRecord row verified).toJson)
  | deleted : Discloses sv c subject m .deleteAccount (.text "")
  | session {row : IdentityRecord} {sessions : SessionService} {holder : TokenSubject}
      {token : String} (verified : Bool) (hrow : m.records.get? subject = some row)
      (hid : row.id = subject) (hholder : subject = .text holder.subject)
      (hemail : holder.email = .text row.email)
      (htoken : sessions.issue c.clock holder = .ok token) :
      Discloses sv c subject m .session
        (.json (SessionReply.toJson
          ⟨token, SessionReply.bearer, sessions.expiresIn, .ofRecord row verified⟩))
  | user {claims : SessionClaims} (hclaims : sv.session c = .ok claims)
      (hsubject : subject = .text claims.subject) :
      Discloses sv c subject m .user (.json (SessionUser.ofClaims claims).toBody)
  | admin {claims : SessionClaims} (hclaims : sv.session c = .ok claims)
      (hsubject : subject = .text claims.subject) :
      Discloses sv c subject m .admin (.json (SessionUser.ofClaims claims).toBody)

namespace Plan

variable {m m' : Memory} {p : Principal} {clock : Moment} {reply : RouteReply}

theorem run_given_eq_ok {α β : Type} {store : Store σ} {r : Outcome β} {next : β → Plan α}
    {state state' : σ} {a : α} (h : (given r next).run store clock state = (.ok a, state')) :
    ∃ b, r = .ok b ∧ (next b).run store clock state = (.ok a, state') := by
  cases r with
  | ok b => exact ⟨b, rfl, h⟩
  | error f => exact absurd (Prod.mk.inj h).1 (by simp)

theorem run_row_eq_ok {α : Type} {next : IdentityRecord → Plan α} {a : α}
    (h : (row p next).run Memory.store clock m = (.ok a, m')) :
    ∃ r, m.records.get? p.subject = some r ∧
      (next r).run Memory.store clock m = (.ok a, m') := by
  cases hr : m.records.get? p.subject with
  | none =>
    rw [run_row_of_absent hr] at h
    exact absurd (Prod.mk.inj h).1 (by simp)
  | some r =>
    rw [run_row_of_present hr] at h
    exact ⟨r, rfl, h⟩

/-- After a synchronization the reply describes the row that is there. -/
theorem run_sync_eq_ok {s : Synchronizer}
    (h : (sync p s).run Memory.store clock m = (.ok reply, m')) :
    ∃ row created, m'.records.get? p.subject = some row ∧
      reply = .ok (SyncReply.toJson ⟨.ofRecord row p.emailVerified, created⟩) := by
  rcases run_sync p s clock m with ⟨f, hrun⟩ | ⟨email, phone, result, written, -, hwritten, hrun⟩
  · rw [hrun] at h
    exact absurd (Prod.mk.inj h).1 (by simp)
  · rw [hrun] at h
    obtain ⟨hreply, rfl⟩ := Prod.mk.inj h
    obtain ⟨-, hrecords⟩ := Memory.records_upsert? hwritten
    refine ⟨result.record.touchedAt clock, result.wasCreated, ?_, ?_⟩
    · rw [Memory.get?_touch, if_pos rfl, hrecords, Assoc.get?_set, if_pos rfl]
      rfl
    · exact RouteReply.eq_ok_of_ofBody hreply

/-- A row that is read is the one that is there, but for the time of its touch. -/
theorem run_read_eq_ok (h : (read p).run Memory.store clock m = (.ok reply, m')) :
    ∃ row, m'.records.get? p.subject = some row ∧
      reply = .ok (IdentitySummary.ofRecord row p.emailVerified).toJson := by
  obtain ⟨r, hr, -⟩ := run_row_eq_ok h
  rw [run_read_of_present hr] at h
  obtain ⟨hreply, rfl⟩ := Prod.mk.inj h
  refine ⟨r.touchedAt clock, ?_, ?_⟩
  · rw [Memory.get?_touch, if_pos rfl, hr]
    rfl
  · exact RouteReply.eq_ok_of_ofBody hreply

/-- A token is issued for the row that is there. -/
theorem run_exchange_eq_ok {sessions : SessionService} {now : Moment}
    (h : (exchange p sessions now).run Memory.store clock m = (.ok reply, m')) :
    ∃ row holder token, m'.records.get? p.subject = some row ∧
      row.id = .text holder.subject ∧ holder.email = .text row.email ∧
      sessions.issue now holder = .ok token ∧
      reply = .ok (SessionReply.toJson
        ⟨token, SessionReply.bearer, sessions.expiresIn, .ofRecord row p.emailVerified⟩) := by
  obtain ⟨r, hr, h⟩ := run_row_eq_ok h
  obtain ⟨hreply, rfl⟩ := Prod.mk.inj h
  obtain ⟨holder, token, hid, hemail, -, hissue, rfl⟩ := Services.sessionReply_eq_ok hreply
  exact ⟨r, holder, token, hr, hid, hemail, hissue, rfl⟩

end Plan

/-- **Replies.** The reply that the plan of a route ends with tells of the caller alone. -/
theorem Route.discloses {route : Route} {m m' : Memory} {reply : RouteReply}
    (hcaller : sv.caller? c route = some subject) (hm' : m'.Consistent)
    (h : (route.plan sv c).run Memory.store c.clock m = (.ok reply, m')) :
    Discloses sv c subject m' route (Application.responseOf (.ok reply)).body := by
  cases route with
  | health => exact absurd hcaller (by simp [Services.caller?])
  | readiness => exact absurd hcaller (by simp [Services.caller?])
  | user =>
    obtain ⟨claims, hclaims, hreply⟩ := bind_eq_ok_iff.mp (Prod.mk.inj h).1
    obtain rfl := RouteReply.eq_ok_of_ofBody hreply
    exact .user hclaims (eq_of_toOption hcaller hclaims).symm
  | admin =>
    obtain ⟨claims, hclaims, hreply⟩ := bind_eq_ok_iff.mp (Prod.mk.inj h).1
    obtain ⟨admitted, hadmitted, hreply⟩ := bind_eq_ok_iff.mp hreply
    -- the guard lets the claims pass as they are
    obtain rfl : claims = admitted := by
      unfold SessionGuard.requireRole at hadmitted
      split at hadmitted
      · exact Except.ok.inj hadmitted
      · exact absurd hadmitted (by simp)
    obtain rfl := RouteReply.eq_ok_of_ofBody hreply
    exact .admin hclaims (eq_of_toOption hcaller hclaims).symm
  | syncProfile =>
    obtain ⟨⟨p, s⟩, hidentity, h⟩ := Plan.run_given_eq_ok h
    obtain rfl := Services.subject_of_identity hcaller hidentity
    obtain ⟨row, created, hrow, rfl⟩ := Plan.run_sync_eq_ok h
    exact .synchronized p.emailVerified created hrow (hm'.id_eq _ _ hrow)
  | identity =>
    obtain ⟨⟨p, s⟩, hidentity, h⟩ := Plan.run_given_eq_ok h
    obtain rfl := Services.subject_of_identity hcaller hidentity
    obtain ⟨row, hrow, rfl⟩ := Plan.run_read_eq_ok h
    exact .identity p.emailVerified hrow (hm'.id_eq _ _ hrow)
  | deleteAccount =>
    obtain ⟨⟨p, s⟩, -, h⟩ := Plan.run_given_eq_ok h
    change (Plan.remove p).run Memory.store c.clock m = (.ok reply, m') at h
    rcases Plan.run_remove p c.clock m with hrun | hrun
    · rw [hrun] at h
      exact absurd (Prod.mk.inj h).1 (by simp)
    · rw [hrun] at h
      obtain rfl := Except.ok.inj (Prod.mk.inj h).1
      exact .deleted
  | session =>
    obtain ⟨⟨p, sessions⟩, hexchange, h⟩ := Plan.run_given_eq_ok h
    obtain rfl := Services.subject_of_exchange hcaller hexchange
    obtain ⟨row, holder, token, hrow, hholder, hemail, htoken, rfl⟩ := Plan.run_exchange_eq_ok h
    have hid := hm'.id_eq _ _ hrow
    exact .session p.emailVerified hrow hid (hid.symm.trans hholder) hemail htoken

/-! ## §5 Requests -/

/-- The replies to errors: the uniform one, one that shows the codes of a failed validation, and
the others, which have the status of the treatment. -/
theorem ServiceError.reply_cases {e : ServiceError} {response : Response}
    (h : e.reply? = some response) :
    (Treatment.ofKind e.kind = .unauthenticated ∧ response = unauthenticated) ∨
      (∃ codes, Treatment.ofKind e.kind = .invalid ∧
        response = .plain Treatment.invalid.status
          (.json (ValidationBody.ofErrors codes).toJson)) ∨
      ∃ error detail code,
        response = failure (Treatment.ofKind e.kind).status error detail code := by
  have hbody : ∀ {t error detail}, e.bodyReply? t error detail = some response →
      ∃ error detail code, response = failure t.status error detail code := by
    intro t error detail hreply
    obtain ⟨shown, -, hreply⟩ := Option.bind_eq_some_iff.mp hreply
    obtain ⟨code, -, hreply⟩ := Option.bind_eq_some_iff.mp hreply
    exact ⟨error, shown, code, (Option.some.inj hreply).symm⟩
  unfold reply? at h
  cases ht : Treatment.ofKind e.kind with
  | unauthenticated =>
    simp only [ht] at h
    exact .inl ⟨rfl, (Option.some.inj h).symm⟩
  | invalid =>
    simp only [ht] at h
    obtain ⟨codes, -, hcodes⟩ := Option.map_eq_some_iff.mp h
    exact .inr (.inl ⟨codes, rfl, hcodes.symm⟩)
  | _ =>
    simp only [ht] at h
    exact .inr (.inr (hbody h))

/-- The reply to an error has the status of its treatment. -/
theorem ServiceError.status_of_reply {e : ServiceError} {response : Response}
    (h : e.reply? = some response) : response.status = (Treatment.ofKind e.kind).status := by
  rcases reply_cases h with ⟨ht, rfl⟩ | ⟨codes, ht, rfl⟩ | ⟨error, detail, code, rfl⟩
  · rw [ht]
    rfl
  · rw [ht]
    rfl
  · rfl

theorem Treatment.not_isSuccess (t : Treatment) : ¬ IsSuccess t.status := by
  cases t <;> decide

theorem Fault.not_isSuccess (f : Fault) : ¬ IsSuccess f.response.status := by
  cases f with
  | service e =>
    show ¬ IsSuccess (e.reply?.getD breakdown).status
    cases hreply : e.reply? with
    | none => exact Treatment.not_isSuccess .internal
    | some response =>
      rw [Option.getD_some, ServiceError.status_of_reply hreply]
      exact Treatment.not_isSuccess _
  | unauthenticated => exact Treatment.not_isSuccess .unauthenticated
  | _ => exact Treatment.not_isSuccess .internal

namespace Application

/-- **One subject at a time.** A request that is authenticated as a subject leaves the rows of all
others as they are, together with the entries of their emails and phone numbers in the indexes,
whatever its claims are and however it ends.  When it succeeds, the identifiers and the emails in
its response are those of its subject. -/
theorem only_own_row (a : Application) (clock : Moment) (machine : Machine) (r : Request)
    (calls : List Store.Call) {route : Route} {subject : RawText}
    (hroute : findRoute r = .ok route)
    (hcaller : a.services.caller? (callOf clock machine r) route = some subject) :
    let m := Memory.store.run .empty calls
    let answer := a.respond clock machine r (.memory m)
    ∃ m', answer.2 = .memory m' ∧
      (∀ other, other ≠ subject →
        m'.records.get? other = m.records.get? other ∧
        (∀ k, m'.byEmail.get? k = some other ↔ m.byEmail.get? k = some other) ∧
        (∀ p, m'.byPhone.get? p = some other ↔ m.byPhone.get? p = some other) ∧
        ∀ row, m.records.get? other = some row →
          m'.byEmail.get? (Memory.emailKey row.email) = some other ∧
          ∀ p, row.phone = some p → m'.byPhone.get? p = some other) ∧
      (IsSuccess answer.1.1.status →
        Discloses a.services (callOf clock machine r) subject m' route answer.1.1.body) := by
  intro m answer
  obtain ⟨headers, hresponse, hstate⟩ := respond_eq a clock machine hroute m
  -- the request leaves what some calls about its subject leave
  have hm : m.Consistent := Memory.consistent_run calls
  have habout := Route.plan_makes_about hcaller
  obtain ⟨made, hmade, hrun⟩ := habout.exists_calls Memory.store clock m
  have hm' : (a.planned clock machine route r m).2.Consistent := by
    rw [planned, hrun]
    exact hm.run made
  refine ⟨(a.planned clock machine route r m).2, hstate, ?_, ?_⟩
  · intro other hother
    have hrow : (a.planned clock machine route r m).2.records.get? other =
        m.records.get? other := by
      rw [planned, hrun]
      exact Memory.get?_run_of_about hmade hother m
    -- the indexes are in step with the rows before and after, so they agree on a row that stays
    obtain ⟨hemail, hphone⟩ := hm.same_entries hm' hrow
    refine ⟨hrow, hemail, hphone, fun row hr => ?_⟩
    rw [← hrow] at hr
    exact ⟨(hm'.email _ _).mpr ⟨row, hr, rfl⟩, fun p hp => (hm'.phone _ _).mpr ⟨row, hr, hp⟩⟩
  · intro hsuccess
    change IsSuccess (a.respond clock machine r (.memory m)).1.1.status at hsuccess
    show Discloses _ _ _ _ _ (a.respond clock machine r (.memory m)).1.1.body
    rw [hresponse] at hsuccess ⊢
    cases hplanned : a.planned clock machine route r m with
    | mk outcome m' =>
      rw [hplanned] at hsuccess hm'
      cases outcome with
      | error f =>
        -- no fault is answered with success
        exact absurd hsuccess (Fault.not_isSuccess f)
      | ok reply => exact Route.discloses hcaller hm' hplanned

/-- A subject gives its phone number up for another email: the request succeeds, the row of the
other subject and its entries stay, and the response tells the new email. -/
theorem only_own_row_usual :
    let clock : Moment := ⟨0, some 0⟩
    let claims : Fields := [("sub", .text "user-1"), ("email", .text "New@Example.com")]
    let a : Application :=
      ⟨⟨"Eros Identity API", "0.1.0", false, "INFO", "0.0.0.0", 8000, false,
          ⟨["*"], false, ["*"], ["*"]⟩, ⟨"hunter2", "eros-backend", "eros-users", "eros-api", 7⟩,
          ⟨"", "", ProviderSettings.usualTimeout⟩, .memory, ⟨"", ""⟩, .usual⟩,
        some ⟨"eros", fun _ => .claims (.object claims), ProviderSettings.usualTimeout⟩⟩
    let r : Request := ⟨"POST", "/api/auth/sync-profile", [("Authorization", "Bearer token")]⟩
    let calls : List Store.Call := [
      .upsert "user-1" "a@example.com" (some "+14155552671") clock,
      .upsert "user-2" "b@example.com" (some "+14155552672") clock]
    findRoute r = .ok .syncProfile ∧
      a.services.caller? (callOf clock ⟨0, true⟩ r) .syncProfile = some (.text "user-1") ∧
      IsSuccess (a.respond clock ⟨0, true⟩ r (.memory (Memory.store.run .empty calls))).1.1.status ∧
      ∃ m', (a.respond clock ⟨0, true⟩ r (.memory (Memory.store.run .empty calls))).2 = .memory m' ∧
        m'.records.get? "user-2" = (Memory.store.run .empty calls).records.get? "user-2" ∧
        m'.byEmail.get? "b@example.com" = some (.text "user-2") ∧
        m'.byPhone.get? "+14155552672" = some (.text "user-2") ∧
        Discloses a.services (callOf clock ⟨0, true⟩ r) "user-1" m' .syncProfile
          (a.respond clock ⟨0, true⟩ r (.memory (Memory.store.run .empty calls))).1.1.body := by
  intro clock claims a r calls
  have hroute : findRoute r = .ok .syncProfile := by decide +kernel
  have hcaller : a.services.caller? (callOf clock ⟨0, true⟩ r) .syncProfile =
      some (.text "user-1") := by decide +kernel
  have hsuccess : IsSuccess
      (a.respond clock ⟨0, true⟩ r (.memory (Memory.store.run .empty calls))).1.1.status := by
    decide +kernel
  obtain ⟨m', hstate, hothers, hdiscloses⟩ := only_own_row a clock ⟨0, true⟩ r calls hroute hcaller
  obtain ⟨hrow, -, -, hentries⟩ := hothers "user-2" (by decide)
  have hkey : Memory.emailKey "b@example.com" = "b@example.com" := by decide +kernel
  obtain ⟨hemail, hphone⟩ := hentries
    ⟨.text "user-2", "b@example.com", some "+14155552672", clock, clock, none⟩ (by decide +kernel)
  rw [hkey] at hemail
  exact ⟨hroute, hcaller, hsuccess, m', hstate, hrow, hemail, hphone _ rfl, hdiscloses hsuccess⟩

end Application

end IdentityService
