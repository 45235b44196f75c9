import IdentityService.Proofs.Http.Plan
import IdentityService.Proofs.Schema.Checked

/-!
# All or Nothing

A request that fails leaves the store as it was, but for one exception.  Whatever can go wrong, a
refused token, an email or a phone number that is not in order, one that belongs to another
subject, a row that is missing, or a token that cannot be issued, goes wrong before the first
change.  Only the writing of the reply comes after it; and a reply that shows a subject cannot be
written when the subject spells no text.

## Main definitions

- `Plan.Gives`: a plan all of whose results have a property.
- `Route.Replies`: the replies of a route.
- `Services.HalfDone`: what a request leaves that is carried out and fails.

## Main statements

- `Plan.Gives.run`: over any store, the result of a plan is one that the plan gives.
- `Route.unchanged_or_halfDone`: a plan that fails has changed nothing, or is half done.
- `Application.changes_of_failure`: what a request without success leaves, and which requests leave
  rows and indexes as they were even with success.
- `Application.changed_by_failure`: a request that fails and leaves a row behind.
-/

namespace IdentityService

/-! ## §1 Results of plans -/

namespace Plan

variable {σ α β : Type} {Q : α → Prop} {p : Plan α}

/-- Every result has a property, whatever the store answers. -/
def Gives (Q : α → Prop) : Plan α → Prop
  | done r => ∀ a, r = .ok a → Q a
  | write _ _ _ next => ∀ result, (next result).Gives Q
  | find _ next => ∀ r, (next r).Gives Q
  | touch _ next => ∀ n, (next n).Gives Q
  | delete _ next => ∀ n, (next n).Gives Q

theorem gives_error (f : Fault) : (done (.error f) : Plan α).Gives Q :=
  fun a ha => absurd ha (by simp)

theorem Gives.given {r : Outcome β} {next : β → Plan α} (h : ∀ b, r = .ok b → (next b).Gives Q) :
    (Plan.given r next).Gives Q := by
  cases r with
  | ok b => exact h b rfl
  | error f => exact gives_error f

theorem Gives.row {principal : Principal} {next : IdentityRecord → Plan α}
    (h : ∀ r, (next r).Gives Q) : (Plan.row principal next).Gives Q := by
  intro found
  cases found with
  | some r => exact h r
  | none => exact gives_error _

/-- A step of the store that leads to a result has an answer, and what follows leads to it. -/
theorem exists_answer_of_andThen {step : StoreStep σ β} {next : β → StoreStep σ α}
    {state state' : σ} {a : α} (h : step.andThen next state = (.ok a, state')) :
    ∃ b between, step state = (.ok b, between) ∧ next b between = (.ok a, state') := by
  unfold StoreStep.andThen at h
  split at h
  · rename_i b between hstep
    exact ⟨b, between, hstep, h⟩
  · exact absurd (congrArg Prod.fst h) (by simp)

/-- **A run.** Over any store, the result of a plan is one that the plan gives. -/
theorem Gives.run (h : p.Gives Q) {store : Store σ} {clock : Moment} {state state' : σ} {a : α}
    (hrun : p.run store clock state = (.ok a, state')) : Q a := by
  -- the store may answer anything, and the plan gives such results after every answer
  induction p generalizing state with
  | done r => exact h a (congrArg Prod.fst hrun)
  | write subject email phone next ih =>
    obtain ⟨result, between, -, hnext⟩ := exists_answer_of_andThen hrun
    exact ih result (h result) hnext
  | find subject next ih =>
    obtain ⟨r, between, -, hnext⟩ := exists_answer_of_andThen hrun
    exact ih r (h r) hnext
  | touch subject next ih =>
    obtain ⟨n, between, -, hnext⟩ := exists_answer_of_andThen hrun
    exact ih n (h n) hnext
  | delete subject next ih =>
    obtain ⟨n, between, -, hnext⟩ := exists_answer_of_andThen hrun
    exact ih n (h n) hnext

end Plan

/-! ## §2 Replies -/

theorem Json.spellsTexts_raw (s : RawText) : (raw s).spellsTexts = s.text?.isSome := by
  cases s <;> rfl

theorem Json.spellsTexts_ofText? (s : Option String) : (ofText? s).spellsTexts = true := by
  cases s <;> rfl

/-- A summary can be written when its identifier spells a text. -/
theorem IdentitySummary.spellsTexts_toJson (s : IdentitySummary) :
    s.toJson.spellsTexts = s.id.text?.isSome := by
  simp [toJson, Json.spellsTexts, Json.fieldsSpellTexts, Json.spellsTexts_raw,
    Json.spellsTexts_ofText?]

theorem SyncReply.spellsTexts_toJson (r : SyncReply) :
    r.toJson.spellsTexts = r.user.id.text?.isSome := by
  simp [toJson, Json.spellsTexts, Json.fieldsSpellTexts, IdentitySummary.spellsTexts_toJson]

theorem SessionReply.spellsTexts_toJson (r : SessionReply) :
    r.toJson.spellsTexts = r.user.id.text?.isSome := by
  simp [toJson, Json.spellsTexts, Json.fieldsSpellTexts, IdentitySummary.spellsTexts_toJson]

/-- A status reports success. -/
def Http.IsSuccess (status : Nat) : Prop := 200 ≤ status ∧ status < 300

instance (status : Nat) : Decidable (Http.IsSuccess status) := instDecidableAnd

namespace RouteReply

variable {body : Json} {reply : RouteReply}

theorem ofBody_of_spells (h : body.spellsTexts = true) : ofBody body = .ok (ok body) := if_pos h

theorem ofBody_of_broken (h : body.spellsTexts = false) : ofBody body = .error .unwritable :=
  if_neg (by simp [h])

theorem eq_ok_of_ofBody (h : ofBody body = .ok reply) : reply = ok body := by
  unfold ofBody at h
  split at h
  · exact (Except.ok.inj h).symm
  · exact absurd h (by simp)

theorem isSuccess_ok (body : Json) : Http.IsSuccess (ok body).status :=
  (by decide : Http.IsSuccess 200)

theorem isSuccess_done : Http.IsSuccess done.status := (by decide : Http.IsSuccess 204)

end RouteReply

theorem Plan.gives_ofBody {Q : RouteReply → Prop} {body : Json} (h : Q (.ok body)) :
    (done (RouteReply.ofBody body)).Gives Q := by
  intro reply hreply
  obtain rfl := RouteReply.eq_ok_of_ofBody hreply
  exact h

/-- A session token is issued for the identifier and the email of a row, and the usual roles. -/
theorem Services.sessionReply_eq_ok {s : SessionService} {clock : Moment} {row : IdentityRecord}
    {verified : Bool} {reply : RouteReply} (h : sessionReply s clock row verified = .ok reply) :
    ∃ holder token, row.id = .text holder.subject ∧ holder.email = .text row.email ∧
      holder.roles = TokenSubject.usualRoles ∧ s.issue clock holder = .ok token ∧
      reply = .ok (SessionReply.toJson
        ⟨token, SessionReply.bearer, s.expiresIn, .ofRecord row verified⟩) := by
  obtain ⟨holder, hholder, hrest⟩ := bind_eq_ok_iff.mp h
  obtain ⟨token, hissue, hreply⟩ := bind_eq_ok_iff.mp hrest
  have hreply := RouteReply.eq_ok_of_ofBody hreply
  unfold TokenSubject.ofParts at hholder
  split at hholder
  · rename_i name hid
    split at hholder
    · exact absurd hholder (by simp [Checked.outcome])
    · obtain rfl := Except.ok.inj hholder
      exact ⟨_, token, hid, rfl, rfl, hissue, hreply⟩
  · exact absurd hholder (by simp [Checked.outcome])

/-- The replies that the plan of a route can end with.  A session token is for a user with the usual
roles, whoever asks for it. -/
inductive Route.Replies {σ : Type} (sv : Services σ) (c : Call) : Route → RouteReply → Prop
  | health : Replies sv c .health (.ok (HealthReply.healthy sv.version).toJson)
  | readiness :
      Replies sv c .readiness (.ok (ReadinessReply.ofProvider sv.isProviderInitialized).toJson)
  | user {claims : SessionClaims} (hsession : sv.session c = .ok claims) :
      Replies sv c .user (.ok (SessionUser.ofClaims claims).toBody)
  | admin {claims admitted : SessionClaims} (hsession : sv.session c = .ok claims)
      (hadmitted : SessionGuard.requireRole .admin claims = .ok admitted) :
      Replies sv c .admin (.ok (SessionUser.ofClaims admitted).toBody)
  | synchronized (p : Principal) (result : SyncResult) :
      Replies sv c .syncProfile (.ok (SyncReply.toJson
        ⟨.ofRecord result.record p.emailVerified, result.wasCreated⟩))
  | identity (row : IdentityRecord) (verified : Bool) :
      Replies sv c .identity (.ok (IdentitySummary.ofRecord row verified).toJson)
  | deleted : Replies sv c .deleteAccount .done
  | session {s : SessionService} {holder : TokenSubject} {token : String} (row : IdentityRecord)
      (verified : Bool) (hroles : holder.roles = TokenSubject.usualRoles)
      (hissue : s.issue c.clock holder = .ok token) :
      Replies sv c .session (.ok (SessionReply.toJson
        ⟨token, SessionReply.bearer, s.expiresIn, .ofRecord row verified⟩))

namespace Route

variable {σ : Type} {sv : Services σ} {c : Call} {route : Route} {reply : RouteReply}

/-- Every reply reports success. -/
theorem Replies.isSuccess (h : route.Replies sv c reply) : Http.IsSuccess reply.status := by
  cases h with
  | deleted => exact RouteReply.isSuccess_done
  | _ => exact RouteReply.isSuccess_ok _

/-- **Routes.** Whatever the store answers, every result of the plan of a route is a reply of the
route. -/
theorem gives_replies (sv : Services σ) (c : Call) (route : Route) :
    (route.plan sv c).Gives (route.Replies sv c) := by
  cases route with
  | health => exact Plan.gives_ofBody .health
  | readiness => exact Plan.gives_ofBody .readiness
  | user =>
    intro reply hreply
    obtain ⟨claims, hsession, hreply⟩ := bind_eq_ok_iff.mp hreply
    obtain rfl := RouteReply.eq_ok_of_ofBody hreply
    exact .user hsession
  | admin =>
    intro reply hreply
    obtain ⟨claims, hsession, hreply⟩ := bind_eq_ok_iff.mp hreply
    obtain ⟨admitted, hadmitted, hreply⟩ := bind_eq_ok_iff.mp hreply
    obtain rfl := RouteReply.eq_ok_of_ofBody hreply
    exact .admin hsession hadmitted
  | syncProfile =>
    apply Plan.Gives.given
    rintro ⟨p, s⟩ -
    apply Plan.Gives.given
    rintro accepted - result n
    exact Plan.gives_ofBody (.synchronized p result)
  | identity =>
    apply Plan.Gives.given
    rintro ⟨p, s⟩ -
    apply Plan.Gives.row
    rintro r n
    exact Plan.gives_ofBody (.identity r p.emailVerified)
  | deleteAccount =>
    apply Plan.Gives.given
    rintro ⟨p, s⟩ - rows reply hreply
    split at hreply
    · exact absurd hreply (by simp)
    · obtain rfl := Except.ok.inj hreply
      exact .deleted
  | session =>
    apply Plan.Gives.given
    rintro ⟨p, sessions⟩ -
    apply Plan.Gives.row
    intro r reply hreply
    obtain ⟨holder, token, -, -, hroles, hissue, rfl⟩ := Services.sessionReply_eq_ok hreply
    exact .session r p.emailVerified hroles hissue

end Route

/-! ## §3 Routes that only read -/

/-- A call only reads. -/
def Store.Call.IsRead : Store.Call → Prop
  | .findById _ | .findByEmail _ => True
  | _ => False

theorem Memory.run_of_isRead {calls : List Store.Call} (h : ∀ call ∈ calls, call.IsRead)
    (m : Memory) : Memory.store.run m calls = m := by
  refine Store.run_induction (P := (· = m)) (Q := Store.Call.IsRead) ?_ rfl h
  intro state call hcall hstate
  cases call with
  | findById subject => exact hstate
  | findByEmail email => exact hstate
  | _ => exact absurd hcall id

namespace Route

variable {σ : Type}

/-- The routes that change rows. -/
def changing : List Route := [syncProfile, identity, deleteAccount]

/-- All other routes only read. -/
theorem plan_makes_isRead (sv : Services σ) (c : Call) {route : Route} (h : route ∉ changing) :
    (route.plan sv c).Makes Store.Call.IsRead := by
  cases route with
  | health => trivial
  | readiness => trivial
  | user => trivial
  | admin => trivial
  | session =>
    apply Plan.Makes.given
    rintro ⟨p, sessions⟩ -
    exact .row trivial fun r => trivial
  | _ => exact absurd (by decide) h

theorem state_of_not_changing (sv : Services σ) (c : Call) {route : Route}
    (h : route ∉ changing) (m : Memory) :
    ((route.plan sv c).run Memory.store c.clock m).2 = m := by
  obtain ⟨calls, hcalls, hrun⟩ := (plan_makes_isRead sv c h).exists_calls Memory.store c.clock m
  rw [hrun, Memory.run_of_isRead hcalls]

theorem eq_of_path {route other : Route} (h : route.path = other.path) : route = other := by
  cases route <;> cases other <;> first | rfl | exact absurd h (by decide)

end Route

/-! ## §4 Requests that are half done -/

namespace Plan

variable {α : Type} {p : Principal} {s : Synchronizer} {clock : Moment} {m m' : Memory}
  {email : String} {phone : Option String} {result : SyncResult} {row : IdentityRecord} {f : Fault}

/-- A reply that cannot be written shows a row of a subject that spells no text. -/
theorem text?_eq_none_of_unwritten {body : Json} {subject : RawText}
    (hbody : body.spellsTexts = subject.text?.isSome) (h : RouteReply.ofBody body = .error f) :
    subject.text? = none := by
  cases hsubject : subject.text? with
  | none => rfl
  | some name =>
    rw [RouteReply.ofBody_of_spells (by rw [hbody, hsubject]; rfl)] at h
    exact absurd h (by simp)

/-- A write that is accepted and meets no conflict is followed by a touch and the reply. -/
theorem run_sync_of_written (haccepted : s.acceptPrincipal p = .ok (email, phone))
    (hwritten : m.upsert? p.subject email phone clock = .ok (result, m')) :
    (sync p s).run Memory.store clock m = (syncReply p result, (m'.touch p.subject clock).2) := by
  simp only [sync, haccepted, given, run, StoreStep.andThen, Memory.store, hwritten]
  rfl

/-- **Synchronization.** It ends with a fault before anything has changed, or it writes. -/
theorem run_sync (p : Principal) (s : Synchronizer) (clock : Moment) (m : Memory) :
    (∃ f, (sync p s).run Memory.store clock m = (.error f, m)) ∨
      ∃ email phone result m', s.acceptPrincipal p = .ok (email, phone) ∧
        m.upsert? p.subject email phone clock = .ok (result, m') ∧
        (sync p s).run Memory.store clock m =
          (syncReply p result, (m'.touch p.subject clock).2) := by
  cases haccepted : s.acceptPrincipal p with
  | error f =>
    refine .inl ⟨f, ?_⟩
    simp only [sync, haccepted, given]
    rfl
  | ok accepted =>
    cases hwritten : m.upsert? p.subject accepted.1 accepted.2 clock with
    | error field =>
      refine .inl ⟨.service (.identityConflict field.label), ?_⟩
      simp only [sync, haccepted, given, run, StoreStep.andThen, Memory.store, hwritten]
    | ok written =>
      exact .inr ⟨accepted.1, accepted.2, written.1, written.2, rfl, hwritten,
        run_sync_of_written haccepted hwritten⟩

/-- Where a synchronization fails after it has written, its subject spells no text. -/
theorem cases_of_sync_error (hm : m.Consistent)
    (h : (sync p s).run Memory.store clock m = (.error f, m')) :
    m' = m ∨ ∃ email phone result m'', s.acceptPrincipal p = .ok (email, phone) ∧
      m.upsert? p.subject email phone clock = .ok (result, m'') ∧ p.subject.text? = none ∧
      m' = (m''.touch p.subject clock).2 := by
  rcases run_sync p s clock m with
    ⟨f', hrun⟩ | ⟨email, phone, result, m'', haccepted, hwritten, hrun⟩
  · rw [hrun] at h
    exact .inl (Prod.mk.inj h).2.symm
  · rw [hrun] at h
    obtain ⟨hreply, rfl⟩ := Prod.mk.inj h
    have hbroken : p.subject.text? = none := by
      rw [← hm.id_of_written hwritten]
      exact text?_eq_none_of_unwritten (SyncReply.spellsTexts_toJson _) hreply
    exact .inr ⟨email, phone, result, m'', haccepted, hwritten, hbroken, rfl⟩

theorem run_row_of_absent {next : IdentityRecord → Plan α}
    (h : m.records.get? p.subject = none) :
    (Plan.row p next).run Memory.store clock m =
      (.error (.service (.identityNotFound p.subject)), m) := by
  simp only [Plan.row, run, StoreStep.andThen, Memory.store, Memory.findById, h]
  rfl

theorem run_row_of_present {next : IdentityRecord → Plan α}
    (h : m.records.get? p.subject = some row) :
    (Plan.row p next).run Memory.store clock m = (next row).run Memory.store clock m := by
  simp only [Plan.row, run, StoreStep.andThen, Memory.store, Memory.findById, h]

/-- A row that is there is touched and shown. -/
theorem run_read_of_present (h : m.records.get? p.subject = some row) :
    (read p).run Memory.store clock m =
      (RouteReply.ofBody (IdentitySummary.ofRecord row p.emailVerified).toJson,
        (m.touch p.subject clock).2) :=
  run_row_of_present h

/-- Where a reading fails after it has found its row, its subject spells no text. -/
theorem cases_of_read_error (hm : m.Consistent)
    (h : (read p).run Memory.store clock m = (.error f, m')) :
    m' = m ∨ ∃ row, m.records.get? p.subject = some row ∧ p.subject.text? = none ∧
      m' = (m.touch p.subject clock).2 := by
  cases hrow : m.records.get? p.subject with
  | none =>
    rw [read, run_row_of_absent hrow] at h
    exact .inl (Prod.mk.inj h).2.symm
  | some row =>
    rw [run_read_of_present hrow] at h
    obtain ⟨hreply, rfl⟩ := Prod.mk.inj h
    have hbroken : p.subject.text? = none := by
      rw [← hm.id_eq _ _ hrow]
      exact text?_eq_none_of_unwritten (IdentitySummary.spellsTexts_toJson _) hreply
    exact .inr ⟨row, rfl, hbroken, rfl⟩

/-- A removal that fails has found no row. -/
theorem run_remove (p : Principal) (clock : Moment) (m : Memory) :
    (remove p).run Memory.store clock m = (.error (.service (.identityNotFound p.subject)), m) ∨
      (remove p).run Memory.store clock m = (.ok .done, (m.delete p.subject).2) := by
  cases hrow : m.records.get? p.subject with
  | none =>
    left
    simp only [remove, run, StoreStep.andThen, Memory.store, Memory.delete_of_absent hrow]
    rfl
  | some row =>
    right
    simp only [remove, run, StoreStep.andThen, Memory.store, Memory.delete_of_present hrow]
    rfl

end Plan

/-- What a request leaves that is carried out and fails: the caller has a subject that spells no
text, and the row, which is written and touched or touched alone, cannot be shown. -/
inductive Services.HalfDone {σ : Type} (sv : Services σ) (c : Call) (m : Memory) :
    Route → Memory → Prop
  | synchronized {p : Principal} {s : Synchronizer} {email : String} {phone : Option String}
      {result : SyncResult} {m' : Memory} (hidentity : sv.identity c = .ok (p, s))
      (hbroken : p.subject.text? = none) (haccepted : s.acceptPrincipal p = .ok (email, phone))
      (hwritten : m.upsert? p.subject email phone c.clock = .ok (result, m')) :
      HalfDone sv c m .syncProfile (m'.touch p.subject c.clock).2
  | read {p : Principal} {s : Synchronizer} {row : IdentityRecord}
      (hidentity : sv.identity c = .ok (p, s)) (hbroken : p.subject.text? = none)
      (hrow : m.records.get? p.subject = some row) :
      HalfDone sv c m .identity (m.touch p.subject c.clock).2

namespace Route

variable {σ : Type} {sv : Services σ} {c : Call} {route : Route} {m m' : Memory} {f : Fault}

/-- A request that is half done ends with an unwritable reply. -/
theorem run_of_halfDone (hm : m.Consistent) (h : sv.HalfDone c m route m') :
    (route.plan sv c).run Memory.store c.clock m = (.error .unwritable, m') := by
  cases h with
  | @synchronized p s email phone result m' hidentity hbroken haccepted hwritten =>
    have hreply : Plan.syncReply p result = .error .unwritable := by
      apply RouteReply.ofBody_of_broken
      rw [SyncReply.spellsTexts_toJson]
      simp [IdentitySummary.ofRecord, hm.id_of_written hwritten, hbroken]
    simp only [plan, hidentity, Plan.given]
    rw [Plan.run_sync_of_written haccepted hwritten, hreply]
  | @read p s row hidentity hbroken hrow =>
    have hreply : RouteReply.ofBody (IdentitySummary.ofRecord row p.emailVerified).toJson =
        .error .unwritable := by
      apply RouteReply.ofBody_of_broken
      rw [IdentitySummary.spellsTexts_toJson]
      simp [IdentitySummary.ofRecord, hm.id_eq _ _ hrow, hbroken]
    simp only [plan, hidentity, Plan.given]
    rw [Plan.run_read_of_present hrow, hreply]

/-- Without a principal and a synchronizer a route that changes rows ends at once. -/
theorem plan_of_no_identity (h : sv.identity c = .error f) (hroute : route ∈ changing) :
    route.plan sv c = .done (.error f) := by
  cases route with
  | syncProfile => rw [plan, h, Plan.given]
  | identity => rw [plan, h, Plan.given]
  | deleteAccount => rw [plan, h, Plan.given]
  | _ => exact absurd hroute (by decide)

/-- **Failures.** A plan that fails has changed nothing, or is half done. -/
theorem unchanged_or_halfDone (hm : m.Consistent)
    (h : (route.plan sv c).run Memory.store c.clock m = (.error f, m')) :
    m' = m ∨ sv.HalfDone c m route m' := by
  by_cases hroute : route ∈ changing
  · cases hidentity : sv.identity c with
    | error f' =>
      rw [plan_of_no_identity hidentity hroute] at h
      exact .inl (Prod.mk.inj h).2.symm
    | ok found =>
      obtain ⟨p, s⟩ := found
      cases route with
      | syncProfile =>
        simp only [plan, hidentity, Plan.given] at h
        rcases Plan.cases_of_sync_error hm h with
          hsame | ⟨email, phone, result, m'', haccepted, hwritten, hbroken, rfl⟩
        · exact .inl hsame
        · exact .inr (.synchronized hidentity hbroken haccepted hwritten)
      | identity =>
        simp only [plan, hidentity, Plan.given] at h
        rcases Plan.cases_of_read_error hm h with hsame | ⟨row, hrow, hbroken, rfl⟩
        · exact .inl hsame
        · exact .inr (.read hidentity hbroken hrow)
      | deleteAccount =>
        simp only [plan, hidentity, Plan.given] at h
        rcases Plan.run_remove p c.clock m with hrun | hrun
        · rw [hrun] at h
          exact .inl (Prod.mk.inj h).2.symm
        · rw [hrun] at h
          exact absurd (Prod.mk.inj h).1 (by simp)
      | _ => exact absurd hroute (by decide)
  · have hstate := state_of_not_changing sv c hroute m
    rw [h] at hstate
    exact .inl hstate

end Route

namespace Application

open Http

variable (a : Application) (clock : Moment) (machine : Machine) (r : Request)

/-- A request without success has found no route, or its plan has ended with a fault. -/
theorem error_of_not_isSuccess {a : Application} {clock : Moment} {machine : Machine} {r : Request}
    {route : Route} {m : Memory} (hroute : findRoute r = .ok route)
    (h : ¬ IsSuccess (a.respond clock machine r (.memory m)).1.1.status) :
    ∃ f m', a.planned clock machine route r m = (.error f, m') := by
  obtain ⟨headers, hresponse, -⟩ := respond_eq a clock machine hroute m
  cases hplanned : a.planned clock machine route r m with
  | mk outcome m' =>
    cases outcome with
    | error f => exact ⟨f, m', rfl⟩
    | ok reply =>
      -- the reply of a route reports success
      have hreply := (Route.gives_replies a.services (callOf clock machine r) route).run hplanned
      rw [hresponse, hplanned] at h
      exact absurd hreply.isSuccess h

/-- **All or nothing.** Whatever a request carries, and however the provider behaves, a response
that reports no success leaves the rows and both indexes as they were, or the request is half done;
and every request that is half done breaks down, with the row written or touched.  The exchange of
a provider token for a session token and the routes of users leave rows and indexes as they were
even with success. -/
theorem changes_of_failure (calls : List Store.Call) :
    let m := Memory.store.run .empty calls
    let answer := a.respond clock machine r (.memory m)
    (¬ IsSuccess answer.1.1.status → answer.2 = .memory m ∨
      ∃ route m', findRoute r = .ok route ∧
        a.services.HalfDone (callOf clock machine r) m route m' ∧ answer.2 = .memory m') ∧
    (∀ route m', findRoute r = .ok route →
      a.services.HalfDone (callOf clock machine r) m route m' →
        answer = ((breakdown, none), .memory m')) ∧
    (r.route ∈ [Route.session.path, Route.user.path, Route.admin.path] →
      answer.2 = .memory m) := by
  intro m answer
  have hm : m.Consistent := Memory.consistent_run calls
  refine ⟨fun hfailed => ?_, fun route m' hroute hhalf => ?_, fun hpath => ?_⟩
  · cases hroute : findRoute r with
    | error response => exact .inl (respond_of_not_found hroute (.memory m))
    | ok route =>
      obtain ⟨-, -, hstate⟩ := respond_eq a clock machine hroute m
      obtain ⟨f, m', hplanned⟩ := error_of_not_isSuccess hroute hfailed
      rw [hplanned] at hstate
      rcases Route.unchanged_or_halfDone (c := callOf clock machine r) hm hplanned with
        hsame | hhalf
      · exact .inl (hstate.trans (congrArg _ hsame))
      · exact .inr ⟨route, m', rfl, hhalf, hstate⟩
  · have hplanned : a.planned clock machine route r m = (.error .unwritable, m') :=
      Route.run_of_halfDone hm hhalf
    have hrun : runRoute a.services clock machine route r (.memory m) =
        (.error .unwritable, .memory m') := by
      rw [runRoute_memory, Directory.onMemory, hplanned]
    exact respondWith_of_fault a.settings.crossOrigin hroute hrun
  · cases hroute : findRoute r with
    | error response => exact respond_of_not_found hroute (.memory m)
    | ok route =>
      obtain ⟨hfound, -⟩ := findRoute_eq_ok hroute
      have hreads : route ∉ Route.changing := by
        rw [← hfound] at hpath
        simp only [List.mem_cons, List.not_mem_nil, or_false] at hpath
        rcases hpath with hpath | hpath | hpath
        all_goals
          rw [Route.eq_of_path hpath]
          decide
      obtain ⟨-, -, hstate⟩ := respond_eq a clock machine hroute m
      exact hstate.trans (congrArg _
        (Route.state_of_not_changing a.services (callOf clock machine r) hreads m))

/-- **Half a pair.** The subject of a principal is half of a surrogate pair.  The request writes its
row and fails, and the email is taken from then on. -/
theorem changed_by_failure :
    let clock : Moment := ⟨0, some 0⟩
    let half : BrokenText := ⟨[0xD800], rfl⟩
    let claims : Fields := [("sub", .brokenText half), ("email", .text "a@example.com")]
    let a : Application :=
      ⟨⟨"Eros Identity API", "0.1.0", false, "INFO", "0.0.0.0", 8000, false,
          ⟨["*"], false, ["*"], ["*"]⟩, ⟨"hunter2", "eros-backend", "eros-users", "eros-api", 7⟩,
          ⟨"", "", ProviderSettings.usualTimeout⟩, .memory, ⟨"", ""⟩, .usual⟩,
        some ⟨"eros", fun _ => .claims (.object claims), ProviderSettings.usualTimeout⟩⟩
    let r : Request := ⟨"POST", "/api/auth/sync-profile", [("Authorization", "Bearer token")]⟩
    let answer := a.respond clock ⟨0, true⟩ r (.memory .empty)
    ¬ IsSuccess answer.1.1.status ∧
      ∃ m', answer.2 = .memory m' ∧ m'.byEmail.get? "a@example.com" = some (.broken half) := by
  intro clock half claims a r answer
  have hroute : findRoute r = .ok .syncProfile := by decide +kernel
  obtain ⟨-, -, hstate⟩ := respond_eq a clock ⟨0, true⟩ hroute .empty
  exact ⟨by decide +kernel, _, hstate, by decide +kernel⟩

end Application

end IdentityService
