import IdentityService.Proofs.Http.AllOrNothing
import IdentityService.Proofs.Http.Isolation

/-!
# Requests on Their Occasions

A history of the interface is a sequence of requests, each on its own occasion: with the services
that are there when it arrives, and with what the clocks read.  The store is the only thing that
one request leaves to the next.  What it can hold is settled by the calls that synchronizers ask
for, since no request makes any other call, however its calls take turns with those of others.

## Main definitions

- `Http.Occasion`: a request with the services it meets; `Occasion.run`, one after another.
- `Memory.Reached`: the states that calls of synchronizers lead to.
- `Http.Response.token?`, `IsIssued`: the session token in a response, and where it comes from.

## Main statements

- `Memory.Reached.consistent`, `Memory.Reached.normal`: rows and indexes of these states.
- `Http.Occasion.reached_answer`, `Http.Occasion.reached_run`: requests lead to no other states.
- `Http.Occasion.issued_of_answer`: a token in a response was issued for an ordinary user.
-/

namespace IdentityService

open Http

/-! ## §1 States that are reached -/

/-- A call that some synchronizer asks of its store. -/
def Store.Call.IsAsked (call : Store.Call) : Prop :=
  ∃ (s : Synchronizer) (asking : Synchronizer.Call), s.asks asking = some call

/-- Emails are written in normal form only. -/
theorem Store.Call.IsAsked.writes {call : Store.Call} (h : call.IsAsked) :
    call.Writes fun _ email _ => Email.IsNormal email := by
  obtain ⟨s, asking, hasks⟩ := h
  have hwrites := Synchronizer.writes_of_asks hasks
  cases call with
  | upsert subject email phone now => exact hwrites.email
  | _ => trivial

/-- The states of the memory store that calls of synchronizers lead to, whichever operations or
requests they belong to and in whatever order they take turns. -/
inductive Memory.Reached : Memory → Prop
  | empty : Reached .empty
  | call {m : Memory} {call : Store.Call} (h : Reached m) (hasked : call.IsAsked) :
      Reached (Memory.store.after m call)

namespace Memory.Reached

variable {m : Memory}

theorem run (h : m.Reached) {calls : List Store.Call} (hcalls : ∀ call ∈ calls, call.IsAsked) :
    (store.run m calls).Reached :=
  Store.run_induction (fun _ _ hasked hstate => hstate.call hasked) h hcalls

/-- Rows and indexes are in step. -/
theorem consistent (h : m.Reached) : m.Consistent := by
  induction h with
  | empty => exact consistent_empty
  | call _ _ ih => exact ih.after _

/-- Every stored email is in normal form. -/
theorem normal (h : m.Reached) : m.Holds fun _ email _ => Email.IsNormal email := by
  induction h with
  | empty => exact holds_empty
  | call _ hasked ih => exact ih.after hasked.writes

end Memory.Reached

/-! ## §2 The calls of requests -/

namespace Synchronizer

variable {s : Synchronizer} {p : Principal} {accepted : String × Option String}

theorem asks_of_acceptPrincipal (h : s.acceptPrincipal p = .ok accepted) (clock : Moment) :
    s.asks (.syncPrincipal p clock) = some (.upsert p.subject accepted.1 accepted.2 clock) := by
  unfold acceptPrincipal at h
  cases hemail : p.email with
  | none =>
    rw [hemail] at h
    exact absurd h (by simp)
  | some email =>
    rw [hemail] at h
    by_cases hempty : email.isEmpty = true
    · exact absurd h (by simp [hempty])
    · simp only [if_neg hempty] at h
      simp only [asks, hemail, if_neg hempty, write?, h]

end Synchronizer

/-- **Plans.** Every call that the plan of a route makes is one that a synchronizer asks for. -/
theorem Route.plan_makes_asked {σ : Type} (sv : Services σ) (c : Call) (route : Route) :
    (route.plan sv c).Makes Store.Call.IsAsked := by
  have hfind : ∀ subject, (Store.Call.findById subject).IsAsked := fun subject =>
    ⟨⟨.usual⟩, .findById subject, rfl⟩
  have htouch : ∀ subject clock, (Store.Call.touch subject clock).IsAsked := fun subject clock =>
    ⟨⟨.usual⟩, .touch subject clock, rfl⟩
  cases route with
  | health => trivial
  | readiness => trivial
  | user => trivial
  | admin => trivial
  | syncProfile =>
    apply Plan.Makes.given
    rintro ⟨p, s⟩ -
    apply Plan.Makes.given
    intro accepted haccepted
    have hwrite : ∀ clock, (Store.Call.upsert p.subject accepted.1 accepted.2 clock).IsAsked :=
      fun clock => ⟨s, .syncPrincipal p clock, Synchronizer.asks_of_acceptPrincipal haccepted clock⟩
    exact ⟨hwrite, fun _ => ⟨htouch p.subject, fun _ => trivial⟩⟩
  | identity =>
    apply Plan.Makes.given
    rintro ⟨p, s⟩ -
    apply Plan.Makes.row (hfind p.subject)
    intro r
    exact ⟨htouch p.subject, fun _ => trivial⟩
  | deleteAccount =>
    apply Plan.Makes.given
    rintro ⟨p, s⟩ -
    exact ⟨⟨s, .delete p.subject, rfl⟩, fun _ => trivial⟩
  | session =>
    apply Plan.Makes.given
    rintro ⟨p, sessions⟩ -
    exact .row (hfind p.subject) fun r => trivial

/-! ## §3 Tokens in replies -/

namespace Http

/-- The session token in a response. -/
def Response.token? (r : Response) : Option String :=
  match r.body with
  | .json (.object fields) => (Assoc.get? fields "access_token").bind Json.text?
  | _ => none

end Http

theorem ServiceError.token?_of_reply {e : ServiceError} {response : Response}
    (h : e.reply? = some response) : response.token? = none := by
  rcases reply_cases h with ⟨-, rfl⟩ | ⟨codes, -, rfl⟩ | ⟨error, detail, code, rfl⟩ <;> rfl

/-- No fault is answered with a token. -/
theorem Fault.token?_response (f : Fault) : f.response.token? = none := by
  cases f with
  | service e =>
    show (e.reply?.getD breakdown).token? = none
    cases hreply : e.reply? with
    | none => rfl
    | some response => exact ServiceError.token?_of_reply hreply
  | _ => rfl

/-- A token that some session service issued at some time for a user with the usual roles. -/
def IsIssued (token : String) : Prop :=
  ∃ (s : SessionService) (clock : Moment) (subject : TokenSubject),
    s.issue clock subject = .ok token ∧ subject.roles = TokenSubject.usualRoles

/-- **Replies.** Only the exchange replies with a token, and the token was issued. -/
theorem Route.Replies.isIssued {σ : Type} {sv : Services σ} {c : Call} {route : Route}
    {reply : RouteReply} {token : String} (h : route.Replies sv c reply)
    (htoken : (Application.responseOf (.ok reply)).token? = some token) : IsIssued token := by
  cases h with
  | @session s holder token' row verified hroles hissue =>
    obtain rfl : token' = token := Option.some.inj htoken
    exact ⟨s, c.clock, holder, hissue, hroles⟩
  | _ =>
    -- the other replies have no field for a token
    have hnone : none = some token := htoken
    exact absurd hnone (by simp)

/-! ## §4 Occasions -/

namespace Http

theorem token?_naming (origin : Option String) (response : Response) :
    (CrossOriginPolicy.naming origin response).token? = response.token? := by
  cases origin <;> rfl

theorem token?_answer (policy : CrossOriginPolicy) (r : Request) :
    (policy.answer r).token? = none := by
  rw [CrossOriginPolicy.answer, token?_naming]
  split <;> rfl

theorem token?_named (policy : CrossOriginPolicy) (r : Request) {response : Response}
    (h : response.token? = none) :
    (Application.forMethod r.method (policy.announce r response)).token? = none := by
  unfold Application.forMethod
  split
  · rfl
  · unfold CrossOriginPolicy.announce
    cases r.header? "Origin" with
    | none => exact h
    | some origin => exact (token?_naming _ _).trans h

/-- A request on its occasion: the rules for other origins, the services that it meets, what the
clock of the service reads, and the machine. -/
structure Occasion where
  policy : CrossOriginPolicy
  services : Services Memory
  clock : Moment
  machine : Machine
  request : Request

namespace Occasion

variable {o : Occasion} {m : Memory} {route : Route}

/-- The request as its route sees it. -/
def call (o : Occasion) : Call := Application.callOf o.clock o.machine o.request

/-- The response to the request, and the state that it leaves. -/
def answer (o : Occasion) (m : Memory) : Response × Memory :=
  let answer := Application.respondWith o.policy o.services o.clock o.machine o.request m
  (answer.1.1, answer.2)

/-- The responses to requests one after another, and the state that they leave. -/
def run : List Occasion → Memory → List Response × Memory
  | [], m => ([], m)
  | o :: occasions, m =>
      ((o.answer m).1 :: (run occasions (o.answer m).2).1, (run occasions (o.answer m).2).2)

/-- A request that finds a route is answered with the outcome of the route. -/
theorem answer_of_route (hroute : Application.findRoute o.request = .ok route) (m : Memory) :
    ∃ headers, (o.answer m).1 =
        { Application.responseOf (route.run o.services o.call m).1 with headers := headers } ∧
      (o.answer m).2 = (route.run o.services o.call m).2 :=
  Application.respondWith_eq o.policy o.services o.clock o.machine hroute m

theorem status_of_route (hroute : Application.findRoute o.request = .ok route) (m : Memory) :
    (o.answer m).1.status = (Application.responseOf (route.run o.services o.call m).1).status := by
  obtain ⟨headers, hresponse, -⟩ := answer_of_route hroute m
  rw [hresponse]

theorem body_of_route (hroute : Application.findRoute o.request = .ok route) (m : Memory) :
    (o.answer m).1.body = (Application.responseOf (route.run o.services o.call m).1).body := by
  obtain ⟨headers, hresponse, -⟩ := answer_of_route hroute m
  rw [hresponse]

/-- A request that finds no route changes nothing, and bears no token. -/
theorem answer_of_no_route {response : Response}
    (hroute : Application.findRoute o.request = .error response) (m : Memory) :
    (o.answer m).1.token? = none ∧ (o.answer m).2 = m := by
  have hnone : response.token? = none := by
    unfold Application.findRoute at hroute
    split at hroute
    · obtain rfl := Except.error.inj hroute
      rfl
    · split at hroute
      · exact absurd hroute (by simp)
      · obtain rfl := Except.error.inj hroute
        rfl
  unfold answer
  simp only [Application.respondWith, hroute]
  split
  · exact ⟨token?_answer _ _, rfl⟩
  · exact ⟨token?_named _ _ hnone, rfl⟩

/-! ## §5 Histories -/

/-- Over the memory store a route does what its plan does. -/
theorem run_of_memory (hstore : o.services.store = Memory.store) (route : Route) :
    route.run o.services o.call = (route.plan o.services o.call).run Memory.store o.clock := by
  rw [← Route.run_plan, hstore]
  rfl

/-- **One request.** It makes no call but those that synchronizers ask for. -/
theorem reached_answer (h : m.Reached) (hstore : o.services.store = Memory.store) :
    (o.answer m).2.Reached := by
  cases hroute : Application.findRoute o.request with
  | error response =>
    obtain ⟨-, hsame⟩ := answer_of_no_route hroute m
    rw [hsame]
    exact h
  | ok route =>
    obtain ⟨-, -, hstate⟩ := answer_of_route hroute m
    have hmakes := Route.plan_makes_asked o.services o.call route
    obtain ⟨calls, hcalls, hrun⟩ := hmakes.exists_calls Memory.store o.clock m
    rw [hstate, run_of_memory hstore, hrun]
    exact h.run hcalls

/-- **One response.** The token in it, if there is one, was issued for a user with the usual
roles. -/
theorem issued_of_answer (hstore : o.services.store = Memory.store) {token : String}
    (htoken : (o.answer m).1.token? = some token) : IsIssued token := by
  cases hroute : Application.findRoute o.request with
  | error response =>
    obtain ⟨hnone, -⟩ := answer_of_no_route hroute m
    rw [hnone] at htoken
    exact absurd htoken (by simp)
  | ok route =>
    obtain ⟨headers, hresponse, -⟩ := answer_of_route hroute m
    rw [hresponse, run_of_memory hstore] at htoken
    cases hrun : (route.plan o.services o.call).run Memory.store o.clock m with
    | mk outcome m' =>
      rw [hrun] at htoken
      cases outcome with
      | ok reply =>
        have hreply := (Route.gives_replies o.services o.call route).run hrun
        exact hreply.isIssued htoken
      | error f =>
        -- a fault is answered without a token
        exact absurd (f.token?_response.symm.trans htoken) (by simp)

/-- **Histories.** Requests one after another keep to the states that are reached, and every token
in their responses was issued for a user with the usual roles. -/
theorem reached_run {occasions : List Occasion} (h : m.Reached)
    (hstore : ∀ o ∈ occasions, o.services.store = Memory.store) :
    (run occasions m).2.Reached ∧
      ∀ response ∈ (run occasions m).1, ∀ token, response.token? = some token →
        IsIssued token := by
  induction occasions generalizing m with
  | nil => exact ⟨h, by simp [run]⟩
  | cons o occasions ih =>
    obtain ⟨hfirst, hrest⟩ := List.forall_mem_cons.mp hstore
    obtain ⟨hreached, hissued⟩ := ih (reached_answer h hfirst) hrest
    refine ⟨hreached, ?_⟩
    intro response hresponse token htoken
    rcases List.mem_cons.mp hresponse with rfl | hlater
    · exact issued_of_answer hfirst htoken
    · exact hissued response hlater token htoken

end Occasion

end Http

end IdentityService
