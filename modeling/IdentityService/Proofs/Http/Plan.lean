import IdentityService.Http.Application
import IdentityService.Proofs.Directory.SingleRow

/-!
# Routes as Plans

A route takes at most two steps on the store, and everything it decides, it decides between them.
A plan holds these steps apart: it ends with an outcome, or it takes one step and goes on with the
answer.  Run without a break, a plan does what its route does; kept apart, its steps can be looked
at one by one, and can take turns with the steps of other requests.

## Main definitions

- `Plan`: what is left of a request.
- `Plan.run`: a plan without a break.
- `Route.plan`: the plan of a route.

## Main statements

- `Route.run_plan`: the plan of a route does what the route does.
- `Plan.run_eq_feed`: running a plan is taking its next step and running the rest.
- `Plan.Makes.exists_calls`: a plan leaves what the calls leave that it makes.
- `Application.respondWith_eq`, `Application.respond_eq`: the response to a request that finds a
  route, by the outcome of the route and by its plan.
-/

namespace IdentityService

open Store (Answer)

/-! ## §1 Plans -/

/-- What is left of a request: its outcome, or a step on the store and what follows the answer. -/
inductive Plan (α : Type)
  | done (r : Outcome α)
  | write (subject : RawText) (email : String) (phone : Option String)
      (next : SyncResult → Plan α)
  | find (subject : RawText) (next : Option IdentityRecord → Plan α)
  | touch (subject : RawText) (next : Nat → Plan α)
  | delete (subject : RawText) (next : Nat → Plan α)

namespace Plan

variable {σ α β : Type}

/-- Goes on with a value, or ends with a fault. -/
def given (r : Outcome β) (next : β → Plan α) : Plan α :=
  match r with
  | .ok b => next b
  | .error f => done (.error f)

/-- The call that a plan makes next, at a reading of the clock. -/
def call? (clock : Moment) : Plan α → Option Store.Call
  | done _ => none
  | write subject email phone _ => some (.upsert subject email phone clock)
  | find subject _ => some (.findById subject)
  | touch subject _ => some (.touch subject clock)
  | delete subject _ => some (.delete subject)

/-- What is left of a plan once its call has been answered.  A call that fails ends it. -/
def feed : Plan α → Outcome Answer → Plan α
  | done r, _ => done r
  | _, .error f => done (.error f)
  | write _ _ _ next, .ok (.written result) => next result
  | find _ next, .ok (.found r) => next r
  | touch _ next, .ok (.count n) => next n
  | delete _ next, .ok (.count n) => next n
  | p, _ => p

/-- A plan without a break. -/
def run (store : Store σ) (clock : Moment) : Plan α → StoreStep σ α
  | done r => .ofOutcome r
  | write subject email phone next =>
      (store.upsert subject email phone clock).andThen fun result => (next result).run store clock
  | find subject next => (store.findById subject).andThen fun r => (next r).run store clock
  | touch subject next => (store.touch subject clock).andThen fun n => (next n).run store clock
  | delete subject next => (store.delete subject).andThen fun n => (next n).run store clock

theorem run_given (store : Store σ) (clock : Moment) (r : Outcome β) (next : β → Plan α) :
    (given r next).run store clock =
      (StoreStep.ofOutcome r).andThen fun b => (next b).run store clock := by
  cases r <;> rfl

/-- **One step.** Running a plan is making its next call and running what is left. -/
theorem run_eq_feed (store : Store σ) {clock : Moment} {p : Plan α} {call : Store.Call}
    (h : p.call? clock = some call) (state : σ) :
    p.run store clock state =
      (p.feed (store.perform call state).1).run store clock (store.perform call state).2 := by
  cases p with
  | done r => exact absurd h (by simp [call?])
  | _ =>
    obtain rfl := Option.some.inj h
    simp only [run, StoreStep.andThen, Store.perform, Store.answering]
    split
    · rename_i hstep
      rw [hstep]
      rfl
    · rename_i hstep
      rw [hstep]
      rfl

/-! ## §2 The calls of a plan -/

/-- Every call that a plan can make has a property, whatever the clock reads and however the calls
before it are answered. -/
def Makes (P : Store.Call → Prop) : Plan α → Prop
  | done _ => True
  | write subject email phone next =>
      (∀ clock, P (.upsert subject email phone clock)) ∧ ∀ result, (next result).Makes P
  | find subject next => P (.findById subject) ∧ ∀ r, (next r).Makes P
  | touch subject next => (∀ clock, P (.touch subject clock)) ∧ ∀ n, (next n).Makes P
  | delete subject next => P (.delete subject) ∧ ∀ n, (next n).Makes P

variable {P : Store.Call → Prop} {p : Plan α}

theorem Makes.given {r : Outcome β} {next : β → Plan α} (h : ∀ b, r = .ok b → (next b).Makes P) :
    (Plan.given r next).Makes P := by
  cases r with
  | ok b => exact h b rfl
  | error f => trivial

theorem Makes.call {clock : Moment} {call : Store.Call} (h : p.Makes P)
    (hcall : p.call? clock = some call) : P call := by
  cases p with
  | done r => exact absurd hcall (by simp [call?])
  | write subject email phone next =>
    obtain rfl := Option.some.inj hcall
    exact h.1 clock
  | find subject next =>
    obtain rfl := Option.some.inj hcall
    exact h.1
  | touch subject next =>
    obtain rfl := Option.some.inj hcall
    exact h.1 clock
  | delete subject next =>
    obtain rfl := Option.some.inj hcall
    exact h.1

theorem Makes.feed (h : p.Makes P) (answer : Outcome Answer) : (p.feed answer).Makes P := by
  cases p with
  | done r => exact h
  | _ =>
    cases answer with
    | error f => trivial
    | ok a =>
      cases a with
      | written result => first | exact h.2 result | exact h
      | found r => first | exact h.2 r | exact h
      | count n => first | exact h.2 n | exact h

/-- One step of a store is its call, and what follows makes the other calls. -/
theorem exists_calls_andThen {store : Store σ} {clock : Moment} {state : σ} {call : Store.Call}
    {step : StoreStep σ β} {next : β → Plan α} (hcall : P call)
    (hafter : (step state).2 = store.after state call)
    (hnext : ∀ b state, ∃ calls, (∀ call ∈ calls, P call) ∧
      ((next b).run store clock state).2 = store.run state calls) :
    ∃ calls, (∀ call ∈ calls, P call) ∧
      (step.andThen (fun b => (next b).run store clock) state).2 = store.run state calls := by
  simp only [StoreStep.andThen]
  cases hresult : step state with
  | mk result state' =>
    rw [hresult] at hafter
    obtain rfl : state' = store.after state call := hafter
    cases result with
    | ok b =>
      -- what follows starts in the state that the call leaves
      obtain ⟨calls, hcalls, hrun⟩ := hnext b (store.after state call)
      exact ⟨call :: calls, List.forall_mem_cons.mpr ⟨hcall, hcalls⟩, hrun⟩
    | error f => exact ⟨[call], by simpa using hcall, rfl⟩

/-- **The calls of a run.** A plan leaves what the calls leave that it makes. -/
theorem Makes.exists_calls (h : p.Makes P) (store : Store σ) (clock : Moment) (state : σ) :
    ∃ calls, (∀ call ∈ calls, P call) ∧ (p.run store clock state).2 = store.run state calls := by
  induction p generalizing state with
  | done r => exact ⟨[], by simp, rfl⟩
  | write subject email phone next ih =>
    exact exists_calls_andThen (h.1 clock) rfl fun result state => ih result (h.2 result) state
  | find subject next ih => exact exists_calls_andThen h.1 rfl fun r state => ih r (h.2 r) state
  | touch subject next ih =>
    exact exists_calls_andThen (h.1 clock) rfl fun n state => ih n (h.2 n) state
  | delete subject next ih => exact exists_calls_andThen h.1 rfl fun n state => ih n (h.2 n) state

end Plan

/-! ## §3 The plans of routes -/

/-- The email and the phone number to write for a principal, who must have an email. -/
def Synchronizer.acceptPrincipal (s : Synchronizer) (p : Principal) :
    Outcome (String × Option String) :=
  match p.email with
  | none => .error (.service .missingEmail)
  | some email =>
      if email.isEmpty then .error (.service .missingEmail)
      else s.accept (some email.shown) (p.phone.map (·.shown))

theorem Synchronizer.syncPrincipal_eq {σ : Type} (s : Synchronizer) (store : Store σ)
    (clock : Moment) (p : Principal) :
    s.syncPrincipal store clock p =
      (StoreStep.ofOutcome (s.acceptPrincipal p)).andThen fun accepted =>
        store.upsert p.subject accepted.1 accepted.2 clock := by
  funext state
  simp only [syncPrincipal, acceptPrincipal, StoreStep.ofOutcome, StoreStep.andThen]
  cases p.email with
  | none => rfl
  | some email =>
    simp only
    split
    · rfl
    · simp only [createOrUpdate]
      cases s.accept (some email.shown) _ <;> rfl

namespace Plan

/-- Goes on with the row of a principal, who must have one. -/
def row {α : Type} (p : Principal) (next : IdentityRecord → Plan α) : Plan α :=
  .find p.subject fun found =>
    match found with
    | some r => next r
    | none => .done (.error (.service (.identityNotFound p.subject)))

theorem Makes.row {α : Type} {P : Store.Call → Prop} {p : Principal}
    {next : IdentityRecord → Plan α} (hfind : P (.findById p.subject))
    (h : ∀ r, (next r).Makes P) : (Plan.row p next).Makes P := by
  refine ⟨hfind, fun found => ?_⟩
  cases found with
  | some r => exact h r
  | none => trivial

/-- The reply to a synchronization. -/
def syncReply (p : Principal) (result : SyncResult) : Outcome RouteReply :=
  RouteReply.ofBody (SyncReply.toJson ⟨.ofRecord result.record p.emailVerified, result.wasCreated⟩)

/-- What follows once the row of a principal is written. -/
def touchWritten (p : Principal) (result : SyncResult) : Plan RouteReply :=
  .touch p.subject fun _ => .done (syncReply p result)

/-- Writes the row of a principal, and touches it. -/
def sync (p : Principal) (s : Synchronizer) : Plan RouteReply :=
  .given (s.acceptPrincipal p) fun accepted =>
    .write p.subject accepted.1 accepted.2 (touchWritten p)

/-- Reads the row of a principal, and touches it. -/
def read (p : Principal) : Plan RouteReply :=
  row p fun r =>
    .touch p.subject fun _ =>
      .done (RouteReply.ofBody (IdentitySummary.ofRecord r p.emailVerified).toJson)

/-- Removes the row of a principal. -/
def remove (p : Principal) : Plan RouteReply :=
  .delete p.subject fun rows =>
    .done (if rows = 0 then .error (.service (.identityNotFound p.subject)) else .ok .done)

/-- Reads the row of a principal, and issues a token for it. -/
def exchange (p : Principal) (sessions : SessionService) (clock : Moment) : Plan RouteReply :=
  row p fun r => .done (Services.sessionReply sessions clock r p.emailVerified)

end Plan

/-- The plan of a route. -/
def Route.plan {σ : Type} (sv : Services σ) (c : Call) : Route → Plan RouteReply
  | health => .done (RouteReply.ofBody (HealthReply.healthy sv.version).toJson)
  | readiness =>
      .done (RouteReply.ofBody (ReadinessReply.ofProvider sv.isProviderInitialized).toJson)
  | user => .done (sv.readUser c)
  | admin => .done (sv.readAdmin c)
  | syncProfile => .given (sv.identity c) fun (p, s) => .sync p s
  | identity => .given (sv.identity c) fun (p, _) => .read p
  | deleteAccount => .given (sv.identity c) fun (p, _) => .remove p
  | session =>
      .given (do
        let (p, _) ← sv.identity c
        let sessions ← sv.sessions
        .ok (p, sessions)) fun (p, sessions) => .exchange p sessions c.clock

namespace StoreStep

variable {σ α β γ : Type}

theorem andThen_assoc (first : StoreStep σ α) (second : α → StoreStep σ β)
    (third : β → StoreStep σ γ) :
    (first.andThen second).andThen third = first.andThen fun a => (second a).andThen third := by
  funext state
  simp only [andThen]
  rcases first state with ⟨_ | _, _⟩ <;> rfl

end StoreStep

theorem Plan.run_row {σ : Type} (sv : Services σ) (clock : Moment) (p : Principal)
    (next : IdentityRecord → Plan RouteReply) :
    (row p next).run sv.store clock =
      (sv.row p).andThen fun r => (next r).run sv.store clock := by
  rw [Services.row, StoreStep.andThen_assoc, row, run]
  congr 1
  funext found
  cases found <;> rfl

/-- **Plans.** Without a break, the plan of a route does what the route does. -/
theorem Route.run_plan {σ : Type} (sv : Services σ) (c : Call) (route : Route) :
    (route.plan sv c).run sv.store c.clock = route.run sv c := by
  cases route with
  | health => rfl
  | readiness => rfl
  | user => rfl
  | admin => rfl
  | syncProfile =>
    simp only [plan, run, Services.syncProfile, Plan.run_given, Plan.sync, Plan.touchWritten,
      Plan.run, Synchronizer.syncPrincipal_eq, StoreStep.andThen_assoc, Plan.syncReply]
  | identity =>
    simp only [plan, run, Services.readIdentity, Plan.run_given, Plan.read, Plan.run_row, Plan.run]
  | deleteAccount =>
    simp only [plan, run, Services.deleteAccount, Plan.run_given, Plan.remove, Plan.run]
  | session =>
    simp only [plan, run, Services.createSession, Plan.run_given, Plan.exchange, Plan.run_row,
      Plan.run]

/-! ## §4 Requests over the memory store -/

/-- A step of the directory in memory is the step of the memory store. -/
theorem Directory.run_plan_memory {α : Type} (p : Plan α) (clock : Moment) (m : Memory) :
    p.run Directory.store clock (.memory m) =
      Directory.onMemory m (p.run Memory.store clock) := by
  -- the steps agree, and so does what follows them
  have hstep : ∀ {β : Type} (step : StoreStep Memory β) (next : β → Plan α),
      (∀ b m, (next b).run Directory.store clock (.memory m) =
        Directory.onMemory m ((next b).run Memory.store clock)) → ∀ m,
      (StoreStep.andThen (fun _ => Directory.onMemory m step)
          fun b => (next b).run Directory.store clock) (.memory m) =
        Directory.onMemory m (step.andThen fun b => (next b).run Memory.store clock) := by
    intro β step next hnext m
    simp only [StoreStep.andThen, Directory.onMemory]
    rcases step m with ⟨_ | b, m'⟩
    · rfl
    · exact hnext b m'
  induction p generalizing m with
  | done r => rfl
  | write subject email phone next ih =>
    exact hstep (Memory.store.upsert subject email phone clock) next ih m
  | find subject next ih => exact hstep (Memory.store.findById subject) next ih m
  | touch subject next ih => exact hstep (Memory.store.touch subject clock) next ih m
  | delete subject next ih => exact hstep (Memory.store.delete subject) next ih m

/-- The methods of the routes are neither the one that asks for headers alone nor the one that asks
what may be sent. -/
theorem Route.method_ne (route : Route) : route.method ≠ "HEAD" ∧ route.method ≠ "OPTIONS" := by
  cases route <;> decide

namespace Application

open Http

variable {a : Application} {clock : Moment} {machine : Machine} {r : Request} {route : Route}

/-- The services of an application. -/
def services (a : Application) : Services Directory := .ofSettings a.settings a.provider

/-- A request as its route sees it. -/
def callOf (clock : Moment) (machine : Machine) (r : Request) : Call :=
  ⟨bearer? r, clock, machine⟩

/-- The outcome of the plan of a request, run over the memory store. -/
def planned (a : Application) (clock : Moment) (machine : Machine) (route : Route) (r : Request) :
    StoreStep Memory RouteReply :=
  (route.plan a.services (callOf clock machine r)).run Memory.store clock

theorem runRoute_memory (m : Memory) :
    runRoute a.services clock machine route r (.memory m) =
      Directory.onMemory m (a.planned clock machine route r) := by
  have hplan := Route.run_plan a.services (callOf clock machine r) route
  rw [runRoute, planned, ← Directory.run_plan_memory]
  exact (congrFun hplan (.memory m)).symm

theorem findRoute_eq_ok (h : findRoute r = .ok route) :
    route.path = r.route ∧ route.method = r.method := by
  unfold findRoute at h
  split at h
  · exact absurd h (by simp)
  · rename_i found hfound
    split at h
    · rename_i hmethod
      obtain rfl := Except.ok.inj h
      have hpath := List.find?_some hfound
      exact ⟨by simpa using hpath, by simpa using hmethod⟩
    · exact absurd h (by simp)

/-- A request that finds no route changes nothing. -/
theorem respond_of_not_found {response : Response} (h : findRoute r = .error response)
    (d : Directory) : (a.respond clock machine r d).2 = d := by
  simp only [respond, respondWith, h]
  split <;> rfl

/-- An announced response has the status and the body of the response. -/
theorem exists_headers_of_named (policy : CrossOriginPolicy) (hhead : r.method ≠ "HEAD")
    (response : Response) :
    ∃ headers, forMethod r.method (policy.announce r response) =
      { response with headers := headers } := by
  rw [forMethod, if_neg (by simpa using hhead), CrossOriginPolicy.announce]
  cases r.header? "Origin" with
  | none => exact ⟨_, rfl⟩
  | some origin =>
    simp only [CrossOriginPolicy.naming]
    cases policy.answerOrigin? r origin <;> exact ⟨_, rfl⟩

/-- A route is asked for by its own method, which asks neither for headers alone nor what may be
sent. -/
theorem method_of_findRoute (h : findRoute r = .ok route) :
    r.method ≠ "HEAD" ∧ CrossOriginPolicy.isQuestion r = false := by
  obtain ⟨-, hmethod⟩ := findRoute_eq_ok h
  obtain ⟨hhead, hoptions⟩ := Route.method_ne route
  rw [hmethod] at hhead hoptions
  exact ⟨hhead, by simp [CrossOriginPolicy.isQuestion, hoptions]⟩

/-- **Faults over any services.** A request whose route ends with a fault has the response to the
fault, which is announced unless the server around the interface gives it. -/
theorem respondWith_of_fault {σ : Type} (policy : CrossOriginPolicy) {sv : Services σ}
    {state state' : σ} {f : Fault} (h : findRoute r = .ok route)
    (hrun : runRoute sv clock machine route r state = (.error f, state')) :
    respondWith policy sv clock machine r state =
      ((if f.isAnswered then policy.announce r f.response else f.response, f.level?), state') := by
  obtain ⟨hhead, hquestion⟩ := method_of_findRoute h
  have hmethod : ∀ response, forMethod r.method response = response := by
    intro response
    rw [forMethod, if_neg (by simpa using hhead)]
  simp only [respondWith, hquestion, h, hrun, hmethod]
  rfl

/-- **Responses over any services.** A request that finds a route has the response to the outcome
of its route, and leaves what its route leaves. -/
theorem respondWith_eq {σ : Type} (policy : CrossOriginPolicy) (sv : Services σ) (clock : Moment)
    (machine : Machine) (h : findRoute r = .ok route) (state : σ) :
    ∃ headers, (respondWith policy sv clock machine r state).1.1 =
        { responseOf (runRoute sv clock machine route r state).1 with headers := headers } ∧
      (respondWith policy sv clock machine r state).2 =
        (runRoute sv clock machine route r state).2 := by
  obtain ⟨hhead, hquestion⟩ := method_of_findRoute h
  have hbody := exists_headers_of_named policy hhead
  simp only [respondWith, hquestion, h]
  rcases runRoute sv clock machine route r state with ⟨f | reply, state'⟩
  · -- a breakdown is answered without the headers for other origins
    have hfault : ∃ headers, (if f.isAnswered = true then
        forMethod r.method (policy.announce r f.response) else f.response) =
        { f.response with headers := headers } := by
      split
      · exact hbody f.response
      · exact ⟨f.response.headers, rfl⟩
    obtain ⟨headers, hheaders⟩ := hfault
    exact ⟨headers, hheaders, rfl⟩
  · obtain ⟨headers, hheaders⟩ := hbody (responseOf (.ok reply))
    exact ⟨headers, hheaders, rfl⟩

/-- **Responses.** A request that finds a route has the response to the outcome of its plan, and
leaves what its plan leaves. -/
theorem respond_eq (a : Application) (clock : Moment) (machine : Machine)
    (h : findRoute r = .ok route) (m : Memory) :
    ∃ headers, (a.respond clock machine r (.memory m)).1.1 =
        { responseOf (a.planned clock machine route r m).1 with headers := headers } ∧
      (a.respond clock machine r (.memory m)).2 =
        .memory (a.planned clock machine route r m).2 := by
  obtain ⟨headers, hresponse, hstate⟩ :=
    respondWith_eq a.settings.crossOrigin a.services clock machine h (.memory m)
  rw [runRoute_memory] at hresponse hstate
  exact ⟨headers, hresponse, hstate⟩

end Application

end IdentityService
