import IdentityService.Proofs.Directory.Balance
import IdentityService.Proofs.Http.AllOrNothing

/-!
# Traffic

Requests do not wait for each other.  The store answers one call at a time, but between two calls
of a request those of any other requests may come, in any order.  What single calls report about a
row adds up in every order; and since a request writes at most once, what it answers is what its
write reported.

## Main definitions

- `Traffic`: the store, the requests on their way, and a log of all calls with their answers.
- `Traffic.after`: a request comes in, or makes its next call.
- `Plan.Leads`: the calls that lead from a plan to what is left of it.

## Main statements

- `Traffic.undisturbed`: a request that no other interrupts does what its route does.
- `Traffic.recorded_run`: the log tells what happened to the store and to every request.
- `Route.leads_of_written`: what is left of a request that has written.
- `Traffic.created_once`: a row is reported as new once in its life, in every order of calls.
-/

namespace IdentityService

open Store (Answer Answered)

/-! ## §1 Requests on their way -/

/-- A request on its way, with what is left of it. -/
structure Visit where
  services : Services Memory
  call : Call
  route : Route
  left : Plan RouteReply

/-- The outcome of a request, once nothing is left to do. -/
def Visit.outcome? (v : Visit) : Option (Outcome RouteReply) :=
  match v.left with
  | .done r => some r
  | _ => none

/-- A line of the log: a call with its answer, and the request that made it. -/
structure Entry where
  visit : Nat
  made : Answered

/-- The store, every request that has come in, and every call so far. -/
structure Traffic where
  store : Memory
  visits : List Visit
  log : List Entry

/-- What can happen next. -/
inductive Move
  /-- A request comes in. -/
  | arrive (services : Services Memory) (call : Call) (route : Route)
  /-- A request makes its next call, at a reading of the clock. -/
  | advance (visit : Nat) (clock : Moment)

namespace Traffic

/-- No rows and no requests. -/
def start : Traffic := ⟨.empty, [], []⟩

/-- A request comes in with the plan of its route. -/
def arrive (t : Traffic) (services : Services Memory) (call : Call) (route : Route) : Traffic :=
  { t with visits := t.visits ++ [⟨services, call, route, route.plan services call⟩] }

/-- A request makes a call, which the store answers at once. -/
def perform (t : Traffic) (i : Nat) (v : Visit) (call : Store.Call) : Traffic where
  store := (Memory.store.perform call t.store).2
  visits := t.visits.set i { v with left := v.left.feed (Memory.store.perform call t.store).1 }
  log := t.log ++ [⟨i, call, (Memory.store.perform call t.store).1⟩]

/-- What a move leaves.  A request that is not there, or has nothing left to do, does nothing. -/
def after (t : Traffic) : Move → Traffic
  | .arrive services call route => t.arrive services call route
  | .advance i clock =>
      match t.visits[i]? with
      | none => t
      | some v =>
          match v.left.call? clock with
          | none => t
          | some call => t.perform i v call

/-- What a sequence of moves leaves. -/
def run (moves : List Move) : Traffic := moves.foldl after start

/-- The outcome of a request, once it is there. -/
def outcome? (t : Traffic) (i : Nat) : Option (Outcome RouteReply) :=
  t.visits[i]?.bind Visit.outcome?

/-- The calls of the log. -/
def calls (t : Traffic) : List Store.Call := t.log.map (·.made.1)

/-- The calls of the log with their answers. -/
def made (t : Traffic) : List Answered := t.log.map (·.made)

/-- What the log says about one request. -/
def callsOf (t : Traffic) (i : Nat) : List Answered :=
  (t.log.filter (·.visit == i)).map (·.made)

theorem after_advance {t : Traffic} {i : Nat} {v : Visit} {clock : Moment} {call : Store.Call}
    (hv : t.visits[i]? = some v) (hcall : v.left.call? clock = some call) :
    t.after (.advance i clock) = t.perform i v call := by
  simp only [after, hv, hcall]

/-- What holds at the start, and is kept by requests that come in and by calls, holds always. -/
theorem run_induction {P : Traffic → Prop} (hstart : P start)
    (harrive : ∀ t services call route, P t → P (t.arrive services call route))
    (hperform : ∀ t i v clock call, t.visits[i]? = some v → v.left.call? clock = some call →
      P t → P (t.perform i v call)) (moves : List Move) : P (run moves) := by
  have hafter : ∀ t move, P t → P (t.after move) := by
    intro t move ht
    cases move with
    | arrive services call route => exact harrive t services call route ht
    | advance i clock =>
      cases hv : t.visits[i]? with
      | none => simpa only [after, hv] using ht
      | some v =>
        cases hcall : v.left.call? clock with
        | none => simpa only [after, hv, hcall] using ht
        | some call =>
          rw [after_advance hv hcall]
          exact hperform t i v clock call hv hcall ht
  have hfold : ∀ (moves : List Move) (t : Traffic), P t → P (moves.foldl after t) := by
    intro moves
    induction moves with
    | nil => exact fun t ht => ht
    | cons move moves ih => exact fun t ht => ih (t.after move) (hafter t move ht)
  exact hfold moves start hstart

end Traffic

/-! ## §2 Undisturbed requests -/

/-- What holds of a plan as soon as it holds after each of its calls, holds of every plan. -/
theorem Plan.feed_induction {α : Type} {P : Plan α → Prop}
    (h : ∀ p : Plan α, (∀ clock call m, p.call? clock = some call →
      P (p.feed (Memory.store.perform call m).1)) → P p) (p : Plan α) : P p := by
  -- a plan that is done makes no call
  have hdone : ∀ r, P (done r) := by
    intro r
    apply h
    intro clock call m hcall
    exact absurd hcall (by simp [call?])
  induction p with
  | done r => exact hdone r
  | write subject email phone next ih =>
    apply h
    intro clock call m hcall
    obtain rfl := Option.some.inj hcall
    cases hwrite : m.upsert? subject email phone clock with
    | error field =>
      rw [Memory.perform_write_of_error hwrite]
      exact hdone _
    | ok written =>
      rw [Memory.perform_write_of_ok hwrite]
      exact ih written.1
  | find subject next ih =>
    apply h
    intro clock call m hcall
    obtain rfl := Option.some.inj hcall
    exact ih _
  | touch subject next ih =>
    apply h
    intro clock call m hcall
    obtain rfl := Option.some.inj hcall
    exact ih _
  | delete subject next ih =>
    apply h
    intro clock call m hcall
    obtain rfl := Option.some.inj hcall
    exact ih _

namespace Traffic

/-- Some moves of a request alone end what is left of it as running it does. -/
theorem exists_undisturbed (clock : Moment) (i : Nat) (p : Plan RouteReply) :
    ∀ (t : Traffic) (v : Visit), t.visits[i]? = some v → v.left = p →
      ∃ n, let t' := (List.replicate n (Move.advance i clock)).foldl after t
        t'.outcome? i = some (p.run Memory.store clock t.store).1 ∧
          t'.store = (p.run Memory.store clock t.store).2 := by
  induction p using Plan.feed_induction with
  | h p ih =>
    intro t v hv hleft
    cases hcall : p.call? clock with
    | none =>
      -- nothing is left to do
      cases p with
      | done r =>
        refine ⟨0, ?_, rfl⟩
        show t.visits[i]?.bind Visit.outcome? = _
        rw [hv, Option.bind_some, Visit.outcome?, hleft]
        rfl
      | _ => exact absurd hcall (by simp [Plan.call?])
    | some call =>
      have hi : i < t.visits.length := (List.getElem?_eq_some_iff.mp hv).1
      have hnext : (t.perform i v call).visits[i]? =
          some { v with left := v.left.feed (Memory.store.perform call t.store).1 } :=
        List.getElem?_set_self hi
      obtain ⟨n, houtcome, hstore⟩ :=
        ih clock call t.store hcall (t.perform i v call) _ hnext (by rw [hleft])
      have hstep : t.after (.advance i clock) = t.perform i v call :=
        after_advance hv (by rw [hleft, hcall])
      rw [Plan.run_eq_feed Memory.store hcall t.store]
      refine ⟨n + 1, ?_⟩
      rw [List.replicate_succ, List.foldl_cons, hstep]
      exact ⟨houtcome, hstore⟩

/-- **Undisturbed requests.** A request that comes in, and whose calls no other request
interrupts, ends as its route ends, and leaves what its route leaves. -/
theorem undisturbed (t : Traffic) {sv : Services Memory} (hstore : sv.store = Memory.store)
    (c : Call) (route : Route) :
    ∃ n, let t' := (List.replicate n (Move.advance t.visits.length c.clock)).foldl after
          (t.arrive sv c route)
      t'.outcome? t.visits.length = some (route.run sv c t.store).1 ∧
        t'.store = (route.run sv c t.store).2 := by
  have hv : (t.arrive sv c route).visits[t.visits.length]? =
      some ⟨sv, c, route, route.plan sv c⟩ := List.getElem?_concat_length
  rw [← Route.run_plan, hstore]
  exact exists_undisturbed c.clock t.visits.length _ (t.arrive sv c route) _ hv rfl

end Traffic

/-! ## §3 What leads to what is left -/

/-- A call writes. -/
def Store.Call.IsWrite : Store.Call → Prop
  | .upsert _ _ _ _ => True
  | _ => False

namespace Plan

variable {α β : Type}

/-- The calls, with the answers of memory stores, that lead from a plan to what is left of it.
Between two calls the store may have become another one. -/
inductive Leads : Plan α → List Answered → Plan α → Prop
  | stay {p : Plan α} : Leads p [] p
  | step {p q : Plan α} {made : List Answered} {clock : Moment} {call : Store.Call} (m : Memory)
      (hcall : p.call? clock = some call)
      (hrest : Leads (p.feed (Memory.store.perform call m).1) made q) :
      Leads p ((call, (Memory.store.perform call m).1) :: made) q

variable {p q : Plan α} {made : List Answered}

/-- One call more. -/
theorem Leads.snoc (h : Leads p made q) {clock : Moment} {call : Store.Call} (m : Memory)
    (hcall : q.call? clock = some call) :
    Leads p (made ++ [(call, (Memory.store.perform call m).1)])
      (q.feed (Memory.store.perform call m).1) := by
  -- the new call comes last, so the induction goes through the calls before it
  induction h with
  | stay => exact .step m hcall .stay
  | step m' hcall' _ ih => exact .step m' hcall' (ih hcall)

theorem leads_done {r : Outcome α} (h : Leads (done r) made q) : made = [] ∧ q = done r := by
  cases h with
  | stay => exact ⟨rfl, rfl⟩
  | step m hcall hrest => exact absurd hcall (by simp [call?])

theorem leads_given {r : Outcome β} {next : β → Plan α} (h : Leads (given r next) made q) :
    made = [] ∨ ∃ b, r = .ok b ∧ Leads (next b) made q := by
  cases r with
  | ok b => exact .inr ⟨b, rfl, h⟩
  | error f => exact .inl (leads_done h).1

/-- A write is answered with a conflict, which ends the plan, or it goes on. -/
theorem leads_write {subject : RawText} {email : String} {phone : Option String}
    {next : SyncResult → Plan α} (h : Leads (write subject email phone next) made q) :
    made = [] ∨
      (∃ clock f, made = [(.upsert subject email phone clock, .error f)]) ∨
      ∃ clock result rest,
        made = (.upsert subject email phone clock, .ok (.written result)) :: rest ∧
          Leads (next result) rest q := by
  cases h with
  | stay => exact .inl rfl
  | step m hcall hrest =>
    obtain rfl := Option.some.inj hcall
    cases hwrite : m.upsert? subject email phone _ with
    | error field =>
      rw [Memory.perform_write_of_error hwrite] at hrest ⊢
      obtain ⟨rfl, -⟩ := leads_done hrest
      exact .inr (.inl ⟨_, _, rfl⟩)
    | ok written =>
      rw [Memory.perform_write_of_ok hwrite] at hrest ⊢
      exact .inr (.inr ⟨_, _, _, rfl, hrest⟩)

theorem Leads.forall_of_makes {P : Store.Call → Prop} (h : Leads p made q) (hp : p.Makes P) :
    ∀ a ∈ made, P a.1 := by
  induction h with
  | stay => simp
  | step m hcall hrest ih =>
    intro a ha
    rcases List.mem_cons.mp ha with rfl | ha
    · exact hp.call hcall
    · exact ih (hp.feed _) a ha

/-- After a write comes a touch at most, and the reply is settled. -/
theorem leads_touchWritten {principal : Principal} {result : SyncResult} {q : Plan RouteReply}
    (h : Leads (touchWritten principal result) made q) :
    (q = touchWritten principal result ∨ q = done (syncReply principal result)) ∧
      ∀ a ∈ made, ¬ a.1.IsWrite := by
  cases h with
  | stay => exact ⟨.inl rfl, by simp⟩
  | step m hcall hrest =>
    obtain rfl := Option.some.inj hcall
    obtain ⟨rfl, rfl⟩ := leads_done hrest
    exact ⟨.inr rfl, by simp [Store.Call.IsWrite]⟩

end Plan

/-- Synchronization alone writes. -/
theorem Route.plan_makes_no_write {σ : Type} (sv : Services σ) (c : Call) {route : Route}
    (h : route ≠ syncProfile) : (route.plan sv c).Makes (¬ ·.IsWrite) := by
  cases route with
  | health => trivial
  | readiness => trivial
  | user => trivial
  | admin => trivial
  | syncProfile => exact absurd rfl h
  | identity =>
    apply Plan.Makes.given
    rintro ⟨p, s⟩ -
    exact .row id fun r => ⟨fun _ => id, fun _ => trivial⟩
  | deleteAccount =>
    apply Plan.Makes.given
    rintro ⟨p, s⟩ -
    exact ⟨id, fun _ => trivial⟩
  | session =>
    apply Plan.Makes.given
    rintro ⟨p, sessions⟩ -
    exact .row id fun r => trivial

/-- **A synchronization that has written.** It has written once, what is left is at most a touch,
and its reply says what the write reported. -/
theorem Route.leads_of_written {sv : Services Memory} {c : Call} {route : Route}
    {made : List Answered} {left : Plan RouteReply} (h : (route.plan sv c).Leads made left)
    {subject : RawText} {email : String} {phone : Option String} {now : Moment}
    {result : SyncResult}
    (hwritten : (.upsert subject email phone now, .ok (.written result)) ∈ made) :
    route = syncProfile ∧
      (∃ p, left = .touchWritten p result ∨ left = .done (Plan.syncReply p result)) ∧
      ∀ a ∈ made, a.1.IsWrite →
        a = (.upsert subject email phone now, .ok (.written result)) := by
  -- only a synchronization makes a call that is a write
  obtain rfl : route = syncProfile := by
    by_contra hroute
    exact h.forall_of_makes (plan_makes_no_write sv c hroute) _ hwritten trivial
  rcases Plan.leads_given h with rfl | ⟨⟨p, s⟩, -, h⟩
  · exact absurd hwritten List.not_mem_nil
  rcases Plan.leads_given h with rfl | ⟨accepted, -, h⟩
  · exact absurd hwritten List.not_mem_nil
  rcases Plan.leads_write h with rfl | ⟨clock, f, rfl⟩ | ⟨clock, result', rest, rfl, hrest⟩
  · exact absurd hwritten List.not_mem_nil
  · -- a conflict is no write
    exact absurd (List.mem_singleton.mp hwritten) (by simp)
  · obtain ⟨hleft, hnone⟩ := Plan.leads_touchWritten hrest
    rcases List.mem_cons.mp hwritten with heq | hin
    · obtain ⟨hsame, hanswer⟩ := Prod.mk.inj heq
      obtain ⟨rfl, rfl, rfl, rfl⟩ := Store.Call.upsert.inj hsame
      obtain rfl := Answer.written.inj (Except.ok.inj hanswer)
      refine ⟨rfl, ⟨p, hleft⟩, fun a ha hwrites => ?_⟩
      rcases List.mem_cons.mp ha with rfl | ha
      · rfl
      · exact absurd hwrites (hnone a ha)
    · -- what comes after the first write is no write
      exact absurd trivial (hnone _ hin)

/-! ## §4 What the log tells -/

namespace Traffic

/-- The log tells what has happened.  From the empty store its calls are given the answers that it
notes and leave the store that is there, and the calls of every request lead from the plan of its
route to what is left of it. -/
structure Recorded (t : Traffic) : Prop where
  store_eq : t.store = Memory.store.run .empty t.calls
  made_eq : t.made = Memory.store.trace .empty t.calls
  visit_lt : ∀ e ∈ t.log, e.visit < t.visits.length
  leads : ∀ (i : Nat) (v : Visit), t.visits[i]? = some v →
    (v.route.plan v.services v.call).Leads (t.callsOf i) v.left

variable {t : Traffic}

theorem recorded_start : Recorded start where
  store_eq := rfl
  made_eq := rfl
  visit_lt := by simp [start]
  leads := by simp [start]

theorem Recorded.callsOf_eq_nil (h : t.Recorded) {i : Nat} (hi : t.visits.length ≤ i) :
    t.callsOf i = [] := by
  rw [callsOf, List.map_eq_nil_iff, List.filter_eq_nil_iff]
  intro e he hvisit
  obtain rfl := eq_of_beq hvisit
  exact absurd (h.visit_lt e he) (Nat.not_lt.mpr hi)

theorem Recorded.arrive (h : t.Recorded) (services : Services Memory) (call : Call)
    (route : Route) : (t.arrive services call route).Recorded where
  store_eq := h.store_eq
  made_eq := h.made_eq
  visit_lt := by
    intro e he
    rw [Traffic.arrive, List.length_append]
    exact Nat.lt_add_right _ (h.visit_lt e he)
  leads := by
    intro i v hv
    rw [Traffic.arrive, List.getElem?_append] at hv
    split at hv
    · exact h.leads i v hv
    · -- nothing has been called yet for the request that comes in
      rename_i hi
      obtain rfl := List.mem_singleton.mp (List.mem_of_getElem? hv)
      show Plan.Leads _ (t.callsOf i) _
      rw [h.callsOf_eq_nil (Nat.not_lt.mp hi)]
      exact .stay

theorem calls_perform (t : Traffic) (i : Nat) (v : Visit) (call : Store.Call) :
    (t.perform i v call).calls = t.calls ++ [call] := by
  simp [calls, perform]

theorem callsOf_perform (t : Traffic) (i j : Nat) (v : Visit) (call : Store.Call) :
    (t.perform i v call).callsOf j =
      if i = j then t.callsOf j ++ [(call, (Memory.store.perform call t.store).1)]
      else t.callsOf j := by
  by_cases hij : i = j
  · simp [callsOf, perform, hij]
  · simp [callsOf, perform, hij]

theorem Recorded.perform (h : t.Recorded) {i : Nat} {v : Visit} {clock : Moment}
    {call : Store.Call} (hv : t.visits[i]? = some v) (hcall : v.left.call? clock = some call) :
    (t.perform i v call).Recorded where
  store_eq := by
    show (Memory.store.perform call t.store).2 = _
    rw [calls_perform, Store.run_append, ← h.store_eq, Store.perform_state]
    rfl
  made_eq := by
    rw [calls_perform, Store.trace_append, ← h.store_eq, ← h.made_eq]
    exact List.map_append
  visit_lt := by
    intro e he
    have hi : i < t.visits.length := (List.getElem?_eq_some_iff.mp hv).1
    rw [Traffic.perform, List.length_set]
    rcases List.mem_append.mp he with he | he
    · exact h.visit_lt e he
    · obtain rfl := List.mem_singleton.mp he
      exact hi
  leads := by
    intro j w hw
    rw [callsOf_perform]
    rw [Traffic.perform, List.getElem?_set] at hw
    by_cases hij : i = j
    · -- one call more for the request that makes it
      subst hij
      rw [if_pos rfl] at hw ⊢
      split at hw
      · obtain rfl := Option.some.inj hw
        exact (h.leads i v hv).snoc t.store hcall
      · exact absurd hw (by simp)
    · rw [if_neg hij] at hw ⊢
      exact h.leads j w hw

/-- **The log.** Whatever happens in whatever order, the log tells it. -/
theorem recorded_run (moves : List Move) : (run moves).Recorded :=
  run_induction recorded_start (fun _ services call route h => h.arrive services call route)
    (fun _ _ _ _ _ hv hcall h => h.perform hv hcall) moves

/-- A request whose write is in the log is a synchronization, and has written once. -/
theorem Recorded.exists_visit_of_written (h : t.Recorded) {e : Entry} (he : e ∈ t.log)
    {subject : RawText} {email : String} {phone : Option String} {now : Moment}
    {result : SyncResult}
    (hmade : e.made = (.upsert subject email phone now, .ok (.written result))) :
    ∃ v, t.visits[e.visit]? = some v ∧ v.route = .syncProfile ∧
      (∃ p, v.left = .touchWritten p result ∨ v.left = .done (Plan.syncReply p result)) ∧
      ∀ e' ∈ t.log, e'.visit = e.visit → e'.made.1.IsWrite → e'.made = e.made := by
  -- the lines of one request are its calls
  have hmem : ∀ e' ∈ t.log, e'.visit = e.visit → e'.made ∈ t.callsOf e.visit := by
    intro e' he' hvisit
    exact List.mem_map_of_mem (List.mem_filter.mpr ⟨he', beq_iff_eq.mpr hvisit⟩)
  obtain ⟨v, hv⟩ : ∃ v, t.visits[e.visit]? = some v :=
    ⟨_, List.getElem?_eq_getElem (h.visit_lt e he)⟩
  have hwritten := hmem e he rfl
  rw [hmade] at hwritten
  obtain ⟨hroute, hleft, honce⟩ := Route.leads_of_written (h.leads _ v hv) hwritten
  refine ⟨v, hv, hroute, hleft, ?_⟩
  intro e' he' hvisit hwrites
  rw [hmade]
  exact honce _ (hmem e' he' hvisit) hwrites

/-- A synchronization that has written has answered what its write reported, or does so with its
next call. -/
theorem outcome?_of_written {i : Nat} {v : Visit} {p : Principal} {result : SyncResult}
    (hv : t.visits[i]? = some v)
    (hleft : v.left = .touchWritten p result ∨ v.left = .done (Plan.syncReply p result)) :
    (t.outcome? i = none ∨ t.outcome? i = some (Plan.syncReply p result)) ∧
      ∀ clock, (t.after (.advance i clock)).outcome? i =
        some (Plan.syncReply p result) := by
  have houtcome : t.outcome? i = v.outcome? := by
    rw [outcome?, hv]
    rfl
  rcases hleft with hleft | hleft
  · -- the touch is still to come
    have hnone : v.outcome? = none := by
      rw [Visit.outcome?, hleft]
      rfl
    refine ⟨.inl (houtcome.trans hnone), fun clock => ?_⟩
    have hcall : v.left.call? clock = some (.touch p.subject clock) := by
      rw [hleft]
      rfl
    have hi : i < t.visits.length := (List.getElem?_eq_some_iff.mp hv).1
    rw [after_advance hv hcall, outcome?, perform, List.getElem?_set_self hi, hleft]
    rfl
  · -- nothing is left to do
    have hdone : v.outcome? = some (Plan.syncReply p result) := by
      rw [Visit.outcome?, hleft]
    refine ⟨.inr (houtcome.trans hdone), fun clock => ?_⟩
    have hcall : v.left.call? clock = none := by
      rw [hleft]
      rfl
    have hsame : t.after (.advance i clock) = t := by
      simp only [after, hv, hcall]
    rw [hsame, houtcome, hdone]

end Traffic

/-! ## §5 Once in the life of a row -/

namespace Traffic

variable {t : Traffic}

/-- A stretch of the log tells what happened from the state that the calls before it leave. -/
theorem Recorded.stretch (h : t.Recorded) {before window rest : List Entry}
    (hlog : t.log = before ++ window ++ rest) :
    window.map (·.made) =
      Memory.store.trace (Memory.store.run .empty (before.map (·.made.1)))
        (window.map (·.made.1)) := by
  have hmade := h.made_eq
  rw [made, calls, hlog] at hmade
  simp only [List.map_append, Store.trace_append] at hmade
  have hlength : ∀ (m : Memory) (calls : List Store.Call),
      (Memory.store.trace m calls).length = calls.length := by
    intro m calls
    rw [← List.length_map, Store.map_trace]
  obtain ⟨hinit, -⟩ := List.append_inj hmade (by simp [hlength])
  exact (List.append_inj hinit (by simp [hlength])).2

/-- **First synchronizations.** One of them finds no row, and all its fellows find one. -/
theorem Recorded.exists_first (h : t.Recorded) {before window rest : List Entry} {s : RawText}
    (hlog : t.log = before ++ window ++ rest)
    (habsent : (Memory.store.run .empty (before.map (·.made.1))).records.get? s = none)
    (hkept : ∀ e ∈ window, e.made.deletes s = false)
    (hwritten : ∃ e ∈ window, e.made.writes s = true) :
    ∃ first ∈ window, first.made.creates s = true ∧
      ∀ e ∈ window, e.made.creates s = true → e = first := by
  have hstretch := h.stretch hlog
  -- one line of the stretch reports a creation
  have hcount : (window.filter (fun e => e.made.creates s)).length = 1 := by
    rw [← List.countP_eq_length_filter]
    refine (List.countP_map (p := Answered.creates s)).symm.trans ?_
    rw [hstretch]
    apply Memory.countP_creates_of_first habsent
    · rw [← hstretch]
      exact List.forall_mem_map.mpr hkept
    · rw [← hstretch]
      obtain ⟨e, he, hwrites⟩ := hwritten
      exact ⟨e.made, List.mem_map_of_mem he, hwrites⟩
  obtain ⟨first, hfirst⟩ := List.length_eq_one_iff.mp hcount
  have hmem : ∀ e, e ∈ window ∧ e.made.creates s = true ↔ e = first := by
    intro e
    have hfilter : e ∈ window.filter (fun e => e.made.creates s) ↔
        e ∈ window ∧ e.made.creates s = true := List.mem_filter
    rw [← hfilter, hfirst, List.mem_singleton]
  obtain ⟨hin, hcreates⟩ := (hmem first).mpr rfl
  exact ⟨first, hin, hcreates, fun e he hcreated => (hmem e).mp ⟨he, hcreated⟩⟩

/-- **Once in the life of a row.** Requests come in and make their calls in any order.  At any
time, a row has been reported as created as often as it has been removed, and once more if it is
there.  So of the synchronizations that write a row which was not there, and which is not removed
meanwhile, one alone answers that its user is new, and all the others answer that theirs is not;
each of them has answered, or does so with its next call.  Where the subject spells no text, the
answers are lost.  And a touch that finds its row removed reports no row, and brings none back. -/
theorem created_once (moves : List Move) (s : RawText) :
    let t := run moves
    ((t.made.countP (Answered.creates s) : Int) - t.made.countP (Answered.deletes s) =
      if (t.store.records.get? s).isSome then 1 else 0) ∧
    (∀ before window rest : List Entry, t.log = before ++ window ++ rest →
      (Memory.store.run .empty (before.map (·.made.1))).records.get? s = none →
      (∀ e ∈ window, e.made.deletes s = false) → (∃ e ∈ window, e.made.writes s = true) →
      ∃ first ∈ window, first.made.writes s = true ∧
        ∀ e ∈ window, e.made.writes s = true →
          ∃ v user, t.visits[e.visit]? = some v ∧ v.route = .syncProfile ∧
            let body := SyncReply.toJson ⟨user, decide (e.visit = first.visit)⟩
            let outcome := if s.text?.isSome then .ok (RouteReply.ok body) else .error .unwritable
            (t.outcome? e.visit = none ∨ t.outcome? e.visit = some outcome) ∧
              ∀ clock, (t.after (.advance e.visit clock)).outcome? e.visit = some outcome) ∧
    (∀ (i : Nat) (v : Visit) (clock : Moment), t.visits[i]? = some v →
      v.left.call? clock = some (.touch s clock) → t.store.records.get? s = none →
      (t.after (.advance i clock)).store = t.store ∧
        (t.after (.advance i clock)).log =
          t.log ++ [⟨i, .touch s clock, .ok (.count 0)⟩]) := by
  intro t
  have h : t.Recorded := recorded_run moves
  refine ⟨?_, ?_, ?_⟩
  · -- the log is what happened from the empty store on
    have hbalance := Memory.balance_trace .empty t.calls s
    rw [← h.made_eq, ← h.store_eq] at hbalance
    have hrows : ((t.store.rowsOf s : Nat) : Int) =
        if (t.store.records.get? s).isSome then 1 else 0 := by
      rw [Memory.rowsOf]
      cases (t.store.records.get? s).isSome <;> rfl
    have hempty : Memory.empty.rowsOf s = 0 := rfl
    rw [← hrows]
    omega
  · intro before window rest hlog habsent hkept hwritten
    obtain ⟨first, hfirst, hcreates, honly⟩ := h.exists_first hlog habsent hkept hwritten
    have hlogged : ∀ e ∈ window, e ∈ t.log := by
      intro e he
      rw [hlog]
      exact List.mem_append_left _ (List.mem_append_right _ he)
    have hwrites := Answered.writes_of_creates hcreates
    obtain ⟨email', phone', now', result', hmade'⟩ := Answered.writes_eq_true_iff.mp hwrites
    have hfirst_writes : first.made.1.IsWrite := by
      rw [hmade']
      trivial
    refine ⟨first, hfirst, hwrites, fun e he hwrote => ?_⟩
    obtain ⟨email, phone, now, result, hmade⟩ := Answered.writes_eq_true_iff.mp hwrote
    obtain ⟨v, hv, hroute, ⟨p, hleft⟩, honce⟩ := h.exists_visit_of_written (hlogged e he) hmade
    -- the reply repeats what the write reported, and that tells the first write from all others
    have hflag : result.wasCreated = decide (e.visit = first.visit) := by
      have hreported : e.made.creates s = result.wasCreated := by
        rw [hmade]
        exact Answered.creates_written
      by_cases hvisit : e.visit = first.visit
      · -- a request writes once, so this is the first write itself
        have hsame := honce first (hlogged first hfirst) hvisit.symm hfirst_writes
        rw [← hreported, ← hsame, hcreates, decide_eq_true hvisit]
      · rw [← hreported, decide_eq_false hvisit, Bool.eq_false_iff]
        intro hcreated
        exact hvisit (congrArg Entry.visit (honly e he hcreated))
    -- the reply shows the row of the subject, so it can be written if the subject spells a text
    have hid : result.record.id = s := by
      have hmem : (.upsert s email phone now, .ok (.written result)) ∈
          Memory.store.trace .empty t.calls := by
        rw [← h.made_eq, ← hmade]
        exact List.mem_map_of_mem (hlogged e he)
      exact Memory.consistent_empty.id_of_trace hmem
    have hanswer := outcome?_of_written hv hleft
    rw [Plan.syncReply, RouteReply.ofBody, SyncReply.spellsTexts_toJson, hflag] at hanswer
    simp only [IdentitySummary.ofRecord, hid] at hanswer
    exact ⟨v, _, hv, hroute, hanswer⟩
  · intro i v clock hv hcall habsent
    -- a touch of a row that is not there changes nothing
    have htouch : Memory.store.perform (.touch s clock) t.store = (.ok (.count 0), t.store) := by
      rw [Memory.perform_touch, Memory.touch_of_absent habsent]
    rw [after_advance hv hcall, perform, htouch]
    exact ⟨rfl, rfl⟩

-- Two synchronizations race, and the row is removed before they touch it.
example :
    let clock : Moment := ⟨0, some 0⟩
    let claims : Fields := [("sub", .text "user-1"), ("email", .text "a@example.com")]
    let sv : Services Memory := ⟨"0.1.0", true, .error .unauthenticated,
      .ok ⟨fun _ => .claims (.object claims), ProviderSettings.usualTimeout⟩, .ok ⟨.usual⟩,
      Memory.store⟩
    let c : Call := ⟨some "token", clock, ⟨0, true⟩⟩
    let t := run [.arrive sv c .syncProfile, .arrive sv c .syncProfile, .arrive sv c .deleteAccount,
      .advance 1 clock, .advance 0 clock, .advance 2 clock, .advance 0 clock, .advance 1 clock]
    t.log.map (fun e =>
        (e.visit, e.made.creates (.text "user-1"), e.made.deletes (.text "user-1"))) =
      [(1, true, false), (0, false, false), (2, false, true), (0, false, false),
        (1, false, false)] ∧ t.store = .empty := by
  decide +kernel

end Traffic

end IdentityService
