import IdentityService.Directory.Synchronizer
import IdentityService.Proofs.Directory.IndexInvariant

/-!
# Calls and Answers

What is asked of a synchronizer, what it asks of its store, and what comes back.  Every call of
a synchronizer comes down to at most one call of the store, so what the calls of the store keep,
a synchronizer keeps.

## Main definitions

- `Store.perform`: a call of a store with its answer.
- `Store.recorded`: a store that writes down its calls.
- `Synchronizer.run`: the answers to a sequence of calls, and the state that it leaves.

## Main statements

- `Synchronizer.asks_cases`: what a synchronizer asks of its store.
- `Synchronizer.perform_of_asks`, `Synchronizer.perform_of_not_asks`: a call of a synchronizer
  is the call of the store that it asks for, or does not concern the store at all.
- `Synchronizer.run_state`: a sequence of calls leaves what the calls of the store leave.
-/

namespace IdentityService

/-! ## §1 Calls of a store -/

namespace Store

/-- What an operation of a store gives. -/
inductive Answer
  | written (r : SyncResult)
  | found (r : Option IdentityRecord)
  | count (n : Nat)
  deriving DecidableEq, Repr

variable {σ α : Type}

/-- An operation whose result is taken as an answer. -/
def answering (as : α → Answer) (step : StoreStep σ α) : StoreStep σ Answer := fun state =>
  (as <$> (step state).1, (step state).2)

/-- A call with its answer. -/
def perform (store : Store σ) : Call → StoreStep σ Answer
  | .upsert subject email phone now => answering .written (store.upsert subject email phone now)
  | .findById subject => answering .found (store.findById subject)
  | .findByEmail email => answering .found (store.findByEmail email)
  | .touch subject now => answering .count (store.touch subject now)
  | .delete subject => answering .count (store.delete subject)

theorem perform_state (store : Store σ) (call : Call) (state : σ) :
    (store.perform call state).2 = store.after state call := by
  cases call <;> rfl

/-- An operation whose call is written down. -/
def noting (call : Call) (step : StoreStep σ α) : StoreStep (σ × List Call) α := fun s =>
  ((step s.1).1, (step s.1).2, s.2 ++ [call])

/-- The same store, but it writes down its calls. -/
def recorded (store : Store σ) : Store (σ × List Call) where
  upsert subject email phone now :=
    noting (.upsert subject email phone now) (store.upsert subject email phone now)
  findById subject := noting (.findById subject) (store.findById subject)
  findByEmail email := noting (.findByEmail email) (store.findByEmail email)
  touch subject now := noting (.touch subject now) (store.touch subject now)
  delete subject := noting (.delete subject) (store.delete subject)

end Store

/-! ## §2 Calls of a synchronizer -/

namespace Synchronizer

open Store (Answer answering)

/-- A call of a synchronizer, with the reading of its clock where it takes one. -/
inductive Call
  | createOrUpdate (subject : RawText) (email phone : Option String) (clock : Moment)
  | syncPrincipal (p : Principal) (clock : Moment)
  | findById (subject : RawText)
  | findByEmail (email : Option String)
  | touch (subject : RawText) (clock : Moment)
  | delete (subject : RawText)

variable {σ : Type}

/-- A call with its answer. -/
def perform (s : Synchronizer) (store : Store σ) : Call → StoreStep σ Answer
  | .createOrUpdate subject email phone clock =>
      answering .written (s.createOrUpdate store clock subject email phone)
  | .syncPrincipal p clock => answering .written (s.syncPrincipal store clock p)
  | .findById subject => answering .found (store.findById subject)
  | .findByEmail email => answering .found (findByEmail store email)
  | .touch subject clock => answering .count (store.touch subject clock)
  | .delete subject => answering .count (store.delete subject)

/-- The write that a call comes down to, if its input is accepted. -/
def write? (s : Synchronizer) (subject : RawText) (email phone : Option String) (clock : Moment) :
    Option Store.Call :=
  match s.accept email phone with
  | .ok (e, p) => some (.upsert subject e p clock)
  | .error _ => none

/-- The call of the store that a call asks for, if it concerns the store. -/
def asks (s : Synchronizer) : Call → Option Store.Call
  | .createOrUpdate subject email phone clock => s.write? subject email phone clock
  | .syncPrincipal p clock =>
      match p.email with
      | none => none
      | some email =>
          if email.isEmpty then none
          else s.write? p.subject (some email.shown) (p.phone.map (·.shown)) clock
  | .findById subject => some (.findById subject)
  | .findByEmail email =>
      match email.map normalizeEmail with
      | none => none
      | some e => if e.isEmpty then none else some (.findByEmail e)
  | .touch subject clock => some (.touch subject clock)
  | .delete subject => some (.delete subject)

variable {s : Synchronizer} {call : Call} {c : Store.Call}

/-- **What is asked.** A write for the subject of the call, a search for a normalized email, or
a call that takes neither email nor phone number. -/
theorem asks_cases (h : s.asks call = some c) :
    (∃ subject email phone clock, s.write? subject email phone clock = some c ∧
      (call = .createOrUpdate subject email phone clock ∨
        ∃ p, call = .syncPrincipal p clock ∧ p.subject = subject)) ∨
    (∃ email, c = .findByEmail (normalizeEmail email)) ∨
    (∃ subject, c = .findById subject) ∨ (∃ subject clock, c = .touch subject clock) ∨
    ∃ subject, c = .delete subject := by
  cases call with
  | createOrUpdate subject email phone clock =>
    exact .inl ⟨subject, email, phone, clock, h, .inl rfl⟩
  | syncPrincipal p clock =>
    simp only [asks] at h
    split at h
    · exact absurd h (by simp)
    · rename_i email hemail
      split at h
      · exact absurd h (by simp)
      · exact .inl ⟨p.subject, _, _, clock, h, .inr ⟨p, rfl, rfl⟩⟩
  | findById subject => exact .inr (.inr (.inl ⟨subject, (Option.some.inj h).symm⟩))
  | findByEmail email =>
    simp only [asks] at h
    split at h
    · exact absurd h (by simp)
    · rename_i e he
      split at h
      · exact absurd h (by simp)
      · obtain ⟨email', -, rfl⟩ := Option.map_eq_some_iff.mp he
        exact .inr (.inl ⟨email', (Option.some.inj h).symm⟩)
  | touch subject clock =>
    exact .inr (.inr (.inr (.inl ⟨subject, clock, (Option.some.inj h).symm⟩)))
  | delete subject => exact .inr (.inr (.inr (.inr ⟨subject, (Option.some.inj h).symm⟩)))

theorem written_of_write? (store : Store σ) (state : σ) {subject : RawText}
    {email phone : Option String} {clock : Moment}
    (h : s.write? subject email phone clock = some c) :
    answering .written (s.createOrUpdate store clock subject email phone) state =
      store.perform c state := by
  unfold write? at h
  split at h
  · rename_i haccept
    obtain rfl := Option.some.inj h
    simp only [Store.perform, answering, createOrUpdate, haccept]
  · exact absurd h (by simp)

theorem refused_of_write? {subject : RawText} {email phone : Option String} {clock : Moment}
    (h : s.write? subject email phone clock = none) :
    ∃ f, ∀ {σ : Type} (store : Store σ) (state : σ),
      s.createOrUpdate store clock subject email phone state = (.error f, state) := by
  unfold write? at h
  split at h
  · exact absurd h (by simp)
  · rename_i f haccept
    refine ⟨f, fun store state => ?_⟩
    simp only [createOrUpdate, haccept]

/-- **Asking.** A call that asks for a call of the store does what that call does. -/
theorem perform_of_asks (store : Store σ) (state : σ) (h : s.asks call = some c) :
    s.perform store call state = store.perform c state := by
  cases call with
  | createOrUpdate subject email phone clock => exact written_of_write? store state h
  | syncPrincipal p clock =>
    cases hemail : p.email with
    | none => exact absurd h (by simp [asks, hemail])
    | some email =>
      by_cases hempty : email.isEmpty = true
      · exact absurd h (by simp only [asks, hemail, if_pos hempty]; simp)
      · simp only [asks, hemail, if_neg hempty] at h
        rw [← written_of_write? store state h]
        simp only [perform, answering, syncPrincipal, hemail, if_neg hempty]
  | findById subject =>
    obtain rfl := Option.some.inj h
    rfl
  | findByEmail email =>
    cases hemail : email.map normalizeEmail with
    | none => exact absurd h (by simp only [asks, hemail]; simp)
    | some e =>
      by_cases hempty : e.isEmpty = true
      · exact absurd h (by simp only [asks, hemail, if_pos hempty]; simp)
      · simp only [asks, hemail, if_neg hempty] at h
        obtain rfl := Option.some.inj h
        simp only [perform, Store.perform, answering, findByEmail, hemail, if_neg hempty]
  | touch subject clock =>
    obtain rfl := Option.some.inj h
    rfl
  | delete subject =>
    obtain rfl := Option.some.inj h
    rfl

/-- **Not asking.** Every other call has the same answer over every store and leaves its state
alone. -/
theorem perform_of_not_asks (h : s.asks call = none) :
    ∃ answer, ∀ {σ : Type} (store : Store σ) (state : σ),
      s.perform store call state = (answer, state) := by
  cases call with
  | createOrUpdate subject email phone clock =>
    obtain ⟨f, hrefused⟩ := refused_of_write? h
    refine ⟨.error f, fun store state => ?_⟩
    rw [perform, answering, hrefused]
    rfl
  | syncPrincipal p clock =>
    -- a principal without an email is refused before anything is validated
    cases hemail : p.email with
    | none =>
      refine ⟨.error (.service .missingEmail), fun store state => ?_⟩
      simp only [perform, answering, syncPrincipal, hemail]
      rfl
    | some email =>
      by_cases hempty : email.isEmpty = true
      · refine ⟨.error (.service .missingEmail), fun store state => ?_⟩
        simp only [perform, answering, syncPrincipal, hemail, if_pos hempty]
        rfl
      · simp only [asks, hemail, if_neg hempty] at h
        obtain ⟨f, hrefused⟩ := refused_of_write? h
        refine ⟨.error f, fun store state => ?_⟩
        simp only [perform, answering, syncPrincipal, hemail, if_neg hempty, hrefused]
        rfl
  | findById subject => exact absurd h (by simp [asks])
  | findByEmail email =>
    refine ⟨.ok (.found none), fun store state => ?_⟩
    cases hemail : email.map normalizeEmail with
    | none =>
      simp only [perform, answering, findByEmail, hemail]
      rfl
    | some e =>
      by_cases hempty : e.isEmpty = true
      · simp only [perform, answering, findByEmail, hemail, if_pos hempty]
        rfl
      · exact absurd h (by simp only [asks, hemail, if_neg hempty]; simp)
  | touch subject clock => exact absurd h (by simp [asks])
  | delete subject => exact absurd h (by simp [asks])

/-- The answers to a sequence of calls, and the state that it leaves. -/
def run (s : Synchronizer) (store : Store σ) : List Call → σ → List (Outcome Answer) × σ
  | [], state => ([], state)
  | call :: calls, state =>
      let (answer, state) := s.perform store call state
      let (answers, state) := run s store calls state
      (answer :: answers, state)

/-- **Sequences of calls.** They leave what the calls of the store leave that they ask for. -/
theorem run_state (s : Synchronizer) (store : Store σ) (calls : List Call) (state : σ) :
    (s.run store calls state).2 = store.run state (calls.filterMap s.asks) := by
  -- only the calls that ask for something move the state
  induction calls generalizing state with
  | nil => rfl
  | cons call calls ih =>
    rw [run, ih]
    cases hasks : s.asks call with
    | none =>
      obtain ⟨answer, hperform⟩ := perform_of_not_asks hasks
      rw [hperform, List.filterMap_cons_none hasks]
    | some c =>
      rw [perform_of_asks store state hasks, Store.perform_state,
        List.filterMap_cons_some hasks]
      rfl

end Synchronizer

end IdentityService
