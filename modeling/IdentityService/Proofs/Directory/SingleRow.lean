import IdentityService.Proofs.Directory.Admission

/-!
# The Row of One Subject

What a call does to the memory store is seen from a single subject.  Of all calls only three kinds
matter to it, and only when they are about this subject and succeed: a write, a touch and a
removal.  Each of them makes the new row from the old one and from nothing else.

## Main definitions

- `RowChange`: what can become of a row.
- `Store.trace`: a sequence of calls with their answers.

## Main statements

- `Memory.get?_after`: one call, seen from one subject.
- `Memory.get?_after_of_about`: a call about a subject leaves the rows of all others alone.
-/

namespace IdentityService

open Store (Answer)

/-! ## §1 Changes of a row -/

/-- The row after a touch. -/
def IdentityRecord.touchedAt (now : Moment) (r : IdentityRecord) : IdentityRecord :=
  { r with lastActiveAt := some now, updatedAt := now }

/-- A change of the row of a subject. -/
inductive RowChange
  | written (email : String) (phone : Option String) (now : Moment)
  | touched (now : Moment)
  | deleted
  deriving DecidableEq, Repr

namespace RowChange

/-- The row that a change leaves of a row or of none. -/
def apply (subject : RawText) (row : Option IdentityRecord) : RowChange → Option IdentityRecord
  | written email phone now => some (Memory.written row subject email phone now)
  | touched now => row.map (IdentityRecord.touchedAt now)
  | deleted => none

end RowChange

/-! ## §2 Calls with their answers -/

namespace Store

/-- A call with the answer that it was given. -/
abbrev Answered := Call × Outcome Answer

/-- What an answered call changes about the row of a subject.  A call that failed, and one about
another subject, changes nothing. -/
def Answered.change? (subject : RawText) : Answered → Option RowChange
  | (.upsert s email phone now, .ok _) =>
      if s = subject then some (.written email phone now) else none
  | (.touch s now, .ok _) => if s = subject then some (.touched now) else none
  | (.delete s, .ok _) => if s = subject then some .deleted else none
  | _ => none

variable {σ : Type}

/-- A sequence of calls with their answers. -/
def trace (store : Store σ) (state : σ) : List Call → List Answered
  | [] => []
  | call :: calls =>
      (call, (store.perform call state).1) :: trace store (store.after state call) calls

theorem run_cons (store : Store σ) (state : σ) (call : Call) (calls : List Call) :
    store.run state (call :: calls) = store.run (store.after state call) calls :=
  rfl

theorem run_append (store : Store σ) (state : σ) (calls more : List Call) :
    store.run state (calls ++ more) = store.run (store.run state calls) more :=
  List.foldl_append

theorem trace_append (store : Store σ) (state : σ) (calls more : List Call) :
    store.trace state (calls ++ more) =
      store.trace state calls ++ store.trace (store.run state calls) more := by
  induction calls generalizing state with
  | nil => rfl
  | cons call calls ih =>
    rw [List.cons_append, trace, ih]
    rfl

theorem map_trace (store : Store σ) (state : σ) (calls : List Call) :
    (store.trace state calls).map (·.1) = calls := by
  induction calls generalizing state with
  | nil => rfl
  | cons call calls ih => rw [trace, List.map_cons, ih]

/-- A call is about a subject: it takes the identifier of this subject and of no other. -/
def Call.IsAbout (subject : RawText) : Call → Prop
  | .upsert s _ _ _ => s = subject
  | .findById s => s = subject
  | .findByEmail _ => False
  | .touch s _ => s = subject
  | .delete s => s = subject

theorem Call.IsAbout.change?_eq_none {call : Call} {subject other : RawText}
    (h : call.IsAbout subject) (hother : other ≠ subject) (answer : Outcome Answer) :
    Answered.change? other (call, answer) = none := by
  cases call with
  | findByEmail email => exact absurd h id
  | findById s => rfl
  | _ =>
    obtain rfl := h
    cases answer <;> simp [Answered.change?, Ne.symm hother]

end Store

/-! ## §3 One call, one row -/

namespace Memory

variable {m : Memory} {subject : RawText} {email : String} {phone : Option String} {now : Moment}

theorem perform_write_of_error {field : UniqueField}
    (h : m.upsert? subject email phone now = .error field) :
    store.perform (.upsert subject email phone now) m =
      (.error (.service (.identityConflict field.label)), m) := by
  simp only [Store.perform, Store.answering, store, h]
  rfl

theorem perform_write_of_ok {result : SyncResult} {m' : Memory}
    (h : m.upsert? subject email phone now = .ok (result, m')) :
    store.perform (.upsert subject email phone now) m = (.ok (.written result), m') := by
  simp only [Store.perform, Store.answering, store, h]
  rfl

theorem perform_touch (m : Memory) (s : RawText) (now : Moment) :
    store.perform (.touch s now) m = (.ok (.count (m.touch s now).1), (m.touch s now).2) :=
  rfl

theorem perform_delete (m : Memory) (s : RawText) :
    store.perform (.delete s) m = (.ok (.count (m.delete s).1), (m.delete s).2) :=
  rfl

theorem touch_of_absent (h : m.records.get? subject = none) (now : Moment) :
    m.touch subject now = (0, m) := by
  unfold Memory.touch
  rw [h]

theorem touch_of_present {r : IdentityRecord} (h : m.records.get? subject = some r)
    (now : Moment) :
    m.touch subject now = (1, { m with records := m.records.set subject (r.touchedAt now) }) := by
  unfold Memory.touch
  rw [h]
  rfl

theorem delete_of_absent (h : m.records.get? subject = none) : m.delete subject = (0, m) := by
  unfold Memory.delete
  rw [h]

theorem delete_of_present {r : IdentityRecord} (h : m.records.get? subject = some r) :
    m.delete subject = (1, { m with records := m.records.erase subject }.withdraw r) := by
  unfold Memory.delete
  rw [h]

theorem get?_touch (m : Memory) (s : RawText) (now : Moment) (subject : RawText) :
    (m.touch s now).2.records.get? subject =
      if s = subject then (m.records.get? subject).map (IdentityRecord.touchedAt now)
      else m.records.get? subject := by
  by_cases hs : s = subject
  · subst hs
    rw [if_pos rfl]
    cases hr : m.records.get? s with
    | none =>
      rw [touch_of_absent hr, hr]
      rfl
    | some r =>
      rw [touch_of_present hr, Assoc.get?_set, if_pos rfl]
      rfl
  · rw [if_neg hs]
    cases hr : m.records.get? s with
    | none => rw [touch_of_absent hr]
    | some r => rw [touch_of_present hr, Assoc.get?_set, if_neg hs]

theorem get?_delete (m : Memory) (s : RawText) (subject : RawText) :
    (m.delete s).2.records.get? subject =
      if s = subject then none else m.records.get? subject := by
  cases hr : m.records.get? s with
  | none =>
    rw [delete_of_absent hr]
    split
    · rename_i hs
      rw [← hs, hr]
    · rfl
  | some r =>
    rw [delete_of_present hr]
    exact Assoc.get?_erase m.records s subject

/-- **One call.** What it leaves of the row of a subject is the change that it makes, applied to
the row that was there. -/
theorem get?_after (m : Memory) (call : Store.Call) (subject : RawText) :
    (store.after m call).records.get? subject =
      match Store.Answered.change? subject (call, (store.perform call m).1) with
      | some change => change.apply subject (m.records.get? subject)
      | none => m.records.get? subject := by
  cases call with
  | upsert s email phone now =>
    rw [← Store.perform_state]
    -- a conflict changes no row, and a write sets the one of its subject
    cases hwrite : m.upsert? s email phone now with
    | error field => rw [perform_write_of_error hwrite]; rfl
    | ok written =>
      obtain ⟨result, m'⟩ := written
      obtain ⟨hresult, hrecords⟩ := records_upsert? hwrite
      rw [perform_write_of_ok hwrite]
      show m'.records.get? subject = _
      rw [hrecords, Assoc.get?_set, hresult]
      by_cases hs : s = subject
      · subst hs
        simp only [Store.Answered.change?, if_true, RowChange.apply]
      · simp only [Store.Answered.change?, if_neg hs]
  | findById s => rfl
  | findByEmail email => rfl
  | touch s now =>
    rw [← Store.perform_state, perform_touch, get?_touch]
    by_cases hs : s = subject
    · simp only [Store.Answered.change?, if_pos hs, RowChange.apply]
    · simp only [Store.Answered.change?, if_neg hs]
  | delete s =>
    rw [← Store.perform_state, perform_delete, get?_delete]
    by_cases hs : s = subject
    · simp only [Store.Answered.change?, if_pos hs, RowChange.apply]
    · simp only [Store.Answered.change?, if_neg hs]

/-- **Other rows.** A call about a subject leaves the rows of all others alone. -/
theorem get?_after_of_about {call : Store.Call} {other : RawText} (h : call.IsAbout subject)
    (hother : other ≠ subject) :
    (store.after m call).records.get? other = m.records.get? other := by
  rw [get?_after, h.change?_eq_none hother]

/-! ## §4 What a write reports -/

variable {m' : Memory} {result : SyncResult}

/-- The row that a write reports is that of the subject it is about. -/
theorem Consistent.id_of_written (h : m.Consistent)
    (hwritten : m.upsert? subject email phone now = .ok (result, m')) :
    result.record.id = subject := by
  obtain ⟨hresult, -⟩ := records_upsert? hwritten
  rw [hresult]
  exact id_written h subject email phone now

theorem Consistent.id_of_trace (h : m.Consistent) {calls : List Store.Call}
    (hwritten : (.upsert subject email phone now, .ok (.written result)) ∈ store.trace m calls) :
    result.record.id = subject := by
  induction calls generalizing m with
  | nil => exact absurd hwritten List.not_mem_nil
  | cons call calls ih =>
    rcases List.mem_cons.mp hwritten with hfirst | hlater
    · -- the first call is the write
      obtain ⟨rfl, hanswer⟩ := Prod.mk.inj hfirst
      cases hupsert : m.upsert? subject email phone now with
      | error field =>
        rw [perform_write_of_error hupsert] at hanswer
        exact absurd hanswer (by simp)
      | ok written =>
        rw [perform_write_of_ok hupsert] at hanswer
        obtain rfl := Answer.written.inj (Except.ok.inj hanswer)
        exact h.id_of_written hupsert
    · exact ih (h.after call) hlater

end Memory

end IdentityService
