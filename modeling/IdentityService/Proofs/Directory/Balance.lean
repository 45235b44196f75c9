import IdentityService.Proofs.Directory.SingleRow

/-!
# The Balance of a Row

A write reports whether it created the row, and a removal whether there was one.  Each of them is
a single call, so in every sequence of calls these reports add up: a row is there when it has been
created once more than it has been removed.

## Main definitions

- `Store.Answered.creates`, `Store.Answered.deletes`: what a call reports about a row.

## Main statements

- `Memory.balance_perform`, `Memory.balance_trace`: the balance of one call and of a sequence.
- `Memory.countP_creates_of_first`: of the first writes of a row, one alone reports a creation.
-/

namespace IdentityService

open Store (Answer Answered)

/-! ## §1 Reports -/

namespace Store.Answered

/-- A call that wrote the row of a subject. -/
def writes (subject : RawText) : Answered → Bool
  | (.upsert s _ _ _, .ok (.written _)) => s == subject
  | _ => false

/-- A call that reported the row of a subject as created. -/
def creates (subject : RawText) : Answered → Bool
  | (.upsert s _ _ _, .ok (.written result)) => s == subject && result.wasCreated
  | _ => false

/-- A call that reported the row of a subject as removed. -/
def deletes (subject : RawText) : Answered → Bool
  | (.delete s, .ok (.count n)) => s == subject && n == 1
  | _ => false

variable {subject : RawText} {answered : Answered}

theorem writes_eq_true_iff : answered.writes subject = true ↔
    ∃ email phone now result,
      answered = (.upsert subject email phone now, .ok (.written result)) := by
  constructor
  · intro h
    unfold writes at h
    split at h
    · rename_i s email phone now result
      obtain rfl := eq_of_beq h
      exact ⟨email, phone, now, result, rfl⟩
    · exact absurd h (by simp)
  · rintro ⟨email, phone, now, result, rfl⟩
    exact beq_self_eq_true subject

theorem creates_written {subject : RawText} {email : String} {phone : Option String} {now : Moment}
    {result : SyncResult} :
    creates subject (.upsert subject email phone now, .ok (.written result)) =
      result.wasCreated := by
  rw [creates, beq_self_eq_true, Bool.true_and]

theorem writes_of_creates (h : answered.creates subject = true) :
    answered.writes subject = true := by
  unfold creates at h
  split at h
  · exact (Bool.and_eq_true_iff.mp h).1
  · exact absurd h (by simp)

end Store.Answered

/-! ## §2 One call -/

namespace Memory

/-- The number of rows of a subject, which is one or none. -/
def rowsOf (m : Memory) (subject : RawText) : Nat := (m.records.get? subject).isSome.toNat

variable {m m' : Memory} {subject : RawText}

theorem rowsOf_of_none (h : m.records.get? subject = none) : m.rowsOf subject = 0 := by
  rw [rowsOf, h]
  rfl

theorem rowsOf_of_some {r : IdentityRecord} (h : m.records.get? subject = some r) :
    m.rowsOf subject = 1 := by
  rw [rowsOf, h]
  rfl

theorem rowsOf_congr (h : m'.records.get? subject = m.records.get? subject) :
    m'.rowsOf subject = m.rowsOf subject := by
  rw [rowsOf, rowsOf, h]

theorem balance_write {email : String} {phone : Option String} {now : Moment}
    {result : SyncResult} (s : RawText) (h : m.upsert? s email phone now = .ok (result, m')) :
    (s == subject && result.wasCreated).toNat + m.rowsOf subject = m'.rowsOf subject := by
  obtain ⟨hresult, hrecords⟩ := records_upsert? h
  by_cases hs : s = subject
  · -- a write reports a creation when there was no row, and leaves one
    subst hs
    have hrow : m'.records.get? s = some result.record := by
      rw [hrecords, Assoc.get?_set, if_pos rfl]
    have hcreated : result.wasCreated = (m.records.get? s).isNone := by rw [hresult]
    rw [rowsOf_of_some hrow, beq_self_eq_true, Bool.true_and, hcreated, rowsOf]
    cases m.records.get? s <;> rfl
  · have hrow : m'.records.get? subject = m.records.get? subject := by
      rw [hrecords, Assoc.get?_set, if_neg hs]
    rw [rowsOf_congr hrow, beq_eq_false_iff_ne.mpr hs, Bool.false_and, Bool.toNat_false,
      Nat.zero_add]

theorem balance_delete (m : Memory) (s subject : RawText) :
    m.rowsOf subject =
      (s == subject && (m.delete s).1 == 1).toNat + (m.delete s).2.rowsOf subject := by
  have hafter := get?_delete m s subject
  by_cases hs : s = subject
  · -- a removal reports whether there was a row, and leaves none
    subst hs
    rw [if_pos rfl] at hafter
    rw [rowsOf_of_none hafter, beq_self_eq_true, Bool.true_and]
    cases hr : m.records.get? s with
    | none =>
      rw [delete_of_absent hr, rowsOf_of_none hr]
      rfl
    | some r =>
      rw [delete_of_present hr, rowsOf_of_some hr]
      rfl
  · rw [if_neg hs] at hafter
    rw [rowsOf_congr hafter, beq_eq_false_iff_ne.mpr hs, Bool.false_and, Bool.toNat_false,
      Nat.zero_add]

theorem rowsOf_touch (m : Memory) (s : RawText) (now : Moment) (subject : RawText) :
    (m.touch s now).2.rowsOf subject = m.rowsOf subject := by
  rw [rowsOf, rowsOf, get?_touch]
  split
  · rw [Option.isSome_map]
  · rfl

/-- **One call.** A creation that it reports is a row more, and a removal is a row less. -/
theorem balance_perform (m : Memory) (call : Store.Call) (subject : RawText) :
    (Answered.creates subject (call, (store.perform call m).1)).toNat + m.rowsOf subject =
      (Answered.deletes subject (call, (store.perform call m).1)).toNat +
        (store.after m call).rowsOf subject := by
  cases call with
  | upsert s email phone now =>
    rw [← Store.perform_state]
    cases hwrite : m.upsert? s email phone now with
    | error field =>
      rw [perform_write_of_error hwrite]
      rfl
    | ok written =>
      rw [perform_write_of_ok hwrite]
      exact (balance_write s hwrite).trans (Nat.zero_add _).symm
  | findById s => rfl
  | findByEmail email => rfl
  | touch s now => exact congrArg (0 + ·) (rowsOf_touch m s now subject).symm
  | delete s => exact (Nat.zero_add _).trans (balance_delete m s subject)

/-! ## §3 Sequences of calls -/

/-- **Sequences of calls.** From any state, the reported creations of a row and the row that was
there make up for the reported removals and the row that is left. -/
theorem balance_trace (m : Memory) (calls : List Store.Call) (subject : RawText) :
    (store.trace m calls).countP (Answered.creates subject) + m.rowsOf subject =
      (store.trace m calls).countP (Answered.deletes subject) +
        (store.run m calls).rowsOf subject := by
  have hcons : ∀ (p : Answered → Bool) (a : Answered) (rest : List Answered),
      (a :: rest).countP p = rest.countP p + (p a).toNat := by
    intro p a rest
    rw [List.countP_cons]
    cases p a <;> rfl
  induction calls generalizing m with
  | nil => rfl
  | cons call calls ih =>
    have hstep := balance_perform m call subject
    have hrest := ih (store.after m call)
    rw [Store.trace, hcons, hcons, Store.run_cons]
    omega

theorem rowsOf_le_one (m : Memory) (subject : RawText) : m.rowsOf subject ≤ 1 :=
  Bool.toNat_le _

theorem countP_deletes_of_kept {calls : List Store.Call}
    (hkept : ∀ a ∈ store.trace m calls, a.deletes subject = false) :
    (store.trace m calls).countP (Answered.deletes subject) = 0 := by
  rw [List.countP_eq_zero]
  intro a ha
  rw [hkept a ha]
  exact Bool.false_ne_true

theorem rowsOf_after_of_writes {call : Store.Call}
    (h : Answered.writes subject (call, (store.perform call m).1) = true) :
    (store.after m call).rowsOf subject = 1 := by
  obtain ⟨email, phone, now, result, heq⟩ := Answered.writes_eq_true_iff.mp h
  have hrow := get?_after m call subject
  simp only [heq, Answered.change?, if_true, RowChange.apply] at hrow
  exact rowsOf_of_some hrow

/-- A row that is written and not removed is there. -/
theorem rowsOf_run_of_writes {calls : List Store.Call}
    (hkept : ∀ a ∈ store.trace m calls, a.deletes subject = false)
    (hwritten : ∃ a ∈ store.trace m calls, a.writes subject = true) :
    (store.run m calls).rowsOf subject = 1 := by
  induction calls generalizing m with
  | nil =>
    obtain ⟨a, ha, -⟩ := hwritten
    exact absurd ha List.not_mem_nil
  | cons call calls ih =>
    obtain ⟨-, hkept⟩ := List.forall_mem_cons.mp hkept
    obtain ⟨a, ha, hwrites⟩ := hwritten
    rcases List.mem_cons.mp ha with rfl | ha
    · -- nothing after the write takes the row away
      have hrow := rowsOf_after_of_writes hwrites
      have hbalance := balance_trace (store.after m call) calls subject
      rw [countP_deletes_of_kept hkept, hrow] at hbalance
      have hle := rowsOf_le_one (store.run m (call :: calls)) subject
      rw [Store.run_cons] at hle ⊢
      omega
    · exact ih hkept ⟨a, ha, hwrites⟩

/-- **First writes.** Of the writes of a row that was not there, and is not removed, one alone
reports that it created the row. -/
theorem countP_creates_of_first {calls : List Store.Call}
    (habsent : m.records.get? subject = none)
    (hkept : ∀ a ∈ store.trace m calls, a.deletes subject = false)
    (hwritten : ∃ a ∈ store.trace m calls, a.writes subject = true) :
    (store.trace m calls).countP (Answered.creates subject) = 1 := by
  have hbalance := balance_trace m calls subject
  rw [rowsOf_of_none habsent, countP_deletes_of_kept hkept,
    rowsOf_run_of_writes hkept hwritten] at hbalance
  exact hbalance

end Memory

end IdentityService
