import IdentityService.Proofs.Directory.SingleRow

/-!
# Independent Calls

Two calls that change different subjects can be made in either order, unless one of them asks for
an email or a phone number that the other asks for or that the other subject has.  What a call
answers, and the row that it leaves, depend on the row of its subject and on who holds the keys
that it asks for; and a call about another subject changes neither, short of such a contention.
The rows determine the indexes, so equal rows are enough.

## Main definitions

- `Store.Call.Changes`: the calls that change a subject.
- `Store.Call.asked`: the keys that a call asks for.
- `Memory.Uncontended`: a call asks for nothing that another call may give or take.

## Main statements

- `Memory.get?_index_after`: the owner of a key that a call neither gives nor takes.
- `Memory.answer_after`: an answer after a call about another subject.
- `Memory.independent_calls_commute`: two calls in either order.
-/

namespace IdentityService

/-! ## §1 The same entries -/

/-- Two lists of entries are the same map: they have the same entries in some order, and every
look-up finds the same. -/
structure Assoc.Same {α κ : Type} [DecidableEq κ] (a b : Assoc α κ) : Prop where
  get? : ∀ k, a.get? k = b.get? k
  perm : a.Perm b

theorem Assoc.same_of_nodup {α κ : Type} [DecidableEq κ] {a b : Assoc α κ} (ha : a.keys.Nodup)
    (hb : b.keys.Nodup) (h : ∀ k, a.get? k = b.get? k) : a.Same b where
  get? := h
  perm := by
    rw [List.perm_ext_iff_of_nodup (List.Nodup.of_map _ ha) (List.Nodup.of_map _ hb)]
    rintro ⟨k, v⟩
    rw [Assoc.mem_iff_get? ha, Assoc.mem_iff_get? hb, h k]

/-- **Rows and indexes.** Where they are in step, the rows determine the indexes. -/
theorem Memory.Consistent.same {m m' : Memory} (h : m.Consistent) (h' : m'.Consistent)
    (hrows : ∀ s, m.records.get? s = m'.records.get? s) :
    m.records.Same m'.records ∧ m.byEmail.Same m'.byEmail ∧ m.byPhone.Same m'.byPhone := by
  refine ⟨Assoc.same_of_nodup h.records_nodup h'.records_nodup hrows,
    Assoc.same_of_nodup h.email_nodup h'.email_nodup fun k => ?_,
    Assoc.same_of_nodup h.phone_nodup h'.phone_nodup fun k => ?_⟩
  · apply Option.ext
    intro owner
    exact h'.email.same_owner h.email (hrows owner) k
  · apply Option.ext
    intro owner
    exact h'.phone.same_owner h.phone (hrows owner) k

/-! ## §2 What a call asks for -/

namespace Store

/-- A call changes a subject, if it succeeds. -/
def Call.Changes (subject : RawText) : Call → Prop
  | .upsert s _ _ _ => s = subject
  | .touch s _ => s = subject
  | .delete s => s = subject
  | .findById _ => False
  | .findByEmail _ => False

theorem Call.Changes.isAbout {call : Call} {subject : RawText} (h : call.Changes subject) :
    call.IsAbout subject := by
  cases call with
  | findById s => exact h.elim
  | _ => exact h

/-- The key that a call asks for: that of the row that it would write. -/
def Call.asked (key : IdentityRecord → Option String) : Call → Option String
  | .upsert subject email phone now => key (Memory.written none subject email phone now)
  | _ => none

end Store

namespace Memory

open Store (Answer)

/-- A call asks for no email and for no phone number that another call asks for or that the
subject of the other call has. -/
structure Uncontended (m : Memory) (call other : Store.Call) (owner : RawText) : Prop where
  email : ∀ k ∈ call.asked emailKey?,
    other.asked emailKey? ≠ some k ∧ m.byEmail.get? k ≠ some owner
  phone : ∀ p ∈ call.asked (·.phone),
    other.asked (·.phone) ≠ some p ∧ m.byPhone.get? p ≠ some owner

instance (m : Memory) (call other : Store.Call) (owner : RawText) :
    Decidable (m.Uncontended call other owner) :=
  decidable_of_iff
    ((∀ k ∈ call.asked emailKey?,
        other.asked emailKey? ≠ some k ∧ m.byEmail.get? k ≠ some owner) ∧
      ∀ p ∈ call.asked (·.phone),
        other.asked (·.phone) ≠ some p ∧ m.byPhone.get? p ≠ some owner)
    ⟨fun h => ⟨h.1, h.2⟩, fun h => ⟨h.email, h.phone⟩⟩

/-- A key of a row depends on its email and its phone number alone. -/
def ContactKey (key : IdentityRecord → Option String) : Prop :=
  ∀ r r' : IdentityRecord, r.email = r'.email → r.phone = r'.phone → key r = key r'

theorem contactKey_email : ContactKey emailKey? := by
  intro r r' hemail _
  rw [emailKey?, emailKey?, hemail]

theorem contactKey_phone : ContactKey (·.phone) := fun _ _ _ hphone => hphone

variable {m : Memory} {c d : Store.Call} {s t : RawText}
  {key : IdentityRecord → Option String}

/-- **Keys.** After a call the row of its subject has the key that the call asked for, or the one
that it had. -/
theorem key_after (hkey : ContactKey key) (hd : d.Changes t) {r' : IdentityRecord}
    (hr' : (store.after m d).records.get? t = some r') :
    d.asked key = key r' ∨ ∃ r, m.records.get? t = some r ∧ key r = key r' := by
  rw [get?_after] at hr'
  cases d with
  | upsert subject email phone now =>
    obtain rfl : subject = t := hd
    cases hanswer : (store.perform (.upsert subject email phone now) m).1 with
    | error f =>
      rw [hanswer] at hr'
      exact .inr ⟨r', hr', rfl⟩
    | ok answer =>
      simp only [hanswer, Store.Answered.change?, if_true, RowChange.apply,
        Option.some.injEq] at hr'
      rw [← hr']
      exact .inl (hkey _ _ (by rw [email_written, email_written])
        (by rw [phone_written, phone_written]))
  | touch subject now =>
    obtain rfl : subject = t := hd
    simp only [perform_touch, Store.Answered.change?, if_true, RowChange.apply] at hr'
    obtain ⟨r, hr, rfl⟩ := Option.map_eq_some_iff.mp hr'
    exact .inr ⟨r, hr, hkey _ _ rfl rfl⟩
  | delete subject =>
    obtain rfl : subject = t := hd
    simp only [perform_delete, Store.Answered.change?, if_true, RowChange.apply] at hr'
    exact absurd hr'.symm (Option.some_ne_none r')
  | findById subject => exact hd.elim
  | findByEmail email => exact hd.elim

/-- **Owners.** A key that a call does not ask for, and that its subject does not have, keeps its
owner, if any. -/
theorem get?_index_after (hkey : ContactKey key) {index index' : Assoc RawText}
    (hindex : Index index m.records key)
    (hindex' : Index index' (store.after m d).records key) (hd : d.Changes t) {k : String}
    (hasked : d.asked key ≠ some k) (hheld : index.get? k ≠ some t) :
    index'.get? k = index.get? k := by
  apply Option.ext
  intro owner
  by_cases howner : owner = t
  · -- the subject of the call does not have the key, and does not get it
    subst howner
    refine iff_of_false ?_ hheld
    intro hheld'
    obtain ⟨r', hr', hk⟩ := (hindex' k owner).mp hheld'
    rcases key_after hkey hd hr' with hnew | ⟨r, hr, hold⟩
    · exact hasked (hnew.trans hk)
    · exact hheld ((hindex k owner).mpr ⟨r, hr, hold.trans hk⟩)
  · exact hindex.same_owner hindex' (get?_after_of_about hd.isAbout howner) k

/-! ## §3 One call after another -/

theorem conflict?_after (hm : m.Consistent) (hd : d.Changes t) {email : String}
    {phone : Option String} {now : Moment}
    (h : m.Uncontended (.upsert s email phone now) d t) :
    (store.after m d).conflict? s email phone = m.conflict? s email phone := by
  have hm' : (store.after m d).Consistent := hm.after d
  obtain ⟨hasked, hheld⟩ := h.email _ rfl
  have hemail : (store.after m d).byEmail.get? (emailKey email) =
      m.byEmail.get? (emailKey email) :=
    get?_index_after contactKey_email hm.email hm'.email hd hasked hheld
  unfold conflict? heldByOther
  rw [hemail]
  cases phone with
  | none => rfl
  | some p =>
    obtain ⟨hasked', hheld'⟩ := h.phone p rfl
    have hphone : (store.after m d).byPhone.get? p = m.byPhone.get? p :=
      get?_index_after contactKey_phone hm.phone hm'.phone hd hasked' hheld'
    simp only [hphone]

/-- What a write answers, by the conflict and the row of its subject. -/
theorem answer_upsert (m : Memory) (s : RawText) (email : String) (phone : Option String)
    (now : Moment) :
    (store.perform (.upsert s email phone now) m).1 =
      match m.conflict? s email phone with
      | some field => .error (.service (.identityConflict field.label))
      | none => .ok (.written ⟨written (m.records.get? s) s email phone now,
          (m.records.get? s).isNone⟩) := by
  simp only [Store.perform, Store.answering, store, upsert?]
  cases m.conflict? s email phone <;> rfl

/-- What a touch and a removal answer, by the row of their subject. -/
theorem answer_touch (m : Memory) (s : RawText) (now : Moment) :
    (store.perform (.touch s now) m).1 =
      .ok (.count (if (m.records.get? s).isSome then 1 else 0)) := by
  rw [perform_touch]
  unfold Memory.touch
  cases m.records.get? s <;> rfl

theorem answer_delete (m : Memory) (s : RawText) :
    (store.perform (.delete s) m).1 =
      .ok (.count (if (m.records.get? s).isSome then 1 else 0)) := by
  rw [perform_delete]
  unfold Memory.delete
  cases m.records.get? s <;> rfl

/-- **Answers.** A call answers the same after an uncontended call about another subject. -/
theorem answer_after (hm : m.Consistent) (hst : s ≠ t) (hc : c.Changes s) (hd : d.Changes t)
    (h : m.Uncontended c d t) :
    (store.perform c (store.after m d)).1 = (store.perform c m).1 := by
  have hrow : (store.after m d).records.get? s = m.records.get? s :=
    get?_after_of_about hd.isAbout hst
  cases c with
  | upsert subject email phone now =>
    obtain rfl : subject = s := hc
    rw [answer_upsert, answer_upsert, conflict?_after hm hd h, hrow]
  | touch subject now =>
    obtain rfl : subject = s := hc
    rw [answer_touch, answer_touch, hrow]
  | delete subject =>
    obtain rfl : subject = s := hc
    rw [answer_delete, answer_delete, hrow]
  | findById subject => exact hc.elim
  | findByEmail email => exact hc.elim

/-- **Rows.** A call leaves the same row of its subject after such a call. -/
theorem row_after (hm : m.Consistent) (hst : s ≠ t) (hc : c.Changes s) (hd : d.Changes t)
    (h : m.Uncontended c d t) :
    (store.after (store.after m d) c).records.get? s = (store.after m c).records.get? s := by
  rw [get?_after (store.after m d) c s, answer_after hm hst hc hd h,
    get?_after_of_about hd.isAbout hst, get?_after m c s]

/-! ## §4 Two calls in either order -/

/-- The rows after two calls do not depend on their order. -/
theorem rows_commute (hm : m.Consistent) (hst : s ≠ t) (hc : c.Changes s) (hd : d.Changes t)
    (hcd : m.Uncontended c d t) (hdc : m.Uncontended d c s) (x : RawText) :
    (store.after (store.after m c) d).records.get? x =
      (store.after (store.after m d) c).records.get? x := by
  by_cases hs : x = s
  · subst hs
    rw [row_after hm hst hc hd hcd, get?_after_of_about hd.isAbout hst]
  · by_cases ht : x = t
    · subst ht
      rw [row_after hm hst.symm hd hc hdc, get?_after_of_about hc.isAbout hst.symm]
    · -- the rows of all others stay
      rw [get?_after_of_about hd.isAbout ht, get?_after_of_about hc.isAbout hs,
        get?_after_of_about hc.isAbout hs, get?_after_of_about hd.isAbout ht]

/-- **Independent calls.** Two calls that change different subjects, neither of which asks for an
email, case aside, or a phone number that the other asks for or that the other subject has, can be
made in either order: each gives the same answer, a conflict with a third subject among them, and
they leave the same rows and the same indexes. -/
theorem independent_calls_commute (hm : m.Consistent) (hst : s ≠ t) (hc : c.Changes s)
    (hd : d.Changes t) (hcd : m.Uncontended c d t) (hdc : m.Uncontended d c s) :
    let first := store.perform c m
    let second := store.perform d first.2
    let first' := store.perform d m
    let second' := store.perform c first'.2
    first.1 = second'.1 ∧ second.1 = first'.1 ∧
      second.2.records.Same second'.2.records ∧ second.2.byEmail.Same second'.2.byEmail ∧
      second.2.byPhone.Same second'.2.byPhone := by
  simp only [Store.perform_state]
  refine ⟨(answer_after hm hst hc hd hcd).symm, answer_after hm hst.symm hd hc hdc, ?_⟩
  exact Consistent.same ((hm.after c).after d) ((hm.after d).after c)
    (rows_commute hm hst hc hd hcd hdc)

/-- The first call is in conflict with a third subject, in either order, while the second one
gives up the email of its own subject for another. -/
theorem independent_calls_commute_conflict :
    let clock : Moment := ⟨0, some 0⟩
    let m := store.run .empty [.upsert "user-1" "a@example.com" none clock,
      .upsert "user-2" "b@example.com" none clock,
      .upsert "user-3" "c@example.com" (some "+14155552671") clock]
    let c : Store.Call := .upsert "user-1" "A@Example.com" (some "+14155552671") clock
    let d : Store.Call := .upsert "user-2" "d@example.com" (some "+14155552672") clock
    (store.perform c m).1 = .error (.service (.identityConflict UniqueField.phone.label)) ∧
      (store.perform c (store.perform d m).2).1 = (store.perform c m).1 ∧
      (store.perform d (store.perform c m).2).1 = (store.perform d m).1 ∧
      (store.perform d (store.perform c m).2).2.byEmail.Same
        (store.perform c (store.perform d m).2).2.byEmail := by
  intro clock m c d
  have hm : m.Consistent := consistent_run _
  have hc : c.Changes "user-1" := rfl
  have hd : d.Changes "user-2" := rfl
  obtain ⟨hfirst, hsecond, -, hemail, -⟩ :=
    independent_calls_commute hm (by decide) hc hd (by decide +kernel) (by decide +kernel)
  exact ⟨by decide +kernel, hfirst.symm, hsecond, hemail⟩

end Memory

end IdentityService
