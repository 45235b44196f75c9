import IdentityService.Proofs.Directory.SingleRow

/-!
# Rows and Their History

A row can be read off the calls that have been made and the answers that they were given.  What
comes before the last removal has no bearing on it, and neither does a call that was refused, or
one about another subject.  The rest is the life of the row: it begins with the write that created
the row, and every write and every touch since has left its mark.

## Main definitions

- `RowChange.life`: the life of the row that is there, out of all changes.
- `RowChange.Tells`: what a life tells about its row.
- `Synchronizer.change?`: what an answered call changes about the row of a subject.

## Main statements

- `RowChange.Described.apply`: one more change.
- `RowChange.Tells.in_order`: the times of a row are in order when the clock does not run back.
- `Memory.described_run`: the rows of the memory store, by the calls of the store.
- `Synchronizer.row_of_history`: the rows of the memory store, by the calls of a synchronizer.
-/

namespace IdentityService

open Store (Answer Answered)

/-! ## §1 The life of a row -/

namespace RowChange

/-- A write. -/
def isWrite : RowChange → Bool
  | written _ _ _ => true
  | _ => false

/-- The email and the phone number that a write leaves. -/
def written? : RowChange → Option (String × Option String)
  | written email phone _ => some (email, phone)
  | _ => none

/-- The time that a touch leaves. -/
def touched? : RowChange → Option Moment
  | touched now => some now
  | _ => none

/-- The reading of the clock that a change takes.  A removal takes none. -/
def reading? : RowChange → Option Moment
  | written _ _ now => some now
  | touched now => some now
  | deleted => none

/-- The life of the row that is there: what has changed since the last removal, from the first
write on. -/
def life (changes : List RowChange) : List RowChange :=
  (changes.reverse.takeWhile (· != deleted)).reverse.dropWhile (!·.isWrite)

variable {changes : List RowChange} {email : String} {phone : Option String} {now : Moment}

/-- A removal ends a life. -/
theorem life_deleted (changes : List RowChange) : life (changes ++ [deleted]) = [] := by
  rw [life, List.reverse_append, List.reverse_singleton, List.singleton_append,
    List.takeWhile_cons_of_neg (by simp)]
  rfl

/-- A change that is no removal goes on with a life, or begins one when it is a write. -/
theorem life_append_singleton {c : RowChange} (h : c ≠ deleted) (changes : List RowChange) :
    life (changes ++ [c]) =
      if life changes = [] then [c].dropWhile (!·.isWrite) else life changes ++ [c] := by
  rw [life, List.reverse_append, List.reverse_singleton, List.singleton_append,
    List.takeWhile_cons_of_pos (p := (· != deleted)) (bne_iff_ne.mpr h), List.reverse_cons,
    List.dropWhile_append]
  simp only [List.isEmpty_iff]
  rfl

/-- A write begins a life, or goes on with it. -/
theorem life_written (changes : List RowChange) :
    life (changes ++ [written email phone now]) =
      life changes ++ [written email phone now] := by
  rw [life_append_singleton (by simp)]
  split
  · rename_i hlife
    rw [hlife]
    rfl
  · rfl

/-- A touch is part of a life that has begun. -/
theorem life_touched (changes : List RowChange) :
    life (changes ++ [touched now]) =
      if life changes = [] then [] else life changes ++ [touched now] :=
  life_append_singleton (by simp) changes

theorem life_sublist (changes : List RowChange) : (life changes).Sublist changes := by
  have htake := (List.takeWhile_sublist (· != deleted) (l := changes.reverse)).reverse
  rw [List.reverse_reverse] at htake
  exact (List.dropWhile_sublist _).trans htake

example (t : Moment) :
    life [touched t, written "a@example.com" none t, deleted, touched t,
      written "b@example.com" none t, touched t] =
      [written "b@example.com" none t, touched t] := by
  simp [life, isWrite]

/-! ## §2 What a life tells -/

/-- What a life tells about its row.  The first write created the row, the last one gave it its
email and its phone number, the last change of all set the time of its change, and the last touch
the time of its last activity, if there was any touch. -/
structure Tells (subject : RawText) (life : List RowChange) (r : IdentityRecord) : Prop where
  id_eq : r.id = subject
  created : ∃ email phone, life.head? = some (written email phone r.createdAt)
  keys : (life.filterMap written?).getLast? = some (r.email, r.phone)
  updated : life.getLast?.bind reading? = some r.updatedAt
  active : (life.filterMap touched?).getLast? = r.lastActiveAt

variable {subject : RawText} {past : List RowChange} {r : IdentityRecord}

theorem Tells.ne_nil (h : Tells subject past r) : past ≠ [] := by
  rintro rfl
  obtain ⟨email, phone, hhead⟩ := h.created
  exact absurd hhead (by simp)

theorem Tells.head?_append (h : Tells subject past r) (c : RowChange) :
    ∃ email phone, (past ++ [c]).head? = some (written email phone r.createdAt) := by
  obtain ⟨email, phone, hhead⟩ := h.created
  refine ⟨email, phone, ?_⟩
  rw [List.head?_append, hhead]
  rfl

theorem tells_created (subject : RawText) (email : String) (phone : Option String) (now : Moment) :
    Tells subject [written email phone now] (Memory.written none subject email phone now) where
  id_eq := rfl
  created := ⟨email, phone, rfl⟩
  keys := rfl
  updated := rfl
  active := rfl

theorem Tells.written (h : Tells subject past r) (email : String) (phone : Option String)
    (now : Moment) :
    Tells subject (past ++ [.written email phone now])
      (Memory.written (some r) subject email phone now) where
  id_eq := h.id_eq
  created := h.head?_append _
  keys := by
    rw [List.filterMap_append]
    exact List.getLast?_concat
  updated := by
    rw [List.getLast?_concat]
    rfl
  active := by
    rw [List.filterMap_append]
    exact (congrArg List.getLast? (List.append_nil _)).trans h.active

theorem Tells.touched (h : Tells subject past r) (now : Moment) :
    Tells subject (past ++ [.touched now]) (r.touchedAt now) where
  id_eq := h.id_eq
  created := h.head?_append _
  keys := by
    rw [List.filterMap_append]
    exact (congrArg List.getLast? (List.append_nil _)).trans h.keys
  updated := by
    rw [List.getLast?_concat]
    rfl
  active := by
    rw [List.filterMap_append]
    exact List.getLast?_concat

/-- What a life tells about the row of a subject, which is there once the life has begun. -/
def Described (subject : RawText) (life : List RowChange) : Option IdentityRecord → Prop
  | none => life = []
  | some r => Tells subject life r

/-- **One change.** It goes on with the life of the row as it goes on with the row. -/
theorem Described.apply {row : Option IdentityRecord} (h : Described subject (life changes) row)
    (c : RowChange) :
    Described subject (life (changes ++ [c])) (c.apply subject row) := by
  cases c with
  | deleted => exact life_deleted changes
  | written email phone now =>
    rw [life_written]
    cases row with
    | none =>
      -- no row is there, so no life had begun
      have hnil : life changes = [] := h
      rw [hnil]
      exact tells_created subject email phone now
    | some r => exact Tells.written h email phone now
  | touched now =>
    rw [life_touched]
    cases row with
    | none =>
      -- a touch that finds no row leaves none
      have hnil : life changes = [] := h
      rw [if_pos hnil]
      rfl
    | some r =>
      rw [if_neg (Tells.ne_nil h)]
      exact Tells.touched h now

end RowChange

/-! ## §3 The order of times -/

/-- A reading of the clock is not after another one. -/
def Moment.NotAfter (a b : Moment) : Prop := a.isAfter? b = some false

theorem Moment.notAfter_refl (a : Moment) : a.NotAfter a := by
  rw [NotAfter, isAfter?, if_pos rfl, decide_eq_false (Int.lt_irrefl a.instant)]

namespace RowChange

variable {subject : RawText} {past : List RowChange} {r : IdentityRecord}

/-- **Times.** When the clock does not run back during the life of a row, the row was not changed
before it was created, and its last activity lies between the two. -/
theorem Tells.in_order (h : Tells subject past r)
    (hclock : (past.filterMap reading?).Pairwise Moment.NotAfter) :
    r.createdAt.NotAfter r.updatedAt ∧
      ∀ a, r.lastActiveAt = some a → r.createdAt.NotAfter a ∧ a.NotAfter r.updatedAt := by
  -- the row was created at the first reading, and changed at the last one
  have hfirst : ∀ a ∈ past.filterMap reading?, r.createdAt.NotAfter a := by
    obtain ⟨email, phone, hhead⟩ := h.created
    obtain ⟨rest, rfl⟩ := List.head?_eq_some_iff.mp hhead
    intro a ha
    rcases List.mem_cons.mp ha with rfl | ha
    · exact Moment.notAfter_refl r.createdAt
    · exact (List.pairwise_cons.mp hclock).1 a ha
  have hlast : r.updatedAt ∈ past.filterMap reading? ∧
      ∀ a ∈ past.filterMap reading?, a.NotAfter r.updatedAt := by
    obtain ⟨c, hc, hreading⟩ := Option.bind_eq_some_iff.mp h.updated
    obtain ⟨earlier, rfl⟩ := List.getLast?_eq_some_iff.mp hc
    have hsplit : (earlier ++ [c]).filterMap reading? =
        earlier.filterMap reading? ++ [r.updatedAt] := by
      rw [List.filterMap_append, List.filterMap_cons_some hreading, List.filterMap_nil]
    rw [hsplit] at hclock ⊢
    refine ⟨List.mem_concat_self, fun a ha => ?_⟩
    rcases List.mem_append.mp ha with ha | ha
    · exact (List.pairwise_append.mp hclock).2.2 a ha _ (List.mem_singleton_self _)
    · rw [List.mem_singleton.mp ha]
      exact Moment.notAfter_refl r.updatedAt
  refine ⟨hfirst _ hlast.1, fun a ha => ?_⟩
  -- the last activity is one of the readings between them
  have hreading : a ∈ past.filterMap reading? := by
    rw [← h.active] at ha
    obtain ⟨c, hc, htouched⟩ := List.mem_filterMap.mp (List.mem_of_getLast? ha)
    cases c with
    | touched now => exact List.mem_filterMap.mpr ⟨.touched now, hc, htouched⟩
    | _ => exact absurd htouched (by simp [touched?])
  exact ⟨hfirst a hreading, hlast.2 a hreading⟩

end RowChange

/-! ## §4 Calls of the store -/

/-- The reading of the clock that a call takes. -/
def Store.Call.reading? : Store.Call → Option Moment
  | .upsert _ _ _ now => some now
  | .touch _ now => some now
  | _ => none

namespace Store.Answered

/-- The reading of a change is that of its call. -/
theorem reading?_change? (subject : RawText) (a : Answered) :
    (a.change? subject).bind RowChange.reading? = none ∨
      (a.change? subject).bind RowChange.reading? = a.1.reading? := by
  obtain ⟨call, answer⟩ := a
  cases call with
  | upsert s email phone now =>
    cases answer with
    | error f => exact .inl rfl
    | ok answer =>
      simp only [change?]
      split
      · exact .inr rfl
      · exact .inl rfl
  | findById s => exact .inl rfl
  | findByEmail email => exact .inl rfl
  | touch s now =>
    cases answer with
    | error f => exact .inl rfl
    | ok answer =>
      simp only [change?]
      split
      · exact .inr rfl
      · exact .inl rfl
  | delete s =>
    cases answer with
    | error f => exact .inl rfl
    | ok answer =>
      simp only [change?]
      split <;> exact .inl rfl

theorem filterMap_sublist {α β : Type} {f g : α → Option β}
    (h : ∀ a, f a = none ∨ f a = g a) (l : List α) :
    (l.filterMap f).Sublist (l.filterMap g) := by
  induction l with
  | nil => exact .slnil
  | cons a l ih =>
    rcases h a with hnone | hsame
    · rw [List.filterMap_cons_none hnone]
      exact ih.trans ((List.sublist_cons_self a l).filterMap g)
    · cases hg : g a with
      | none =>
        rw [List.filterMap_cons_none (hsame.trans hg), List.filterMap_cons_none hg]
        exact ih
      | some b =>
        rw [List.filterMap_cons_some (hsame.trans hg), List.filterMap_cons_some hg]
        exact ih.cons_cons b

/-- The readings of the changes are among those of the calls, in the same order. -/
theorem readings_sublist (subject : RawText) (made : List Answered) :
    ((made.filterMap (change? subject)).filterMap RowChange.reading?).Sublist
      ((made.map (·.1)).filterMap Store.Call.reading?) := by
  rw [List.filterMap_filterMap, List.filterMap_map]
  exact filterMap_sublist (reading?_change? subject) made

end Store.Answered

namespace Memory

variable {m : Memory} {past : List RowChange} {subject : RawText}

/-- **One call.** With its answer it tells what becomes of the row of a subject. -/
theorem described_after
    (h : RowChange.Described subject (RowChange.life past) (m.records.get? subject))
    (call : Store.Call) :
    RowChange.Described subject
      (RowChange.life
        (past ++ (Answered.change? subject (call, (store.perform call m).1)).toList))
      ((store.after m call).records.get? subject) := by
  rw [get?_after]
  cases Answered.change? subject (call, (store.perform call m).1) with
  | none =>
    rw [Option.toList_none, List.append_nil]
    exact h
  | some c => exact h.apply c

/-- **Sequences of calls.** With their answers they tell what becomes of the row of a subject. -/
theorem described_run
    (h : RowChange.Described subject (RowChange.life past) (m.records.get? subject))
    (calls : List Store.Call) :
    RowChange.Described subject
      (RowChange.life (past ++ (store.trace m calls).filterMap (Answered.change? subject)))
      ((store.run m calls).records.get? subject) := by
  -- the changes of the calls made so far are past when the next call is made
  induction calls generalizing m past with
  | nil =>
    rw [Store.trace, List.filterMap_nil, List.append_nil]
    exact h
  | cons call calls ih =>
    have hrest := ih (described_after h call)
    have hchanges : (store.trace m (call :: calls)).filterMap (Answered.change? subject) =
        (Answered.change? subject (call, (store.perform call m).1)).toList ++
          (store.trace (store.after m call) calls).filterMap (Answered.change? subject) := by
      rw [Store.trace, List.filterMap_cons]
      cases Answered.change? subject (call, (store.perform call m).1) <;> rfl
    rw [hchanges, ← List.append_assoc]
    exact hrest

end Memory

/-! ## §5 Calls of a synchronizer -/

namespace Synchronizer

variable {σ : Type} {s : Synchronizer}

/-- What an answered call changes about the row of a subject: a write leaves email and phone
number in normal form.  A call that failed, and one about another subject, changes nothing. -/
def change? (subject : RawText) : Call × Outcome Answer → Option RowChange
  | (.createOrUpdate s email phone clock, .ok _) =>
      if s = subject then
        some (.written ((email.map normalizeEmail).getD "") (phone.bind normalizePhone) clock)
      else none
  | (.syncPrincipal p clock, .ok _) =>
      if p.subject = subject then
        some (.written (((p.email.map (·.shown)).map normalizeEmail).getD "")
          ((p.phone.map (·.shown)).bind normalizePhone) clock)
      else none
  | (.touch s clock, .ok _) => if s = subject then some (.touched clock) else none
  | (.delete s, .ok _) => if s = subject then some .deleted else none
  | _ => none

/-- The write of accepted input takes its normal form. -/
theorem write?_eq {subject : RawText} {email phone : Option String} {clock : Moment}
    {c : Store.Call} (h : s.write? subject email phone clock = some c) :
    c = .upsert subject ((email.map normalizeEmail).getD "") (phone.bind normalizePhone) clock := by
  by_cases hadmits : s.Admits email phone
  · rw [write?, accept_of_admits hadmits] at h
    exact (Option.some.inj h).symm
  · rw [write?, accept_of_not_admits hadmits] at h
    exact absurd h (by simp)

/-- A call that asks for a call of the store changes what that call changes. -/
theorem change?_of_asks {call : Call} {c : Store.Call} (h : s.asks call = some c)
    (subject : RawText) (answer : Outcome Answer) :
    change? subject (call, answer) = Answered.change? subject (c, answer) := by
  cases call with
  | createOrUpdate subject' email phone clock =>
    obtain rfl := write?_eq h
    cases answer <;> rfl
  | syncPrincipal p clock =>
    simp only [asks] at h
    split at h
    · exact absurd h (by simp)
    · rename_i email hemail
      split at h
      · exact absurd h (by simp)
      · obtain rfl := write?_eq h
        cases answer with
        | error f => rfl
        | ok a => simp only [change?, Answered.change?, hemail, Option.map_some]
  | findById subject' =>
    obtain rfl := Option.some.inj h
    rfl
  | findByEmail email =>
    simp only [asks] at h
    split at h
    · exact absurd h (by simp)
    · split at h
      · exact absurd h (by simp)
      · obtain rfl := Option.some.inj h
        rfl
  | touch subject' clock =>
    obtain rfl := Option.some.inj h
    cases answer <;> rfl
  | delete subject' =>
    obtain rfl := Option.some.inj h
    cases answer <;> rfl

/-- Every other call changes nothing. -/
theorem change?_of_not_asks {call : Call} (h : s.asks call = none) (store : Store σ)
    (state : σ) (subject : RawText) :
    change? subject (call, (s.perform store call state).1) = none := by
  cases call with
  | createOrUpdate subject' email phone clock =>
    obtain ⟨f, hrefused⟩ := refused_of_write? h
    rw [perform, Store.answering, hrefused]
    rfl
  | syncPrincipal p clock =>
    -- the principal has no email, or its email or phone number is refused
    obtain ⟨f, hrefused⟩ : ∃ f, s.syncPrincipal store clock p state = (.error f, state) := by
      unfold syncPrincipal
      cases hemail : p.email with
      | none => exact ⟨_, rfl⟩
      | some email =>
        by_cases hempty : email.isEmpty = true
        · exact ⟨_, if_pos hempty⟩
        · simp only [asks, hemail, if_neg hempty] at h
          obtain ⟨f, hrefused⟩ := refused_of_write? h
          exact ⟨f, (if_neg hempty).trans (hrefused store state)⟩
    rw [perform, Store.answering, hrefused]
    rfl
  | findById subject' => rfl
  | findByEmail email => rfl
  | touch subject' clock => exact absurd h (by simp [asks])
  | delete subject' => exact absurd h (by simp [asks])

/-- The changes of a sequence of calls are those of the calls of the store that they ask for. -/
theorem changes_run (s : Synchronizer) (store : Store σ) (calls : List Call) (state : σ)
    (subject : RawText) :
    (calls.zip (s.run store calls state).1).filterMap (change? subject) =
      (store.trace state (calls.filterMap s.asks)).filterMap (Answered.change? subject) := by
  induction calls generalizing state with
  | nil => rfl
  | cons call calls ih =>
    rw [run]
    cases hasks : s.asks call with
    | none =>
      obtain ⟨answer, hperform⟩ := perform_of_not_asks hasks
      have hnone := change?_of_not_asks hasks store state subject
      rw [hperform] at hnone ⊢
      rw [List.filterMap_cons_none hasks, List.zip_cons_cons, List.filterMap_cons_none hnone]
      exact ih state
    | some c =>
      rw [perform_of_asks store state hasks, List.filterMap_cons_some hasks, Store.trace,
        List.zip_cons_cons, List.filterMap_cons, List.filterMap_cons,
        change?_of_asks hasks subject, Store.perform_state, ih]

/-- **A row is determined by its history.** Over the memory store, the calls of a synchronizer and
their answers tell the life of the row of a subject: all successful writes and touches since the
last removal, from the first write on.  There is a row once its life has begun.  It was created at
the reading of the first write; its email and its phone number are those of the last write, in
normal form; it was last changed at the reading of the last write or touch, and last active at
that of the last touch, if there was any.  Calls that were refused have no part in this.  When no
reading of the clock is after a later one, the creation is not after the last change, and the last
activity lies between the two. -/
theorem row_of_history (s : Synchronizer) (calls : List Call) (subject : RawText) :
    let done := s.run Memory.store calls Memory.empty
    let life := RowChange.life ((calls.zip done.1).filterMap (change? subject))
    (done.2.records.get? subject = none ↔ life = []) ∧
    ∀ r, done.2.records.get? subject = some r →
      r.id = subject ∧
      (∃ email phone, life.head? = some (.written email phone r.createdAt)) ∧
      (life.filterMap (·.written?)).getLast? = some (r.email, r.phone) ∧
      life.getLast?.bind (·.reading?) = some r.updatedAt ∧
      (life.filterMap (·.touched?)).getLast? = r.lastActiveAt ∧
      (((calls.filterMap s.asks).filterMap (·.reading?)).Pairwise Moment.NotAfter →
        r.createdAt.NotAfter r.updatedAt ∧
        ∀ a, r.lastActiveAt = some a → r.createdAt.NotAfter a ∧ a.NotAfter r.updatedAt) := by
  intro done life
  have hchanges := s.changes_run Memory.store calls Memory.empty subject
  -- what the calls of the store tell, the calls of the synchronizer tell
  have hlife : RowChange.Described subject life (done.2.records.get? subject) := by
    have hstart : RowChange.Described subject (RowChange.life [])
        (Memory.empty.records.get? subject) := rfl
    have hrun := Memory.described_run hstart (calls.filterMap s.asks)
    rwa [List.nil_append, ← hchanges, ← run_state] at hrun
  cases hrow : done.2.records.get? subject with
  | none =>
    rw [hrow] at hlife
    exact ⟨⟨fun _ => hlife, fun _ => rfl⟩, fun r hr => absurd hr (by simp)⟩
  | some r =>
    rw [hrow] at hlife
    have htells : RowChange.Tells subject life r := hlife
    refine ⟨⟨fun h => absurd h (by simp), fun h => absurd h htells.ne_nil⟩, ?_⟩
    rintro r' hr'
    obtain rfl := Option.some.inj hr'
    refine ⟨htells.id_eq, htells.created, htells.keys, htells.updated, htells.active, ?_⟩
    intro hclock
    -- the readings of a life are among those of all calls
    have hreadings := Answered.readings_sublist subject
      (Memory.store.trace Memory.empty (calls.filterMap s.asks))
    rw [Store.map_trace, ← hchanges] at hreadings
    have hsublist := ((RowChange.life_sublist _).filterMap RowChange.reading?).trans hreadings
    exact htells.in_order (hclock.sublist hsublist)

end Synchronizer

end IdentityService
