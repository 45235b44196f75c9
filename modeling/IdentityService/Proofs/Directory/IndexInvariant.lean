import IdentityService.Directory.Memory
import Mathlib.Data.List.Nodup

/-!
# The Indexes of the Memory Store

A write withdraws the old row of a subject from the indexes before it enters the new one.
In between, the indexes leave out this one subject: that is what each half of a write keeps,
and what makes the halves fit.

## Main statements

- `Index.drop`, `IndexWithout.put`: withdrawing a row leaves its subject out, and entering one
  takes it in again.
- `Memory.Consistent.after`: every call keeps rows and indexes in step.
- `Memory.indexes_agree`: rows and indexes are in step after every sequence of calls.
-/

namespace IdentityService

/-! ## §1 Calls of a store -/

namespace Store

/-- A call of an operation of a store. -/
inductive Call
  | upsert (subject : RawText) (email : String) (phone : Option String) (now : Moment)
  | findById (subject : RawText)
  | findByEmail (email : String)
  | touch (subject : RawText) (now : Moment)
  | delete (subject : RawText)

variable {σ : Type}

/-- The state that a call leaves, whether or not it succeeds. -/
def after (store : Store σ) (state : σ) : Call → σ
  | .upsert subject email phone now => (store.upsert subject email phone now state).2
  | .findById subject => (store.findById subject state).2
  | .findByEmail email => (store.findByEmail email state).2
  | .touch subject now => (store.touch subject now state).2
  | .delete subject => (store.delete subject state).2

/-- The state that a sequence of calls leaves. -/
def run (store : Store σ) (state : σ) (calls : List Call) : σ := calls.foldl store.after state

/-- What every call of a kind keeps, every sequence of such calls keeps. -/
theorem run_induction {store : Store σ} {P : σ → Prop} {Q : Call → Prop}
    (hstep : ∀ state call, Q call → P state → P (store.after state call)) {state : σ}
    (h : P state) {calls : List Call} (hcalls : ∀ call ∈ calls, Q call) :
    P (store.run state calls) := by
  induction calls generalizing state with
  | nil => exact h
  | cons call calls ih =>
    apply ih (hstep state call (hcalls call (List.mem_cons_self ..)) h)
    intro c hc
    exact hcalls c (List.mem_cons_of_mem call hc)

end Store

/-! ## §2 One index -/

section Index

variable {index : Assoc RawText} {records : Assoc IdentityRecord RawText}
  {key : IdentityRecord → Option String} {subject : RawText} {r : IdentityRecord}

/-- An index holds exactly the keys of the rows, each with the subject of its row. -/
def Index (index : Assoc RawText) (records : Assoc IdentityRecord RawText)
    (key : IdentityRecord → Option String) : Prop :=
  ∀ k s, index.get? k = some s ↔ ∃ r, records.get? s = some r ∧ key r = some k

/-- An index holds exactly the keys of the rows of all subjects but one. -/
def IndexWithout (index : Assoc RawText) (records : Assoc IdentityRecord RawText)
    (key : IdentityRecord → Option String) (subject : RawText) : Prop :=
  ∀ k s, index.get? k = some s ↔
    s ≠ subject ∧ ∃ r, records.get? s = some r ∧ key r = some k

/-- Sets a key, if there is one. -/
def putKey (index : Assoc RawText) (key : Option String) (subject : RawText) : Assoc RawText :=
  match key with
  | some k => index.set k subject
  | none => index

/-- Erases a key, if there is one. -/
def dropKey (index : Assoc RawText) (key : Option String) : Assoc RawText :=
  match key with
  | some k => index.erase k
  | none => index

theorem nodup_putKey (k : Option String) (h : index.keys.Nodup) :
    (putKey index k subject).keys.Nodup := by
  cases k with
  | none => exact h
  | some k => exact Assoc.nodup_set k subject h

theorem nodup_dropKey (k : Option String) (h : index.keys.Nodup) :
    (dropKey index k).keys.Nodup := by
  cases k with
  | none => exact h
  | some k => exact Assoc.nodup_erase k h

/-- **Withdrawing.** Without the key of its row, an index leaves a subject out. -/
theorem Index.drop (h : Index index records key) (hr : records.get? subject = some r) :
    IndexWithout (dropKey index (key r)) records key subject := by
  intro k s
  cases hkey : key r with
  | none =>
    rw [dropKey, h k s]
    constructor
    · rintro ⟨r', hr', hk⟩
      refine ⟨?_, r', hr', hk⟩
      rintro rfl
      rw [hr, Option.some.injEq] at hr'
      rw [← hr', hkey] at hk
      exact absurd hk (by simp)
    · rintro ⟨-, hrow⟩
      exact hrow
  | some k₀ =>
    rw [dropKey, Assoc.get?_erase]
    by_cases hk₀ : k₀ = k
    · -- the erased key belongs to no other subject
      subst hk₀
      rw [if_pos rfl]
      refine ⟨fun hnone => absurd hnone (by simp), ?_⟩
      rintro ⟨hs, hrow⟩
      have hother := (h k₀ s).mpr hrow
      rw [(h k₀ subject).mpr ⟨r, hr, hkey⟩, Option.some.injEq] at hother
      exact absurd hother.symm hs
    · rw [if_neg hk₀, h k s]
      constructor
      · rintro ⟨r', hr', hk⟩
        refine ⟨?_, r', hr', hk⟩
        rintro rfl
        rw [hr, Option.some.injEq] at hr'
        rw [← hr', hkey, Option.some.injEq] at hk
        exact hk₀ hk
      · rintro ⟨-, hrow⟩
        exact hrow

/-- An index leaves out a subject that has no row. -/
theorem Index.without_absent (h : Index index records key)
    (hr : records.get? subject = none) : IndexWithout index records key subject := by
  intro k s
  rw [h k s]
  constructor
  · rintro ⟨r', hr', hk⟩
    refine ⟨?_, r', hr', hk⟩
    rintro rfl
    rw [hr] at hr'
    exact absurd hr' (by simp)
  · rintro ⟨-, hrow⟩
    exact hrow

/-- A key that no other subject holds is free once the subject is left out. -/
theorem IndexWithout.get?_eq_none {left : Assoc RawText} {k : String}
    (hleft : IndexWithout left records key subject) (h : Index index records key)
    (hfree : Memory.heldByOther index k subject = false) : left.get? k = none := by
  cases howner : left.get? k with
  | none => rfl
  | some owner =>
    obtain ⟨hne, hrow⟩ := (hleft k owner).mp howner
    rw [Memory.heldByOther, (h k owner).mpr hrow] at hfree
    exact absurd hfree (by simpa using hne)

/-- **Entering.** With the key of a new row, which no other row has, an index that leaves a
subject out holds it again. -/
theorem IndexWithout.put (h : IndexWithout index records key subject)
    (hfree : ∀ k, key r = some k → index.get? k = none) :
    Index (putKey index (key r) subject) (records.set subject r) key := by
  intro k s
  rw [Assoc.get?_set]
  cases hkey : key r with
  | none =>
    rw [putKey, h k s]
    by_cases hs : subject = s
    · simp [hs, hkey]
    · simp [hs, Ne.symm hs]
  | some k₀ =>
    rw [putKey, Assoc.get?_set]
    by_cases hs : subject = s
    · subst hs
      by_cases hk₀ : k₀ = k
      · simp [hk₀, hkey]
      · simp [hk₀, hkey, h k subject]
    · by_cases hk₀ : k₀ = k
      · -- the new key was free, so no other row has it
        subst hk₀
        have hother : ¬ ∃ r', records.get? s = some r' ∧ key r' = some k₀ := by
          intro hrow
          have hheld := (h k₀ s).mpr ⟨Ne.symm hs, hrow⟩
          rw [hfree k₀ hkey] at hheld
          exact absurd hheld (by simp)
        rw [if_pos rfl, if_neg hs, Option.some.injEq]
        exact ⟨fun heq => absurd heq hs, fun hrow => absurd hrow hother⟩
      · simp [hk₀, hs, h k s, Ne.symm hs]

/-- When the row of a subject goes, the index that leaves it out is complete. -/
theorem IndexWithout.erase (h : IndexWithout index records key subject) :
    Index index (records.erase subject) key := by
  intro k s
  rw [h k s, Assoc.get?_erase]
  by_cases hs : subject = s
  · simp [hs]
  · simp [hs, Ne.symm hs]

/-- A row may change in everything but its key. -/
theorem Index.set (h : Index index records key) {r' : IdentityRecord}
    (hr : records.get? subject = some r) (hkey : key r' = key r) :
    Index index (records.set subject r') key := by
  intro k s
  rw [h k s, Assoc.get?_set]
  by_cases hs : subject = s
  · subst hs
    simp [hr, hkey]
  · simp [hs]

/-- No two subjects share a key of an index. -/
theorem Index.subject_unique (h : Index index records key) {s s' : RawText} {k : String}
    {r r' : IdentityRecord} (hr : records.get? s = some r) (hr' : records.get? s' = some r')
    (hk : key r = some k) (hk' : key r' = some k) : s = s' := by
  have hs := (h k s).mpr ⟨r, hr, hk⟩
  rw [(h k s').mpr ⟨r', hr', hk'⟩, Option.some.injEq] at hs
  exact hs.symm

/-- A subject whose row stays keeps its keys. -/
theorem Index.same_owner {index' : Assoc RawText} {records' : Assoc IdentityRecord RawText}
    (h : Index index records key) (h' : Index index' records' key)
    (hrow : records'.get? subject = records.get? subject) (k : String) :
    index'.get? k = some subject ↔ index.get? k = some subject := by
  rw [h k subject, h' k subject, hrow]

end Index

namespace Memory

/-! ## §3 Rows and indexes in step -/

/-- The email key of a row, which every row has. -/
def emailKey? (r : IdentityRecord) : Option String := some (emailKey r.email)

/-- Rows and indexes are in step: no key appears twice, every row stands under its own
identifier, and the indexes hold exactly the keys of the rows. -/
structure Consistent (m : Memory) : Prop where
  records_nodup : m.records.keys.Nodup
  email_nodup : m.byEmail.keys.Nodup
  phone_nodup : m.byPhone.keys.Nodup
  id_eq : ∀ s r, m.records.get? s = some r → r.id = s
  email : Index m.byEmail m.records emailKey?
  phone : Index m.byPhone m.records (·.phone)

/-- The same, but the indexes leave out one subject. -/
structure ConsistentWithout (m : Memory) (subject : RawText) : Prop where
  records_nodup : m.records.keys.Nodup
  email_nodup : m.byEmail.keys.Nodup
  phone_nodup : m.byPhone.keys.Nodup
  id_eq : ∀ s r, m.records.get? s = some r → r.id = s
  email : IndexWithout m.byEmail m.records emailKey? subject
  phone : IndexWithout m.byPhone m.records (·.phone) subject

theorem consistent_empty : Consistent empty where
  records_nodup := List.nodup_nil
  email_nodup := List.nodup_nil
  phone_nodup := List.nodup_nil
  id_eq := by simp [empty, Assoc.get?_nil]
  email := by simp [Index, empty, Assoc.get?_nil]
  phone := by simp [Index, empty, Assoc.get?_nil]

theorem byPhone_enter (m : Memory) (r : IdentityRecord) :
    (m.enter r).byPhone = putKey m.byPhone r.phone r.id := by
  unfold enter putKey
  cases r.phone <;> rfl

theorem byPhone_withdraw (m : Memory) (r : IdentityRecord) :
    (m.withdraw r).byPhone = dropKey m.byPhone r.phone := by
  unfold withdraw dropKey
  cases r.phone <;> rfl

variable {m : Memory} {subject : RawText} {r : IdentityRecord}

theorem Consistent.withdraw (h : Consistent m) (hr : m.records.get? subject = some r) :
    ConsistentWithout (m.withdraw r) subject where
  records_nodup := h.records_nodup
  email_nodup := Assoc.nodup_erase _ h.email_nodup
  phone_nodup := by
    rw [byPhone_withdraw]
    exact nodup_dropKey _ h.phone_nodup
  id_eq := h.id_eq
  email := h.email.drop hr
  phone := by
    rw [byPhone_withdraw]
    exact h.phone.drop hr

theorem Consistent.without_absent (h : Consistent m) (hr : m.records.get? subject = none) :
    ConsistentWithout m subject where
  records_nodup := h.records_nodup
  email_nodup := h.email_nodup
  phone_nodup := h.phone_nodup
  id_eq := h.id_eq
  email := h.email.without_absent hr
  phone := h.phone.without_absent hr

theorem records_cleared (m : Memory) (subject : RawText) :
    (m.cleared subject).records = m.records := by
  unfold Memory.cleared
  cases m.records.get? subject <;> rfl

/-- Clearing a subject leaves it out of the indexes, whether or not it has a row. -/
theorem Consistent.cleared (h : Consistent m) : ConsistentWithout (m.cleared subject) subject := by
  unfold Memory.cleared
  cases hr : m.records.get? subject with
  | none => exact h.without_absent hr
  | some r => exact h.withdraw hr

theorem ConsistentWithout.enter (h : ConsistentWithout m subject) (hid : r.id = subject)
    (hemail : m.byEmail.get? (emailKey r.email) = none)
    (hphone : ∀ p, r.phone = some p → m.byPhone.get? p = none) :
    Consistent ({ m with records := m.records.set subject r }.enter r) where
  records_nodup := Assoc.nodup_set _ _ h.records_nodup
  email_nodup := Assoc.nodup_set _ _ h.email_nodup
  phone_nodup := by
    rw [byPhone_enter]
    exact nodup_putKey _ h.phone_nodup
  id_eq := by
    intro s r' hr'
    change (m.records.set subject r).get? s = some r' at hr'
    rw [Assoc.get?_set] at hr'
    split at hr'
    · rename_i hs
      rw [← Option.some.inj hr', hid, hs]
    · exact h.id_eq s r' hr'
  email := by
    have hfree : ∀ k, emailKey? r = some k → m.byEmail.get? k = none := by
      intro k hk
      rw [← Option.some.inj hk]
      exact hemail
    have hput := h.email.put hfree
    rw [← hid] at hput ⊢
    exact hput
  phone := by
    rw [byPhone_enter, hid]
    exact h.phone.put hphone

theorem ConsistentWithout.erase (h : ConsistentWithout m subject) :
    Consistent { m with records := m.records.erase subject } where
  records_nodup := Assoc.nodup_erase _ h.records_nodup
  email_nodup := h.email_nodup
  phone_nodup := h.phone_nodup
  id_eq := by
    intro s r' hr'
    rw [Assoc.get?_erase] at hr'
    split at hr'
    · exact absurd hr' (by simp)
    · exact h.id_eq s r' hr'
  email := h.email.erase
  phone := h.phone.erase

/-! ## §4 One call -/

theorem conflict?_eq_none_iff {email : String} {phone : Option String} :
    m.conflict? subject email phone = none ↔
      heldByOther m.byEmail (emailKey email) subject = false ∧
        ∀ p, phone = some p → heldByOther m.byPhone p subject = false := by
  unfold conflict?
  cases heldByOther m.byEmail (emailKey email) subject with
  | true => simp
  | false =>
    cases phone with
    | none => simp
    | some p => cases hheld : heldByOther m.byPhone p subject <;> simp [hheld]

theorem id_written (h : Consistent m) (subject : RawText) (email : String) (phone : Option String)
    (now : Moment) :
    (written (m.records.get? subject) subject email phone now).id = subject := by
  cases hr : m.records.get? subject with
  | none => rfl
  | some r => exact h.id_eq subject r hr

theorem email_written (present : Option IdentityRecord) (email : String)
    (phone : Option String) (now : Moment) :
    (written present subject email phone now).email = email := by
  cases present <;> rfl

theorem phone_written (present : Option IdentityRecord) (email : String)
    (phone : Option String) (now : Moment) :
    (written present subject email phone now).phone = phone := by
  cases present <;> rfl

/-- **A write.** It keeps rows and indexes in step: the old keys of the subject are withdrawn,
and the check for conflicts leaves none of the new keys to another subject. -/
theorem Consistent.upsert? (h : Consistent m) {email : String} {phone : Option String}
    {now : Moment} {result : SyncResult} {m' : Memory}
    (hwrite : m.upsert? subject email phone now = .ok (result, m')) : Consistent m' := by
  rw [Memory.upsert?] at hwrite
  split at hwrite
  · exact absurd hwrite (by simp)
  rename_i hconflict
  obtain ⟨hemail, hphone⟩ := conflict?_eq_none_iff.mp hconflict
  simp only [Except.ok.injEq, Prod.mk.injEq] at hwrite
  obtain ⟨-, rfl⟩ := hwrite
  have hid := id_written h subject email phone now
  have hcleared : ConsistentWithout (m.cleared subject) subject := h.cleared
  have hemail_index := h.email
  have hphone_index := h.phone
  rw [← records_cleared m subject] at hemail_index hphone_index
  refine hcleared.enter hid ?_ ?_
  · rw [email_written]
    exact hcleared.email.get?_eq_none hemail_index hemail
  · intro p hp
    rw [phone_written] at hp
    exact hcleared.phone.get?_eq_none hphone_index (hphone p hp)

/-- **A touch.** It changes neither identifier nor keys of a row. -/
theorem Consistent.touch (h : Consistent m) (now : Moment) :
    Consistent (m.touch subject now).2 := by
  rw [Memory.touch]
  cases hr : m.records.get? subject with
  | none => exact h
  | some r =>
    exact {
      records_nodup := Assoc.nodup_set _ _ h.records_nodup
      email_nodup := h.email_nodup
      phone_nodup := h.phone_nodup
      id_eq := by
        intro s r' hr'
        rw [Assoc.get?_set] at hr'
        split at hr'
        · rename_i hs
          rw [← Option.some.inj hr', ← hs]
          exact h.id_eq subject r hr
        · exact h.id_eq s r' hr'
      email := h.email.set hr rfl
      phone := h.phone.set hr rfl }

/-- **A removal.** The row goes, and its keys with it. -/
theorem Consistent.delete (h : Consistent m) : Consistent (m.delete subject).2 := by
  rw [Memory.delete]
  cases hr : m.records.get? subject with
  | none => exact h
  | some r => exact (h.withdraw hr).erase

/-- **One call.** Whatever it asks for and however it ends, it keeps rows and indexes in step. -/
theorem Consistent.after (h : Consistent m) (call : Store.Call) :
    Consistent (store.after m call) := by
  cases call with
  | upsert subject email phone now =>
    change Consistent (store.upsert subject email phone now m).2
    simp only [store]
    split
    · rename_i hwrite
      exact h.upsert? hwrite
    · exact h
  | findById subject => exact h
  | findByEmail email => exact h
  | touch subject now => exact h.touch now
  | delete subject => exact h.delete

/-! ## §5 Sequences of calls -/

/-- Rows and indexes stay in step from the empty store on. -/
theorem consistent_run (calls : List Store.Call) : Consistent (store.run empty calls) :=
  Store.run_induction (Q := fun _ => True) (fun _ call _ h => h.after call) consistent_empty
    fun _ _ => trivial

/-- The subjects of the email index are those of the rows. -/
theorem Consistent.subjects_perm (h : Consistent m) :
    (m.byEmail.map (·.2)).Perm m.records.keys := by
  refine (List.perm_ext_iff_of_nodup ?_ h.records_nodup).mpr ?_
  · -- a subject has one row, so one key, so one entry
    have hentries : m.byEmail.Nodup := List.Nodup.of_map _ h.email_nodup
    refine hentries.map_on ?_
    rintro ⟨k, s⟩ hk ⟨k', s'⟩ hk' hs
    obtain rfl : s = s' := hs
    obtain ⟨r, hr, hkey⟩ := (h.email k s).mp ((Assoc.mem_iff_get? h.email_nodup).mp hk)
    obtain ⟨r', hr', hkey'⟩ := (h.email k' s).mp ((Assoc.mem_iff_get? h.email_nodup).mp hk')
    rw [hr, Option.some.injEq] at hr'
    rw [hr', hkey', Option.some.injEq] at hkey
    rw [hkey]
  · intro s
    rw [List.mem_map, Assoc.mem_keys_iff]
    constructor
    · rintro ⟨⟨k, s'⟩, hk, rfl⟩
      obtain ⟨r, hr, -⟩ := (h.email k s').mp ((Assoc.mem_iff_get? h.email_nodup).mp hk)
      exact ⟨r, hr⟩
    · rintro ⟨r, hr⟩
      have hk := (h.email (emailKey r.email) s).mpr ⟨r, hr, rfl⟩
      exact ⟨(emailKey r.email, s), (Assoc.mem_iff_get? h.email_nodup).mpr hk, rfl⟩

/-- **Rows and indexes.** After any sequence of calls, refused writes among them, no key
appears twice and every row stands under its own identifier; the email index holds exactly the
email keys of the rows and the phone index exactly their phone numbers; so no two rows share
an email, case aside, or a phone number, and there are as many email keys as rows. -/
theorem indexes_agree (calls : List Store.Call) :
    let m := store.run empty calls
    (m.records.keys.Nodup ∧ m.byEmail.keys.Nodup ∧ m.byPhone.keys.Nodup) ∧
    (∀ s r, m.records.get? s = some r → r.id = s) ∧
    (∀ k s, m.byEmail.get? k = some s ↔
      ∃ r, m.records.get? s = some r ∧ emailKey r.email = k) ∧
    (∀ p s, m.byPhone.get? p = some s ↔ ∃ r, m.records.get? s = some r ∧ r.phone = some p) ∧
    (∀ s s' r r', m.records.get? s = some r → m.records.get? s' = some r' →
      emailKey r.email = emailKey r'.email → s = s') ∧
    (∀ s s' r r' p, m.records.get? s = some r → m.records.get? s' = some r' →
      r.phone = some p → r'.phone = some p → s = s') ∧
    m.byEmail.length = m.records.length := by
  intro m
  have h : Consistent m := consistent_run calls
  refine ⟨⟨h.records_nodup, h.email_nodup, h.phone_nodup⟩, h.id_eq, ?_, h.phone, ?_, ?_, ?_⟩
  · intro k s
    rw [h.email k s]
    simp only [emailKey?, Option.some.injEq]
  · intro s s' r r' hr hr' hk
    exact h.email.subject_unique hr hr' rfl (congrArg some hk.symm)
  · intro s s' r r' p hr hr' hp hp'
    exact h.phone.subject_unique hr hr' hp hp'
  · have hlength := h.subjects_perm.length_eq
    rw [List.length_map, Assoc.keys, List.length_map] at hlength
    exact hlength

end Memory

end IdentityService
