import IdentityService.Proofs.Directory.Admission

/-!
# The Memory Store as a Plain Table

The memory store answers from its indexes.  A plain store that keeps the rows alone, and goes
through all of them for every question, gives the same answers: under a synchronizer the two
cannot be told apart.  Their states are related by forgetting the indexes, and each call keeps
this relation.

## Main definitions

- `Rows.store`: the plain store.

## Main statements

- `Index.heldByOther_eq_anyOther`: a look-up in an index is a search through the rows.
- `Synchronizer.InOrder.perform_eq`: one call, answered alike.
- `Synchronizer.memory_refines_rows`: every sequence of calls, answered alike.
-/

namespace IdentityService

/-! ## §1 The plain store -/

/-- Rows by subject, and nothing else. -/
abbrev Rows := Assoc IdentityRecord RawText

namespace Rows

/-- Whether the row of some other subject has a property. -/
def anyOther (rows : Rows) (subject : RawText) (p : IdentityRecord → Bool) : Bool :=
  rows.any fun f => f.1 != subject && p f.2

/-- The field on which a write conflicts: the email when another subject has it, and otherwise
the phone number when there is one and another subject has it. -/
def conflict? (rows : Rows) (subject : RawText) (email : String) (phone : Option String) :
    Option UniqueField :=
  if anyOther rows subject (·.email == email) then some .email
  else if phone.isSome && anyOther rows subject (·.phone == phone) then some .phone
  else none

/-- Inserts the row of a new subject, or replaces email, phone number and time of change of a
present one. -/
def upsert (rows : Rows) (subject : RawText) (email : String) (phone : Option String)
    (now : Moment) : Outcome SyncResult × Rows :=
  match conflict? rows subject email phone with
  | some field => (.error (.service (.identityConflict field.label)), rows)
  | none =>
      match rows.get? subject with
      | none =>
          let record := ⟨subject, email, phone, now, now, none⟩
          (.ok ⟨record, true⟩, rows.set subject record)
      | some r =>
          let record := { r with email := email, phone := phone, updatedAt := now }
          (.ok ⟨record, false⟩, rows.set subject record)

/-- The first row with an email. -/
def findByEmail (rows : Rows) (email : String) : Option IdentityRecord :=
  (rows.find? (·.2.email == email)).map (·.2)

/-- The operations on rows alone. -/
def store : Store Rows where
  upsert subject email phone now rows := upsert rows subject email phone now
  findById subject rows := (.ok (rows.get? subject), rows)
  findByEmail email rows := (.ok (findByEmail rows email), rows)
  touch subject now rows :=
    match rows.get? subject with
    | none => (.ok 0, rows)
    | some r => (.ok 1, rows.set subject { r with lastActiveAt := some now, updatedAt := now })
  delete subject rows :=
    match rows.get? subject with
    | none => (.ok 0, rows)
    | some _ => (.ok 1, rows.erase subject)

variable {rows : Rows}

theorem anyOther_eq_true_iff (h : rows.keys.Nodup) {subject : RawText}
    {p : IdentityRecord → Bool} :
    anyOther rows subject p = true ↔
      ∃ other r, rows.get? other = some r ∧ other ≠ subject ∧ p r = true := by
  simp only [anyOther, List.any_eq_true, Bool.and_eq_true, bne_iff_ne]
  constructor
  · rintro ⟨⟨other, r⟩, hmem, hne, hp⟩
    exact ⟨other, r, (Assoc.mem_iff_get? h).mp hmem, hne, hp⟩
  · rintro ⟨other, r, hr, hne, hp⟩
    exact ⟨(other, r), (Assoc.mem_iff_get? h).mpr hr, hne, hp⟩

theorem findByEmail_eq_some (h : rows.keys.Nodup) {email : String} {r : IdentityRecord}
    (hfound : findByEmail rows email = some r) :
    ∃ subject, rows.get? subject = some r ∧ r.email = email := by
  unfold findByEmail at hfound
  obtain ⟨⟨subject, r'⟩, hfind, rfl⟩ := Option.map_eq_some_iff.mp hfound
  have hemail : r'.email = email := by simpa using List.find?_some hfind
  exact ⟨subject, (Assoc.mem_iff_get? h).mp (List.mem_of_find?_eq_some hfind), hemail⟩

theorem findByEmail_eq_none (h : rows.keys.Nodup) {email : String}
    (hnone : findByEmail rows email = none) {subject : RawText} {r : IdentityRecord}
    (hr : rows.get? subject = some r) : r.email ≠ email := by
  unfold findByEmail at hnone
  rw [Option.map_eq_none_iff, List.find?_eq_none] at hnone
  have hpassed := hnone (subject, r) ((Assoc.mem_iff_get? h).mpr hr)
  simpa using hpassed

end Rows

/-! ## §2 Look-ups are searches -/

/-- **An index.** A look-up of the owner of a key is a search through the rows of all others. -/
theorem Index.heldByOther_eq_anyOther {index : Assoc RawText}
    {records : Assoc IdentityRecord RawText} {key : IdentityRecord → Option String}
    (h : Index index records key) (hnodup : records.keys.Nodup) (subject : RawText) (k : String) :
    Memory.heldByOther index k subject = Rows.anyOther records subject (key · == some k) := by
  rw [Bool.eq_iff_iff, Rows.anyOther_eq_true_iff hnodup]
  unfold Memory.heldByOther
  constructor
  · intro hheld
    cases howner : index.get? k with
    | none => exact absurd hheld (by simp [howner])
    | some owner =>
      rw [howner] at hheld
      obtain ⟨r, hr, hk⟩ := (h k owner).mp howner
      exact ⟨owner, r, hr, by simpa using hheld, by simpa using hk⟩
  · rintro ⟨other, r, hr, hne, hk⟩
    rw [(h k other).mpr ⟨r, hr, by simpa using hk⟩]
    simpa using hne

/-- When a row goes, no other row has its key. -/
theorem Index.get?_erased {index left : Assoc RawText} {records : Assoc IdentityRecord RawText}
    {key : IdentityRecord → Option String} (h : Index index records key) {subject : RawText}
    {k : String} (hleft : Index left (records.erase subject) key) {r : IdentityRecord}
    (hr : records.get? subject = some r) (hk : key r = some k) : left.get? k = none := by
  cases howner : left.get? k with
  | none => rfl
  | some owner =>
    -- another owner would share the key with the row that goes
    obtain ⟨r', hr', hk'⟩ := (hleft k owner).mp howner
    rw [Assoc.get?_erase] at hr'
    split at hr'
    · exact absurd hr' (by simp)
    · rename_i hne
      exact absurd (h.subject_unique hr hr' hk hk') hne

theorem Rows.anyOther_congr {rows : Rows} (h : rows.keys.Nodup) {subject : RawText}
    {p q : IdentityRecord → Bool}
    (hpq : ∀ other r, rows.get? other = some r → p r = q r) :
    anyOther rows subject p = anyOther rows subject q := by
  rw [Bool.eq_iff_iff, anyOther_eq_true_iff h, anyOther_eq_true_iff h]
  refine exists_congr fun other => exists_congr fun r => and_congr_right fun hr => ?_
  rw [hpq other r hr]

namespace Synchronizer

open Store (Answer)

/-! ## §3 The states and calls of a synchronizer -/

/-- Where a call writes, it names a subject. -/
def Call.NamesSubject : Call → Prop
  | .createOrUpdate subject _ _ _ => subject ≠ ""
  | .syncPrincipal p _ => p.subject ≠ ""
  | _ => True

/-- The calls of the store that a synchronizer makes: it writes for named subjects and in normal
form, and it searches for normal forms. -/
def Makes (s : Synchronizer) : Store.Call → Prop
  | .upsert subject email phone _ => subject ≠ "" ∧ s.IsStored email phone
  | .findByEmail email => normalizeEmail email = email
  | _ => True

/-- A state that a synchronizer leaves: rows and indexes are in step, and the rows are those of
named subjects, in normal form. -/
structure InOrder (s : Synchronizer) (m : Memory) : Prop where
  consistent : m.Consistent
  stored : m.Holds fun subject email phone => subject ≠ "" ∧ s.IsStored email phone

variable {s : Synchronizer} {m : Memory} {call : Call} {c : Store.Call}

theorem makes_of_asks (hsubject : call.NamesSubject) (h : s.asks call = some c) : s.Makes c := by
  rcases asks_cases h with ⟨subject, email, phone, clock, hwrite, hcall⟩ | ⟨email, rfl⟩ |
    ⟨subject, rfl⟩ | ⟨subject, clock, rfl⟩ | ⟨subject, rfl⟩
  · have hne : subject ≠ "" := by
      rcases hcall with rfl | ⟨p, rfl, rfl⟩
      · exact hsubject
      · exact hsubject
    obtain ⟨e, p, rfl, hstored⟩ := write?_eq_some hwrite
    exact ⟨hne, hstored⟩
  · exact normalizeEmail_normalizeEmail email
  all_goals trivial

theorem inOrder_empty : s.InOrder Memory.empty :=
  ⟨Memory.consistent_empty, Memory.holds_empty⟩

theorem InOrder.after (h : s.InOrder m) (hc : s.Makes c) : s.InOrder (Memory.store.after m c) := by
  refine ⟨h.consistent.after c, h.stored.after ?_⟩
  cases c with
  | upsert subject email phone now => exact hc
  | _ => trivial

theorem InOrder.emailKey_eq (h : s.InOrder m) {subject : RawText} {r : IdentityRecord}
    (hr : m.records.get? subject = some r) : Memory.emailKey r.email = r.email :=
  (h.stored subject r hr).2.email.emailKey_eq

/-! ## §4 One call -/

/-- **Conflicts.** The indexes report the conflicts that a search through the rows finds. -/
theorem InOrder.conflict?_eq (h : s.InOrder m) {subject : RawText} {email : String}
    {phone : Option String} (hemail : Email.IsNormal email) :
    m.conflict? subject email phone = Rows.conflict? m.records subject email phone := by
  have hnodup := h.consistent.records_nodup
  have hheld : Memory.heldByOther m.byEmail (Memory.emailKey email) subject =
      Rows.anyOther m.records subject (·.email == email) := by
    -- stored emails are their own keys
    rw [h.consistent.email.heldByOther_eq_anyOther hnodup, hemail.emailKey_eq]
    apply Rows.anyOther_congr hnodup
    intro other r hr
    rw [Memory.emailKey?, h.emailKey_eq hr]
    rfl
  unfold Memory.conflict? Rows.conflict?
  rw [hheld]
  cases phone with
  | none => rfl
  | some p =>
    simp only [h.consistent.phone.heldByOther_eq_anyOther hnodup]
    rfl

/-- **Writing.** The write of the memory store is the write of the plain store, once the indexes
are forgotten. -/
theorem InOrder.upsert_eq (h : s.InOrder m) {subject : RawText} {email : String}
    {phone : Option String} (hemail : Email.IsNormal email) (now : Moment) :
    Rows.upsert m.records subject email phone now =
      ((Memory.store.upsert subject email phone now m).1,
        (Memory.store.upsert subject email phone now m).2.records) := by
  simp only [Rows.upsert, Memory.store, Memory.upsert?, ← h.conflict?_eq hemail]
  cases m.conflict? subject email phone with
  | some field => rfl
  | none =>
    -- clearing the old keys leaves the rows alone
    have hrecords := Memory.records_cleared m subject
    simp only [Memory.enter, hrecords]
    cases m.records.get? subject with
    | none => rfl
    | some r => rfl

/-- **Searching.** A look-up in the email index finds what a search through the rows finds: the
one row that has the email. -/
theorem InOrder.findByEmail_eq (h : s.InOrder m) {email : String}
    (hemail : normalizeEmail email = email) :
    m.findByEmail email = Rows.findByEmail m.records email := by
  have hnodup := h.consistent.records_nodup
  have hkey : Memory.emailKey (Text.strip email) = email := by
    rw [← hemail, strip_normalizeEmail, Memory.emailKey, lower_normalizeEmail]
  -- the index holds exactly the rows with the email
  have hindex : ∀ subject, m.byEmail.get? email = some subject ↔
      ∃ r, m.records.get? subject = some r ∧ r.email = email := by
    intro subject
    rw [h.consistent.email email subject]
    refine exists_congr fun r => and_congr_right fun hr => ?_
    rw [Memory.emailKey?, Option.some.injEq, h.emailKey_eq hr]
  unfold Memory.findByEmail
  rw [hkey]
  cases hfound : Rows.findByEmail m.records email with
  | none =>
    cases howner : m.byEmail.get? email with
    | none => rfl
    | some subject =>
      obtain ⟨r, hr, hr_email⟩ := (hindex subject).mp howner
      exact absurd hr_email (Rows.findByEmail_eq_none hnodup hfound hr)
  | some r =>
    obtain ⟨subject, hr, hr_email⟩ := Rows.findByEmail_eq_some hnodup hfound
    -- the memory store takes an empty subject for no subject at all
    have hne : subject.isEmpty = false := by
      rw [RawText.isEmpty_eq_false_iff]
      exact (h.stored subject r hr).1
    rw [(hindex subject).mpr ⟨r, hr, hr_email⟩]
    show (if subject.isEmpty = true then none else m.records.get? subject) = some r
    rw [hne, hr]
    rfl

/-- **One call.** The two stores give the same answer, and leave the same rows. -/
theorem InOrder.perform_eq (h : s.InOrder m) (hc : s.Makes c) :
    Rows.store.perform c m.records =
      ((Memory.store.perform c m).1, (Memory.store.perform c m).2.records) := by
  cases c with
  | upsert subject email phone now =>
    simp only [Store.perform, Store.answering]
    show (_ <$> (Rows.upsert m.records subject email phone now).1,
      (Rows.upsert m.records subject email phone now).2) = _
    rw [h.upsert_eq hc.2.email now]
  | findById subject => rfl
  | findByEmail email =>
    show (Except.ok (Answer.found (Rows.findByEmail m.records email)), m.records) = _
    rw [← h.findByEmail_eq hc]
    rfl
  | touch subject now =>
    simp only [Store.perform, Store.answering, Rows.store, Memory.store, Memory.touch]
    cases m.records.get? subject <;> rfl
  | delete subject =>
    simp only [Store.perform, Store.answering, Rows.store, Memory.store, Memory.delete]
    cases m.records.get? subject <;> rfl

/-! ## §5 Sequences of calls -/

/-- **Sequences of calls.** From related states on, the two stores give the same answers and
leave the same rows. -/
theorem InOrder.run_eq (h : s.InOrder m) {calls : List Call}
    (hsubjects : ∀ call ∈ calls, call.NamesSubject) :
    s.InOrder (s.run Memory.store calls m).2 ∧
      s.run Rows.store calls m.records =
        ((s.run Memory.store calls m).1, (s.run Memory.store calls m).2.records) := by
  -- the relation between the states is equality of the rows, and the order of the first state
  -- is what keeps it
  induction calls generalizing m with
  | nil => exact ⟨h, rfl⟩
  | cons call calls ih =>
    have hrest : ∀ call ∈ calls, call.NamesSubject := fun c hc =>
      hsubjects c (List.mem_cons_of_mem call hc)
    cases hasks : s.asks call with
    | none =>
      obtain ⟨answer, hperform⟩ := perform_of_not_asks hasks
      obtain ⟨horder, hrun⟩ := ih h hrest
      simp only [run, hperform, hrun, and_true]
      exact horder
    | some c =>
      have hmakes := makes_of_asks (hsubjects call (List.mem_cons_self ..)) hasks
      obtain ⟨horder, hrun⟩ := ih (h.after hmakes) hrest
      rw [← Store.perform_state] at horder hrun
      simp only [run, perform_of_asks _ _ hasks, h.perform_eq hmakes, hrun, and_true]
      exact horder

/-! ## §6 Conflicts, deletions and repeated writes -/

variable {subject : RawText} {email phone : Option String} {clock : Moment} {r : IdentityRecord}

theorem createOrUpdate_eq_ok_iff {e : String} {p : Option String}
    (haccept : s.accept email phone = .ok (e, p)) {result : SyncResult} {m' : Memory} :
    s.createOrUpdate Memory.store clock subject email phone m = (.ok result, m') ↔
      m.upsert? subject e p clock = .ok (result, m') := by
  simp only [createOrUpdate, haccept, Memory.store]
  cases m.upsert? subject e p clock <;> simp [Prod.ext_iff]

theorem exists_accept_of_createOrUpdate {result : SyncResult} {m' : Memory}
    (h : s.createOrUpdate Memory.store clock subject email phone m = (.ok result, m')) :
    ∃ e p, s.accept email phone = .ok (e, p) := by
  cases haccept : s.accept email phone with
  | ok values => exact ⟨values.1, values.2, rfl⟩
  | error f => exact absurd h (by simp [createOrUpdate, haccept])

/-- **Failed writes.** They change nothing, in the indexes neither. -/
theorem eq_of_failed_write {f : Fault} {m' : Memory}
    (h : s.createOrUpdate Memory.store clock subject email phone m = (.error f, m')) :
    m' = m := by
  unfold createOrUpdate at h
  split at h
  · exact (Prod.mk.inj h).2.symm
  rename_i e p haccept
  simp only [Memory.store] at h
  split at h
  · exact absurd (Prod.mk.inj h).1 (by simp)
  · exact (Prod.mk.inj h).2.symm

/-- **Searching.** What is found is the one row with the normalized email. -/
theorem InOrder.findByEmail_eq_some_iff (h : s.InOrder m) {email : String} :
    (findByEmail Memory.store (some email) m).1 = .ok (some r) ↔
      ∃ subject, m.records.get? subject = some r ∧ r.email = normalizeEmail email ∧
        ∀ other r', m.records.get? other = some r' → r'.email = normalizeEmail email →
          other = subject := by
  have hnodup := h.consistent.records_nodup
  -- no two rows share an email
  have hunique : ∀ s₁ s₂ r₁ r₂, m.records.get? s₁ = some r₁ → m.records.get? s₂ = some r₂ →
      r₁.email = r₂.email → s₁ = s₂ := by
    intro s₁ s₂ r₁ r₂ h₁ h₂ heq
    apply h.consistent.email.subject_unique h₁ h₂ rfl
    rw [Memory.emailKey?, heq]
  by_cases hempty : normalizeEmail email = ""
  · -- a blank email is not searched for, and no row has one
    have hnone : (findByEmail Memory.store (some email) m).1 = .ok none := by
      simp [findByEmail, hempty]
    rw [hnone]
    constructor
    · intro hfound
      exact absurd hfound (by simp)
    · rintro ⟨subject, hr, hr_email, -⟩
      rw [hempty] at hr_email
      exact absurd hr_email (h.stored subject r hr).2.email.ne_empty
  · have hsearch : (findByEmail Memory.store (some email) m).1 =
        .ok (Rows.findByEmail m.records (normalizeEmail email)) := by
      rw [← h.findByEmail_eq (normalizeEmail_normalizeEmail email)]
      simp [findByEmail, hempty, Memory.store]
    rw [hsearch, Except.ok.injEq]
    constructor
    · intro hfound
      obtain ⟨subject, hr, hr_email⟩ := Rows.findByEmail_eq_some hnodup hfound
      refine ⟨subject, hr, hr_email, fun other r' hr' hr'_email => ?_⟩
      exact hunique other subject r' r hr' hr (hr'_email.trans hr_email.symm)
    · rintro ⟨subject, hr, hr_email, hother⟩
      cases hfound : Rows.findByEmail m.records (normalizeEmail email) with
      | none => exact absurd hr_email (Rows.findByEmail_eq_none hnodup hfound hr)
      | some r' =>
        obtain ⟨other, hr', hr'_email⟩ := Rows.findByEmail_eq_some hnodup hfound
        obtain rfl := hother other r' hr' hr'_email
        rw [← hr', hr]

/-- **Deleting.** The email and the phone number of a deleted row are free for every subject. -/
theorem InOrder.exists_write_after_delete (h : s.InOrder m)
    (hr : m.records.get? subject = some r) (other : RawText) (clock : Moment) :
    ∃ result, (s.createOrUpdate Memory.store clock other (some r.email) r.phone
      (s.perform Memory.store (.delete subject) m).2).1 = .ok result := by
  have hdeleted : (s.perform Memory.store (.delete subject) m).2 = (m.delete subject).2 := rfl
  have hrecords : (m.delete subject).2.records = m.records.erase subject := by
    simp only [Memory.delete, hr]
    rfl
  have hconsistent : (m.delete subject).2.Consistent := h.consistent.delete
  have hemail := hconsistent.email
  have hphone := hconsistent.phone
  rw [hrecords] at hemail hphone
  -- neither index has an owner for the keys of the row any more
  have hfree : (m.delete subject).2.conflict? other r.email r.phone = none := by
    rw [Memory.conflict?_eq_none_iff]
    constructor
    · simp [Memory.heldByOther, h.consistent.email.get?_erased hemail hr rfl]
    · intro p hp
      simp [Memory.heldByOther, h.consistent.phone.get?_erased hphone hr hp]
  have hupsert : ∃ result m', (m.delete subject).2.upsert? other r.email r.phone clock =
      .ok (result, m') := by
    simp only [Memory.upsert?, hfree]
    exact ⟨_, _, rfl⟩
  obtain ⟨result, m', hupsert⟩ := hupsert
  refine ⟨result, ?_⟩
  rw [hdeleted, (createOrUpdate_eq_ok_iff (h.stored subject r hr).2.accept_eq).mpr hupsert]

theorem conflict?_own (h : m.Consistent) (hr : m.records.get? subject = some r) :
    m.conflict? subject r.email r.phone = none := by
  rw [Memory.conflict?_eq_none_iff]
  constructor
  · have howner := (h.email (Memory.emailKey r.email) subject).mpr ⟨r, hr, rfl⟩
    simp [Memory.heldByOther, howner]
  · intro p hp
    have howner := (h.phone p subject).mpr ⟨r, hr, hp⟩
    simp [Memory.heldByOther, howner]

/-- **Repeating.** A write that succeeded is an update the second time, and changes the time of
change alone. -/
theorem repeated_write (h : m.Consistent) {result : SyncResult} {m' : Memory}
    (hwrite : s.createOrUpdate Memory.store clock subject email phone m = (.ok result, m'))
    (clock' : Moment) :
    let record := { result.record with updatedAt := clock' }
    (s.createOrUpdate Memory.store clock' subject email phone m').1 = .ok ⟨record, false⟩ ∧
      (s.createOrUpdate Memory.store clock' subject email phone m').2.records =
        m'.records.set subject record := by
  intro record
  obtain ⟨e, p, haccept⟩ := exists_accept_of_createOrUpdate hwrite
  rw [createOrUpdate_eq_ok_iff haccept] at hwrite
  obtain ⟨hresult, hrecords⟩ := Memory.records_upsert? hwrite
  have hrow : m'.records.get? subject = some result.record := by
    rw [hrecords, Assoc.get?_set, if_pos rfl]
  have hemail : result.record.email = e := by
    rw [hresult, Memory.email_written]
  have hphone : result.record.phone = p := by
    rw [hresult, Memory.phone_written]
  subst hemail hphone
  have hfree := conflict?_own (h.upsert? hwrite) hrow
  have hagain : ∃ m'', m'.upsert? subject result.record.email result.record.phone clock' =
      .ok (⟨record, false⟩, m'') := by
    simp only [Memory.upsert?, hfree, hrow]
    exact ⟨_, rfl⟩
  obtain ⟨m'', hagain⟩ := hagain
  rw [(createOrUpdate_eq_ok_iff haccept).mpr hagain]
  exact ⟨rfl, (Memory.records_upsert? hagain).2⟩

/-! ## §7 The refinement -/

/-- **Refinement.** Under a synchronizer, and whatever emails, phone numbers and readings of the
clock it is called with, the memory store gives the answers of the plain store and holds its rows.
At every point a failed write changes nothing; a search by email finds the one row that has the
normalized email; a deleted row leaves its email and its phone number free; and a repeated write
is an update of the time of change alone. -/
theorem memory_refines_rows (s : Synchronizer) (calls : List Call)
    (hsubjects : ∀ call ∈ calls, call.NamesSubject) :
    let answers := (s.run Memory.store calls Memory.empty).1
    let m := (s.run Memory.store calls Memory.empty).2
    s.run Rows.store calls [] = (answers, m.records) ∧
    (∀ subject email phone clock f m',
      s.createOrUpdate Memory.store clock subject email phone m = (.error f, m') → m' = m) ∧
    (∀ email r, (findByEmail Memory.store (some email) m).1 = .ok (some r) ↔
      ∃ subject, m.records.get? subject = some r ∧ r.email = normalizeEmail email ∧
        ∀ other r', m.records.get? other = some r' → r'.email = normalizeEmail email →
          other = subject) ∧
    (∀ subject r other clock, m.records.get? subject = some r →
      ∃ result, (s.createOrUpdate Memory.store clock other (some r.email) r.phone
        (s.perform Memory.store (.delete subject) m).2).1 = .ok result) ∧
    (∀ subject email phone clock clock' result m',
      s.createOrUpdate Memory.store clock subject email phone m = (.ok result, m') →
      let record := { result.record with updatedAt := clock' }
      (s.createOrUpdate Memory.store clock' subject email phone m').1 = .ok ⟨record, false⟩ ∧
        (s.createOrUpdate Memory.store clock' subject email phone m').2.records =
          m'.records.set subject record) := by
  obtain ⟨horder, hrun⟩ := (inOrder_empty (s := s)).run_eq hsubjects
  refine ⟨hrun, ?_, ?_, ?_, ?_⟩
  · intro subject email phone clock f m' hfailed
    exact eq_of_failed_write hfailed
  · intro email r
    exact horder.findByEmail_eq_some_iff
  · intro subject r other clock hr
    exact horder.exists_write_after_delete hr other clock
  · intro subject email phone clock clock' result m' hwrite
    exact repeated_write horder.consistent hwrite clock'

/-- An email in two spellings: refused to the second subject until the first one is deleted. -/
theorem memory_refines_rows_reused :
    let s : Synchronizer := ⟨.usual⟩
    let clock : Moment := ⟨0, some 0⟩
    let calls : List Call := [
      .createOrUpdate "user-1" (some " A@Example.com ") (some "+1 (415) 555-2671") clock,
      .createOrUpdate "user-2" (some "a@example.com") none clock,
      .delete "user-1",
      .createOrUpdate "user-2" (some "a@example.com") none clock,
      .findByEmail (some "A@EXAMPLE.COM")]
    (∀ call ∈ calls, call.NamesSubject) ∧
      (s.run Memory.store calls Memory.empty).1.map (·.isOk) = [true, false, true, true, true] ∧
      s.run Rows.store calls [] =
        ((s.run Memory.store calls Memory.empty).1,
          (s.run Memory.store calls Memory.empty).2.records) := by
  intro s clock calls
  have hsubjects : ∀ call ∈ calls, call.NamesSubject := by
    simp [calls, Call.NamesSubject]
  exact ⟨hsubjects, by decide +kernel, (memory_refines_rows s calls hsubjects).1⟩

end Synchronizer

end IdentityService
