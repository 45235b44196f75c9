import IdentityService.Proofs.Directory.Refinement

/-!
# Taken Emails and Found Rows

The email index is asked two questions.  A write asks whether a key belongs to another subject, and
a search asks for the row of the subject to whom it belongs.  Both answers come from the owner of
the key, so a search finds exactly the emails that a new subject could not take.  There is one
exception: a search takes an owner without a name for no owner at all, and the row of such a subject
holds its email without ever being found by it.

## Main definitions

- `Memory.Owns`: the row of a subject has an email.
- `Synchronizer.Kept`: a state that a synchronizer leaves, whatever its subjects are called.

## Main statements

- `Synchronizer.Kept.write_new`: whether a subject without a row can take an email.
- `Synchronizer.Kept.findByEmail_eq_some_iff`: which row a search finds.
- `Synchronizer.found_iff_taken`: the two answers side by side, after every sequence of calls.
-/

namespace IdentityService

/-! ## §1 Owners -/

namespace Memory

/-- The row of a subject has an email. -/
def Owns (m : Memory) (subject : RawText) (email : String) : Prop :=
  ∃ r, m.records.get? subject = some r ∧ r.email = email

variable {m : Memory} {subject : RawText} {email : String}

theorem not_owns_of_absent (h : m.records.get? subject = none) : ¬ m.Owns subject email := by
  rintro ⟨r, hr, -⟩
  rw [h] at hr
  exact absurd hr (by simp)

/-- A write without a phone number conflicts when another subject has the key of its email. -/
theorem conflict?_without_phone :
    m.conflict? subject email none =
      if heldByOther m.byEmail (emailKey email) subject then some .email else none := rfl

end Memory

namespace Synchronizer

/-! ## §2 The states of a synchronizer -/

/-- A state that a synchronizer leaves: rows and indexes are in step, and emails and phone numbers
are in normal form.  A subject may have any name, the empty one included. -/
structure Kept (s : Synchronizer) (m : Memory) : Prop where
  consistent : m.Consistent
  stored : m.Holds fun _ => s.IsStored

theorem kept_run (s : Synchronizer) (calls : List Call) :
    s.Kept (s.run Memory.store calls Memory.empty).2 :=
  ⟨s.consistent_run calls, s.holds_run calls⟩

variable {s : Synchronizer} {m : Memory} {subject owner : RawText} {email : String} {clock : Moment}
  {r : IdentityRecord}

/-- **The email index.** Its keys are the stored emails, each with the subject who owns it. -/
theorem Kept.byEmail_eq_some_iff (h : s.Kept m) :
    m.byEmail.get? email = some owner ↔ m.Owns owner email := by
  rw [h.consistent.email email owner]
  refine exists_congr fun r => and_congr_right fun hr => ?_
  rw [Memory.emailKey?, Option.some.injEq, (h.stored owner r hr).email.emailKey_eq]

/-- No email has two owners. -/
theorem Kept.owner_unique (h : s.Kept m) {other : RawText} (howner : m.Owns owner email)
    (hother : m.Owns other email) : other = owner := by
  have hindex := h.byEmail_eq_some_iff.mpr howner
  rw [h.byEmail_eq_some_iff.mpr hother] at hindex
  exact Option.some.inj hindex

/-! ## §3 Taking an email -/

/-- A subject without a row finds a key held by another exactly when the key has an owner. -/
theorem Kept.heldByOther_iff (h : s.Kept m) (habsent : m.records.get? subject = none) :
    Memory.heldByOther m.byEmail email subject = true ↔ ∃ owner, m.Owns owner email := by
  unfold Memory.heldByOther
  constructor
  · intro hheld
    cases howner : m.byEmail.get? email with
    | none => exact absurd hheld (by simp [howner])
    | some owner => exact ⟨owner, h.byEmail_eq_some_iff.mp howner⟩
  · rintro ⟨owner, howner⟩
    have hne : owner ≠ subject := by
      rintro rfl
      exact Memory.not_owns_of_absent habsent howner
    rw [h.byEmail_eq_some_iff.mpr howner]
    simpa using hne

theorem accept_email (hvalid : (Email.check (some (normalizeEmail email))).valid = true) :
    s.accept (some email) none = .ok (normalizeEmail email, none) := by
  have hadmits : s.Admits (some email) none := ⟨hvalid, by simp⟩
  rw [accept_of_admits hadmits]
  rfl

/-- **Taking an email.** A subject without a row is refused an email that has an owner, and gets a
row with every other. -/
theorem Kept.write_new (h : s.Kept m) (clock : Moment) (habsent : m.records.get? subject = none)
    (hvalid : (Email.check (some (normalizeEmail email))).valid = true) :
    ((∃ owner, m.Owns owner (normalizeEmail email)) →
      s.createOrUpdate Memory.store clock subject (some email) none m =
        (.error (.service (.identityConflict UniqueField.email.label)), m)) ∧
    ((¬ ∃ owner, m.Owns owner (normalizeEmail email)) →
      (s.createOrUpdate Memory.store clock subject (some email) none m).1 =
        .ok ⟨⟨subject, normalizeEmail email, none, clock, clock, none⟩, true⟩) := by
  have hkey : Memory.emailKey (normalizeEmail email) = normalizeEmail email :=
    lower_normalizeEmail email
  have hheld : Memory.heldByOther m.byEmail (normalizeEmail email) subject = true ↔
      ∃ owner, m.Owns owner (normalizeEmail email) := h.heldByOther_iff habsent
  simp only [createOrUpdate, accept_email hvalid, Memory.store, Memory.upsert?,
    Memory.conflict?_without_phone, hkey, habsent]
  constructor
  · intro howner
    rw [if_pos (hheld.mpr howner)]
  · intro hfree
    rw [if_neg (mt hheld.mp hfree)]
    rfl

/-- The refusal of an email tells that it has an owner. -/
theorem Kept.refused_iff (h : s.Kept m) (habsent : m.records.get? subject = none)
    (hvalid : (Email.check (some (normalizeEmail email))).valid = true) :
    (s.createOrUpdate Memory.store clock subject (some email) none m).1 =
        .error (.service (.identityConflict UniqueField.email.label)) ↔
      ∃ owner, m.Owns owner (normalizeEmail email) := by
  obtain ⟨hrefused, hwritten⟩ := h.write_new clock habsent hvalid
  constructor
  · intro hconflict
    by_contra hfree
    rw [hwritten hfree] at hconflict
    exact absurd hconflict (by simp)
  · intro howner
    rw [hrefused howner]

/-! ## §4 Finding an email -/

/-- A search never fails. -/
theorem exists_found (email : Option String) (m : Memory) :
    ∃ found, (findByEmail Memory.store email m).1 = .ok found := by
  unfold findByEmail
  cases email.map normalizeEmail with
  | none => exact ⟨none, rfl⟩
  | some e =>
    by_cases hempty : e.isEmpty = true
    · exact ⟨none, by simp only [hempty, if_true]⟩
    · refine ⟨m.findByEmail e, ?_⟩
      simp only [if_neg hempty]
      rfl

/-- **Finding an email.** A search finds the row that has the normalized email, unless it is that
of the subject without a name. -/
theorem Kept.findByEmail_eq_some_iff (h : s.Kept m) :
    (findByEmail Memory.store (some email) m).1 = .ok (some r) ↔
      ∃ owner : RawText, owner ≠ "" ∧ m.records.get? owner = some r ∧
        r.email = normalizeEmail email := by
  have hkey : Memory.emailKey (Text.strip (normalizeEmail email)) = normalizeEmail email := by
    rw [strip_normalizeEmail, Memory.emailKey, lower_normalizeEmail]
  by_cases hempty : normalizeEmail email = ""
  · -- a blank email is not searched for, and no row has one
    have hnone : (findByEmail Memory.store (some email) m).1 = .ok none := by
      simp [findByEmail, hempty]
    rw [hnone]
    constructor
    · intro hfound
      exact absurd hfound (by simp)
    · rintro ⟨owner, -, hr, hr_email⟩
      exact absurd (hr_email.trans hempty) (h.stored owner r hr).email.ne_empty
  · have hsearch : (findByEmail Memory.store (some email) m).1 =
        .ok (m.findByEmail (normalizeEmail email)) := by
      simp [findByEmail, hempty, Memory.store]
    rw [hsearch, Except.ok.injEq, Memory.findByEmail, hkey]
    constructor
    · intro hfound
      cases howner : m.byEmail.get? (normalizeEmail email) with
      | none => exact absurd hfound (by simp [howner])
      | some owner =>
        rw [howner] at hfound
        by_cases hname : owner = ""
        · exact absurd hfound (by simp [hname, RawText.isEmpty])
        · obtain ⟨r', hr', hr'_email⟩ := h.byEmail_eq_some_iff.mp howner
          have hrow : m.records.get? owner = some r := by
            simpa [RawText.isEmpty_eq_false_iff.mpr hname] using hfound
          rw [hrow, Option.some.injEq] at hr'
          subst hr'
          exact ⟨owner, hname, hrow, hr'_email⟩
    · rintro ⟨owner, hname, hr, hr_email⟩
      rw [h.byEmail_eq_some_iff.mpr ⟨r, hr, hr_email⟩]
      simpa [RawText.isEmpty_eq_false_iff.mpr hname] using hr

/-- When every write names its subject, no row is that of the subject without a name. -/
theorem not_owns_nameless {calls : List Call} (hsubjects : ∀ call ∈ calls, call.NamesSubject) :
    ¬ (s.run Memory.store calls Memory.empty).2.Owns "" email := by
  rintro ⟨r, hr, -⟩
  have horder := (inOrder_empty (s := s)).run_eq hsubjects
  exact (horder.1.stored "" r hr).1 rfl

/-! ## §5 The two answers side by side -/

/-- **Found and taken.** After any calls of a synchronizer, an address in any spelling is found by a
search exactly when a subject without a row is refused it for being taken, unless the row that has
it is that of the subject without a name.  What is found is the one row with the normalized email,
the same that its subject leads to.  A subject who is not refused gets a new row.  As long as every
write names its subject there is no exception. -/
theorem found_iff_taken (s : Synchronizer) (calls : List Call) (email : String) (subject : RawText)
    (clock : Moment) (hvalid : (Email.check (some (normalizeEmail email))).valid = true)
    (habsent : (s.run Memory.store calls Memory.empty).2.records.get? subject = none) :
    let m := (s.run Memory.store calls Memory.empty).2
    let search := (findByEmail Memory.store (some email) m).1
    let write := (s.createOrUpdate Memory.store clock subject (some email) none m).1
    let taken := write = .error (.service (.identityConflict UniqueField.email.label))
    ((∃ r, search = .ok (some r)) ↔ taken ∧ ¬ m.Owns "" (normalizeEmail email)) ∧
    (m.Owns "" (normalizeEmail email) → taken ∧ search = .ok none) ∧
    (∀ r, search = .ok (some r) →
      r.email = normalizeEmail email ∧ (Memory.store.findById r.id m).1 = .ok (some r) ∧
      ∀ other, m.Owns other (normalizeEmail email) → other = r.id) ∧
    (¬ taken → search = .ok none ∧
      write = .ok ⟨⟨subject, normalizeEmail email, none, clock, clock, none⟩, true⟩) ∧
    ((∀ call ∈ calls, call.NamesSubject) → ((∃ r, search = .ok (some r)) ↔ taken)) := by
  intro m search write taken
  have h : s.Kept m := s.kept_run calls
  have htaken : taken ↔ ∃ owner, m.Owns owner (normalizeEmail email) :=
    h.refused_iff habsent hvalid
  have hsearch : ∀ r, search = .ok (some r) ↔ ∃ owner : RawText, owner ≠ "" ∧
      m.records.get? owner = some r ∧ r.email = normalizeEmail email :=
    fun r => h.findByEmail_eq_some_iff
  have hfound : (∃ r, search = .ok (some r)) ↔ taken ∧ ¬ m.Owns "" (normalizeEmail email) := by
    constructor
    · rintro ⟨r, hr⟩
      obtain ⟨owner, hname, hrow, hr_email⟩ := (hsearch r).mp hr
      have howns : m.Owns owner (normalizeEmail email) := ⟨r, hrow, hr_email⟩
      exact ⟨htaken.mpr ⟨owner, howns⟩, fun hnameless => hname (h.owner_unique hnameless howns)⟩
    · rintro ⟨hconflict, hnameless⟩
      obtain ⟨owner, howns⟩ := htaken.mp hconflict
      have hname : owner ≠ "" := by
        rintro rfl
        exact hnameless howns
      obtain ⟨r, hrow, hr_email⟩ := howns
      exact ⟨r, (hsearch r).mpr ⟨owner, hname, hrow, hr_email⟩⟩
  have hnone : (¬ ∃ r, search = .ok (some r)) → search = .ok none := by
    intro hmissing
    obtain ⟨found, hanswer⟩ := exists_found (some email) m
    cases found with
    | none => exact hanswer
    | some r => exact absurd ⟨r, hanswer⟩ hmissing
  refine ⟨hfound, ?_, ?_, ?_, ?_⟩
  · intro hnameless
    exact ⟨htaken.mpr ⟨"", hnameless⟩, hnone fun hany => (hfound.mp hany).2 hnameless⟩
  · intro r hr
    obtain ⟨owner, -, hrow, hr_email⟩ := (hsearch r).mp hr
    have hid : r.id = owner := h.consistent.id_eq owner r hrow
    refine ⟨hr_email, ?_, ?_⟩
    · rw [hid]
      exact congrArg Except.ok hrow
    · rw [hid]
      intro other hother
      exact h.owner_unique ⟨r, hrow, hr_email⟩ hother
  · intro hfree
    exact ⟨hnone fun hany => hfree (hfound.mp hany).1,
      (h.write_new clock habsent hvalid).2 (mt htaken.mpr hfree)⟩
  · intro hsubjects
    rw [hfound]
    exact and_iff_left (not_owns_nameless hsubjects)

/-- An address in three spellings, stored for one subject, found, and refused to another. -/
theorem found_iff_taken_spelled :
    let s : Synchronizer := ⟨.usual⟩
    let clock : Moment := ⟨0, some 0⟩
    let calls : List Call := [.createOrUpdate "user-1" (some " A@Example.com ") none clock]
    let m := (s.run Memory.store calls Memory.empty).2
    (Email.check (some (normalizeEmail "a@EXAMPLE.com"))).valid = true ∧
      m.records.get? "user-2" = none ∧
      ((∃ r, (findByEmail Memory.store (some "a@EXAMPLE.com") m).1 = .ok (some r)) ↔
        (s.createOrUpdate Memory.store clock "user-2" (some "a@EXAMPLE.com") none m).1 =
          .error (.service (.identityConflict UniqueField.email.label))) ∧
      (findByEmail Memory.store (some "a@EXAMPLE.com") m).1 =
        .ok (some ⟨"user-1", "a@example.com", none, clock, clock, none⟩) := by
  intro s clock calls m
  have hvalid : (Email.check (some (normalizeEmail "a@EXAMPLE.com"))).valid = true := by
    decide +kernel
  have habsent : m.records.get? "user-2" = none := by decide +kernel
  have hsubjects : ∀ call ∈ calls, call.NamesSubject := by
    simp [calls, Call.NamesSubject]
  obtain ⟨-, -, -, -, hboth⟩ :=
    found_iff_taken s calls "a@EXAMPLE.com" "user-2" clock hvalid habsent
  exact ⟨hvalid, habsent, hboth hsubjects, by decide +kernel⟩

/-- **The subject without a name.** Its email is refused to everyone else, and no search finds
it. -/
theorem found_iff_taken_nameless :
    let s : Synchronizer := ⟨.usual⟩
    let clock : Moment := ⟨0, some 0⟩
    let calls : List Call := [.createOrUpdate "" (some "a@example.com") none clock]
    let m := (s.run Memory.store calls Memory.empty).2
    m.records.get? "user-1" = none ∧
      (s.createOrUpdate Memory.store clock "user-1" (some "a@example.com") none m).1 =
        .error (.service (.identityConflict UniqueField.email.label)) ∧
      (findByEmail Memory.store (some "a@example.com") m).1 = .ok none ∧
      (Memory.store.findById "" m).1 =
        .ok (some ⟨"", "a@example.com", none, clock, clock, none⟩) := by
  decide +kernel

end Synchronizer

end IdentityService
