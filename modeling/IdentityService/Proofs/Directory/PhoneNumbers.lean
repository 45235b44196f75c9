import IdentityService.Proofs.Directory.Admission
import IdentityService.Proofs.Validation.Requests

/-!
# Normalized Phone Numbers

What becomes of a phone number on its way to the store.  Formatting is removed and the rest is
checked, unless nothing is left: then the write goes on without a phone number, and takes away
the number that the subject had.  A text of blanks is meant to mean that there is no number, but
so does every other text of formatting alone, which is a malformed number.

## Main definitions

- `Phone.OnlyFormatting`: the texts of which normalizing leaves nothing.
- `Synchronizer.IsPhoneFault`: the refusals of a malformed phone number.

## Main statements

- `normalizePhone_eq_none_iff`, `bind_normalizePhone`: normalizing.
- `Memory.upsert_cases`: how a write ends.
- `Synchronizer.phone_dropped_iff`: which phone numbers are dropped, and what this erases.
-/

namespace IdentityService

open Text

/-! ## §1 Normalizing -/

namespace Phone

theorem isFormatting_of_isBlank {c : Char} (h : isBlank c = true) : isFormatting c = true := by
  simp only [isFormatting, h, Bool.true_or]

/-- A text that holds formatting and nothing else. -/
def OnlyFormatting (phone : String) : Prop := ∀ c ∈ phone.toList, isFormatting c = true

instance : DecidablePred OnlyFormatting := fun phone =>
  inferInstanceAs (Decidable (∀ c ∈ phone.toList, isFormatting c = true))

theorem toList_withoutFormatting (phone : String) :
    (withoutFormatting phone).toList = phone.toList.filter fun c => !isFormatting c :=
  String.toList_ofList

/-- Blanks at the ends are formatting as well, so it does not matter whether they are trimmed. -/
theorem withoutFormatting_strip (phone : String) :
    withoutFormatting (strip phone) = withoutFormatting phone := by
  obtain ⟨before, after, hbefore, hafter, hphone⟩ := exists_blanks_around phone.toList
  have hnone : ∀ blanks : List Char, (∀ c ∈ blanks, isBlank c = true) →
      blanks.filter (fun c => !isFormatting c) = [] := by
    intro blanks hblanks
    rw [List.filter_eq_nil_iff]
    intro c hc
    rw [isFormatting_of_isBlank (hblanks c hc)]
    exact Bool.false_ne_true
  rw [← String.toList_inj, toList_withoutFormatting, toList_withoutFormatting, toList_strip]
  conv_rhs => rw [hphone]
  rw [List.filter_append, List.filter_append, hnone before hbefore, hnone after hafter,
    List.nil_append, List.append_nil]

theorem withoutFormatting_withoutFormatting (phone : String) :
    withoutFormatting (withoutFormatting phone) = withoutFormatting phone := by
  rw [← String.toList_inj]
  simp only [toList_withoutFormatting, List.filter_filter, Bool.and_self]

theorem isEmpty_withoutFormatting_iff {phone : String} :
    (withoutFormatting phone).isEmpty = true ↔ OnlyFormatting phone := by
  rw [String.isEmpty_iff, ← String.toList_eq_nil_iff, toList_withoutFormatting,
    List.filter_eq_nil_iff]
  simp only [Bool.not_eq_true', Bool.not_eq_false, OnlyFormatting]

end Phone

theorem normalizePhone_eq (phone : String) :
    normalizePhone phone =
      if Phone.OnlyFormatting phone then none else some (Phone.withoutFormatting phone) := by
  rw [normalizePhone, Phone.withoutFormatting_strip]
  simp only [Phone.isEmpty_withoutFormatting_iff]

/-- **Dropped numbers.** Normalizing leaves no number of formatting alone, and of nothing else. -/
theorem normalizePhone_eq_none_iff {phone : String} :
    normalizePhone phone = none ↔ Phone.OnlyFormatting phone := by
  rw [normalizePhone_eq]
  split
  case isTrue h => exact iff_of_true rfl h
  case isFalse h => exact iff_of_false (Option.some_ne_none _) h

/-- **Normalizing.** What is left of a phone number is in normal form. -/
theorem bind_normalizePhone (phone : String) :
    (normalizePhone phone).bind normalizePhone = normalizePhone phone := by
  cases hnormal : normalizePhone phone with
  | none => rfl
  | some number =>
    have hphone : ¬ Phone.OnlyFormatting phone := by
      rw [← normalizePhone_eq_none_iff, hnormal]
      exact Option.some_ne_none _
    rw [normalizePhone_eq, if_neg hphone, Option.some.injEq] at hnormal
    subst hnormal
    have hne : ¬ Phone.OnlyFormatting (Phone.withoutFormatting phone) := by
      rw [← Phone.isEmpty_withoutFormatting_iff, Phone.withoutFormatting_withoutFormatting]
      exact mt Phone.isEmpty_withoutFormatting_iff.mp hphone
    rw [Option.bind_some, normalizePhone_eq, if_neg hne,
      Phone.withoutFormatting_withoutFormatting]

/-! ## §2 The end of a write -/

namespace Memory

/-- **A write.** It is refused for a conflict and changes nothing, or leaves a row with the email
and the phone number that it was given. -/
theorem upsert_cases (m : Memory) (subject : RawText) (email : String) (phone : Option String)
    (now : Moment) :
    (∃ field, m.conflict? subject email phone = some field ∧
      store.upsert subject email phone now m =
        (.error (.service (.identityConflict field.label)), m)) ∨
    (m.conflict? subject email phone = none ∧ ∃ result m',
      store.upsert subject email phone now m = (.ok result, m') ∧
        m'.records.get? subject = some result.record ∧ result.record.phone = phone) := by
  cases hconflict : m.conflict? subject email phone with
  | some field =>
    refine .inl ⟨field, rfl, ?_⟩
    simp only [store, upsert?, hconflict]
  | none =>
    refine .inr ⟨rfl, ?_⟩
    cases hwrite : m.upsert? subject email phone now with
    | error field => exact absurd hwrite (by simp only [upsert?, hconflict]; simp)
    | ok written =>
      obtain ⟨result, m'⟩ := written
      obtain ⟨hresult, hrecords⟩ := records_upsert? hwrite
      refine ⟨result, m', ?_, ?_, ?_⟩
      · simp only [store, hwrite]
      · rw [hrecords, Assoc.get?_set, if_pos rfl]
      · rw [hresult]
        exact phone_written _ _ _ _

end Memory

/-! ## §3 Writes with a phone number -/

namespace Synchronizer

variable {s : Synchronizer} {σ : Type} {store : Store σ} {clock : Moment} {subject : RawText}
  {state : σ} {email phone : String}

/-- A refusal that reports codes of phone numbers and nothing else. -/
def IsPhoneFault (f : Fault) : Prop :=
  ∃ codes, codes ≠ [] ∧ (∀ code ∈ codes, code ∈ RequestField.phone.codes) ∧
    f = .service (.validation codes)

theorem createOrUpdate_of_accept_ok {email phone : Option String} {e : String}
    {p : Option String} (h : s.accept email phone = .ok (e, p)) :
    s.createOrUpdate store clock subject email phone state =
      store.upsert subject e p clock state := by
  rw [createOrUpdate, h]

theorem createOrUpdate_of_accept_error {email phone : Option String} {f : Fault}
    (h : s.accept email phone = .error f) :
    s.createOrUpdate store clock subject email phone state = (.error f, state) := by
  rw [createOrUpdate, h]

section ValidEmail

variable (hemail : (Email.check (some (normalizeEmail email))).valid = true)

include hemail

theorem createOrUpdate_of_dropped (h : normalizePhone phone = none) :
    s.createOrUpdate store clock subject (some email) (some phone) state =
      store.upsert subject (normalizeEmail email) none clock state := by
  have hadmits : s.Admits (some email) (some phone) := by
    refine ⟨hemail, fun p hp => ?_⟩
    rw [Option.bind_some, h] at hp
    exact absurd hp.symm (Option.some_ne_none p)
  rw [createOrUpdate_of_accept_ok (accept_of_admits hadmits), Option.bind_some, h]
  rfl

theorem createOrUpdate_of_number {p : String} (h : normalizePhone phone = some p)
    (hnumber : Phone.IsNumber s.policy.phone p.toList) :
    s.createOrUpdate store clock subject (some email) (some phone) state =
      store.upsert subject (normalizeEmail email) (some p) clock state := by
  have hadmits : s.Admits (some email) (some phone) := by
    refine ⟨hemail, fun q hq => ?_⟩
    rw [Option.bind_some, h, Option.some.injEq] at hq
    rw [← hq]
    exact Phone.check_valid_iff.mpr hnumber
  rw [createOrUpdate_of_accept_ok (accept_of_admits hadmits), Option.bind_some, h]
  rfl

theorem createOrUpdate_of_malformed {p : String} (h : normalizePhone phone = some p)
    (hmalformed : ¬ Phone.IsNumber s.policy.phone p.toList) :
    ∃ f, IsPhoneFault f ∧
      s.createOrUpdate store clock subject (some email) (some phone) state = (.error f, state) := by
  have hemail' : emailErrors (some email) = [] := emailErrors_eq_nil_iff.mpr hemail
  have hphone : s.phoneErrors (some phone) = Phone.errors s.policy.phone (some p) := by
    unfold phoneErrors
    rw [Option.bind_some, h]
    rfl
  have hne : Phone.errors s.policy.phone (some p) ≠ [] := by
    rw [ne_eq, Phone.errors_eq_nil_iff]
    exact hmalformed
  have haccept := accept_eq s (some email) (some phone)
  rw [hemail', hphone, List.nil_append, if_neg hne] at haccept
  refine ⟨_, ⟨_, hne, ?_, rfl⟩, createOrUpdate_of_accept_error haccept⟩
  intro code hcode
  exact (Phone.errors_sublist s.policy.phone (some p)).subset hcode

/-- **Writes.** What is left of the phone number is written, or it is malformed and refused. -/
theorem createOrUpdate_cases (s : Synchronizer) (store : Store σ) (clock : Moment)
    (subject : RawText) (phone : String) (state : σ) :
    s.createOrUpdate store clock subject (some email) (some phone) state =
        store.upsert subject (normalizeEmail email) (normalizePhone phone) clock state ∨
      ∃ f, IsPhoneFault f ∧ ¬ Phone.OnlyFormatting phone ∧
        s.createOrUpdate store clock subject (some email) (some phone) state =
          (.error f, state) := by
  cases hphone : normalizePhone phone with
  | none => exact .inl (createOrUpdate_of_dropped hemail hphone)
  | some p =>
    by_cases hnumber : Phone.IsNumber s.policy.phone p.toList
    · exact .inl (createOrUpdate_of_number hemail hphone hnumber)
    · obtain ⟨f, hfault, hrefused⟩ := createOrUpdate_of_malformed hemail hphone hnumber
      refine .inr ⟨f, hfault, ?_, hrefused⟩
      rw [← normalizePhone_eq_none_iff, hphone]
      exact Option.some_ne_none p

/-- A principal with a valid email is synchronized as a write of email and phone number. -/
theorem syncPrincipal_of_valid {principal : Principal} (h : principal.email = some (.text email)) :
    s.syncPrincipal store clock principal state =
      s.createOrUpdate store clock principal.subject (some email)
        (principal.phone.map (·.shown)) state := by
  have hne : ¬ (RawText.text email).isEmpty = true := by
    rw [RawText.isEmpty_iff, RawText.text.injEq]
    rintro rfl
    exact absurd hemail (by decide +kernel)
  rw [syncPrincipal, h]
  simp only [if_neg hne, RawText.shown]

/-- **The end of a write.** Whatever phone number it is given, it leaves a row that has a number
unless there was nothing but formatting, or it changes nothing. -/
theorem createOrUpdate_memory (s : Synchronizer) (clock : Moment) (subject : RawText)
    (phone : String) (m : Memory) :
    (∃ result m', s.createOrUpdate Memory.store clock subject (some email) (some phone) m =
        (.ok result, m') ∧ m'.records.get? subject = some result.record ∧
        (result.record.phone = none ↔ Phone.OnlyFormatting phone) ∧
        m.conflict? subject (normalizeEmail email) (normalizePhone phone) = none) ∨
    ∃ f, s.createOrUpdate Memory.store clock subject (some email) (some phone) m = (.error f, m) ∧
      (IsPhoneFault f ∧ ¬ Phone.OnlyFormatting phone ∨
        ∃ field, m.conflict? subject (normalizeEmail email) (normalizePhone phone) = some field ∧
          f = .service (.identityConflict field.label)) := by
  rcases createOrUpdate_cases hemail s Memory.store clock subject phone m with
    hwrite | ⟨f, hfault, hphone, hrefused⟩
  · rw [hwrite, ← normalizePhone_eq_none_iff]
    rcases m.upsert_cases subject (normalizeEmail email) (normalizePhone phone) clock with
      ⟨field, hconflict, hupsert⟩ | ⟨hconflict, result, m', hupsert, hrow, hstored⟩
    · exact .inr ⟨_, hupsert, .inr ⟨field, hconflict, rfl⟩⟩
    · exact .inl ⟨result, m', hupsert, hrow, by rw [hstored], hconflict⟩
  · exact .inr ⟨f, hrefused, .inl ⟨hfault, hphone⟩⟩

theorem row_of_written {m m' : Memory} {result : SyncResult}
    (h : s.createOrUpdate Memory.store clock subject (some email) (some phone) m =
      (.ok result, m')) :
    m'.records.get? subject = some result.record ∧
      (result.record.phone = none ↔ Phone.OnlyFormatting phone) := by
  rcases createOrUpdate_memory hemail s clock subject phone m with
    ⟨_, _, hwrite, hrow, hstored, -⟩ | ⟨f, hwrite, -⟩
  · obtain ⟨hok, rfl⟩ := Prod.mk.inj (hwrite.symm.trans h)
    obtain rfl := Except.ok.inj hok
    exact ⟨hrow, hstored⟩
  · exact absurd (congrArg Prod.fst (hwrite.symm.trans h)) (by simp)

theorem unchanged_of_refused {m m' : Memory} {f : Fault}
    (h : s.createOrUpdate Memory.store clock subject (some email) (some phone) m =
      (.error f, m')) :
    m' = m ∧ (IsPhoneFault f ∨
      ∃ field : UniqueField, f = .service (.identityConflict field.label)) := by
  rcases createOrUpdate_memory hemail s clock subject phone m with
    ⟨_, _, hwrite, -⟩ | ⟨f', hwrite, hfault⟩
  · exact absurd (congrArg Prod.fst (hwrite.symm.trans h)) (by simp)
  · obtain ⟨hf, rfl⟩ := Prod.mk.inj (hwrite.symm.trans h)
    obtain rfl := Except.error.inj hf
    refine ⟨rfl, ?_⟩
    rcases hfault with ⟨hfault, -⟩ | ⟨field, -, hfield⟩
    · exact .inl hfault
    · exact .inr ⟨field, hfield⟩

/-- **Erased numbers.** The number of a subject is erased by formatting alone, and by all of it
that comes with an email without a conflict. -/
theorem erased_iff {m : Memory} {row : IdentityRecord} {number : String}
    (hrow : m.records.get? subject = some row) (hnumber : row.phone = some number) :
    (∃ row', (s.createOrUpdate Memory.store clock subject (some email) (some phone)
        m).2.records.get? subject = some row' ∧ row'.phone = none) ↔
      Phone.OnlyFormatting phone ∧ m.conflict? subject (normalizeEmail email) none = none := by
  rcases createOrUpdate_memory hemail s clock subject phone m with
    ⟨result, m', hwrite, hnew, hstored, hconflict⟩ | ⟨f, hwrite, hfault⟩
  · rw [hwrite]
    constructor
    · rintro ⟨row', hrow', hnone⟩
      obtain rfl := Option.some.inj (hnew.symm.trans hrow')
      have hphone := hstored.mp hnone
      rw [normalizePhone_eq_none_iff.mpr hphone] at hconflict
      exact ⟨hphone, hconflict⟩
    · rintro ⟨hphone, -⟩
      exact ⟨result.record, hnew, hstored.mpr hphone⟩
  · -- a refused write leaves the number where it is
    rw [hwrite]
    constructor
    · rintro ⟨row', hrow', hnone⟩
      obtain rfl := Option.some.inj (hrow.symm.trans hrow')
      exact absurd (hnumber.symm.trans hnone) (Option.some_ne_none _)
    · rintro ⟨hphone, hfree⟩
      rcases hfault with ⟨-, hphone'⟩ | ⟨field, hconflict, -⟩
      · exact absurd hphone hphone'
      · rw [normalizePhone_eq_none_iff.mpr hphone, hfree] at hconflict
        exact absurd hconflict.symm (Option.some_ne_none _)

end ValidEmail

/-- **Dropped phone numbers.** A phone number that is given with a valid email counts iff it is
more than formatting: what is left of it is written when it is a number, and refused with codes
of phone numbers otherwise.  But formatting alone is written as no phone number.  So a write that
succeeds leaves a row without a number iff the number given was formatting alone, and one that
fails leaves everything as it was; the number that a subject has is erased iff it is given
formatting alone and its email is not in conflict.  Principals are no exception. -/
theorem phone_dropped_iff {email : String}
    (hemail : (Email.check (some (normalizeEmail email))).valid = true) (s : Synchronizer)
    (phone : String) :
    (∀ {σ : Type} (store : Store σ) (clock : Moment) (subject : RawText) (state : σ),
      let write := s.createOrUpdate store clock subject (some email) (some phone) state
      (Phone.OnlyFormatting phone →
        write = store.upsert subject (normalizeEmail email) none clock state) ∧
      (¬ Phone.OnlyFormatting phone → ∃ p, normalizePhone phone = some p ∧
        (Phone.IsNumber s.policy.phone p.toList →
          write = store.upsert subject (normalizeEmail email) (some p) clock state) ∧
        (¬ Phone.IsNumber s.policy.phone p.toList →
          ∃ f, IsPhoneFault f ∧ write = (.error f, state))) ∧
      (∀ principal : Principal, principal.subject = subject →
        principal.email = some (.text email) → principal.phone = some (.text phone) →
          s.syncPrincipal store clock principal state = write)) ∧
    (∀ (clock : Moment) (subject : RawText) (m : Memory),
      let write := s.createOrUpdate Memory.store clock subject (some email) (some phone) m
      (∀ result m', write = (.ok result, m') →
        m'.records.get? subject = some result.record ∧
          (result.record.phone = none ↔ Phone.OnlyFormatting phone)) ∧
      (∀ f m', write = (.error f, m') → m' = m ∧
        (IsPhoneFault f ∨ ∃ field : UniqueField,
          f = .service (.identityConflict field.label))) ∧
      (∀ row number, m.records.get? subject = some row → row.phone = some number →
        ((∃ row', write.2.records.get? subject = some row' ∧ row'.phone = none) ↔
          Phone.OnlyFormatting phone ∧
            m.conflict? subject (normalizeEmail email) none = none))) := by
  refine ⟨?_, ?_⟩
  · intro σ store clock subject state write
    refine ⟨fun hphone => ?_, fun hphone => ?_, ?_⟩
    · exact createOrUpdate_of_dropped hemail (normalizePhone_eq_none_iff.mpr hphone)
    · obtain ⟨p, hp⟩ := Option.ne_none_iff_exists'.mp (mt normalizePhone_eq_none_iff.mp hphone)
      exact ⟨p, hp, createOrUpdate_of_number hemail hp, createOrUpdate_of_malformed hemail hp⟩
    · rintro principal rfl hprincipal hphone
      rw [syncPrincipal_of_valid hemail hprincipal, hphone]
      rfl
  · intro clock subject m
    dsimp only
    exact ⟨fun _ _ => row_of_written hemail, fun _ _ => unchanged_of_refused hemail,
      fun _ _ => erased_iff hemail⟩

/-- A number with formatting is stored without it. -/
theorem phone_dropped_iff_formatted :
    let s : Synchronizer := ⟨.usual⟩
    let phone := "+1 (415) 555-2671"
    (Email.check (some (normalizeEmail "a@example.com"))).valid = true ∧
      normalizePhone phone = some "+14155552671" ∧
      ∀ {σ : Type} (store : Store σ) (clock : Moment) (subject : RawText) (state : σ),
        s.createOrUpdate store clock subject (some "a@example.com") (some phone) state =
          store.upsert subject (normalizeEmail "a@example.com") (some "+14155552671") clock
            state := by
  intro s phone
  have hemail : (Email.check (some (normalizeEmail "a@example.com"))).valid = true := by
    decide +kernel
  have hphone : normalizePhone phone = some "+14155552671" := by decide +kernel
  have hnumber : Phone.IsNumber s.policy.phone "+14155552671".toList :=
    Phone.check_valid_iff.mp (by decide +kernel)
  have hkept : ¬ Phone.OnlyFormatting phone := by
    rw [← normalizePhone_eq_none_iff, hphone]
    exact Option.some_ne_none _
  refine ⟨hemail, hphone, fun store clock subject state => ?_⟩
  obtain ⟨-, hreaches, -⟩ := (phone_dropped_iff hemail s phone).1 store clock subject state
  obtain ⟨p, hp, hwritten, -⟩ := hreaches hkept
  obtain rfl := Option.some.inj (hphone.symm.trans hp)
  exact hwritten hnumber

/-- **Brackets alone.** The phone check refuses them, and they are not blank; but they are
accepted for writing, and they erase the number that the subject has. -/
theorem phone_dropped_iff_brackets :
    let s : Synchronizer := ⟨.usual⟩
    let clock : Moment := ⟨0, some 0⟩
    let m := (s.createOrUpdate Memory.store clock "user-1" (some "a@example.com")
      (some "+14155552671") Memory.empty).2
    let write := s.createOrUpdate Memory.store clock "user-1" (some "a@example.com") (some "()") m
    (Email.check (some "a@example.com")).valid = true ∧
      (Phone.check s.policy.phone (some "()")).valid = false ∧
      isBlankText "()" = false ∧
      (m.records.get? "user-1").map (·.phone) = some (some "+14155552671") ∧
      write.1.isOk = true ∧
      (write.2.records.get? "user-1").map (·.phone) = some none := by
  decide +kernel

end Synchronizer

end IdentityService
