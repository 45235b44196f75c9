import IdentityService.Directory.Remote
import IdentityService.Proofs.Directory.Calls
import IdentityService.Proofs.Text.LowerCase
import IdentityService.Proofs.Validation.Contact

/-!
# What Reaches the Store

A synchronizer normalizes first and checks afterwards.  Normalizing a second time changes
nothing, so an accepted value is already what the stores would make of it when they trim and
lower-case it once more.

## Main statements

- `Synchronizer.accept_of_admits`, `Synchronizer.accept_of_not_admits`: what is accepted, in
  which form, and how everything else is refused.
- `Memory.Holds.run`: what is true of every write is true of every row.
- `Synchronizer.only_normal_writes`: only normalized, valid values reach a store.
-/

namespace IdentityService

open Text

/-! ## §1 Normal forms -/

theorem lower_normalizeEmail (e : String) : lower (normalizeEmail e) = normalizeEmail e :=
  lower_lower (strip e)

theorem strip_normalizeEmail (e : String) : strip (normalizeEmail e) = normalizeEmail e :=
  strip_lower_strip e

/-- **Normalizing.** A normalized email is in normal form, whatever its characters are. -/
theorem normalizeEmail_normalizeEmail (e : String) :
    normalizeEmail (normalizeEmail e) = normalizeEmail e := by
  rw [normalizeEmail, strip_normalizeEmail, lower_normalizeEmail]

theorem Text.Settled.isUpper_eq_false {c : Char} (h : Settled c) : c.isUpper = false := by
  -- every capital letter of ASCII is moved, so none of them is settled
  have hall : ∀ n ∈ List.range' 65 26, lowerChar (Char.ofNat n) ≠ [Char.ofNat n] := by decide
  by_contra hupper
  rw [Bool.not_eq_false] at hupper
  have hbounds : 'A'.val ≤ c.val ∧ c.val ≤ 'Z'.val := of_decide_eq_true hupper
  have hmem : c.toNat ∈ List.range' 65 26 := by
    rw [List.mem_range'_1]
    exact ⟨hbounds.1, Nat.lt_succ_of_le hbounds.2⟩
  refine hall c.toNat hmem ?_
  rw [Char.ofNat_toNat]
  exact h.1

/-- An email as it is stored: in normal form, an address, and written in the characters of
addresses, which are ASCII, without a capital letter. -/
structure Email.IsNormal (e : String) : Prop where
  fixed : normalizeEmail e = e
  address : Email.IsAddress e.toList
  alphabet : ∀ c ∈ e.toList,
    Email.isAddressChar c = true ∧ c.toNat < 128 ∧ c.isUpper = false

theorem Email.isNormal_normalizeEmail {e : String}
    (h : Email.IsAddress (normalizeEmail e).toList) : Email.IsNormal (normalizeEmail e) where
  fixed := normalizeEmail_normalizeEmail e
  address := h
  alphabet := by
    intro c hc
    have hchar := h.isAddressChar c hc
    refine ⟨hchar, Email.toNat_lt_of_isAddressChar hchar, ?_⟩
    rw [normalizeEmail, lower, String.toList_ofList] at hc
    exact (settled_of_mem_lowerFrom _ _ c hc).isUpper_eq_false

theorem Email.IsNormal.emailKey_eq {e : String} (h : Email.IsNormal e) :
    Memory.emailKey e = e := by
  rw [Memory.emailKey, ← h.fixed, lower_normalizeEmail]

theorem Email.IsNormal.ne_empty {e : String} (h : Email.IsNormal e) : e ≠ "" := by
  rintro rfl
  exact h.address.ne_nil rfl

theorem Phone.IsNumber.strip_eq {b : Phone.Bounds} {p : String}
    (h : Phone.IsNumber b p.toList) : strip p = p := by
  apply strip_of_forall
  intro c hc
  have hformatting := h.isFormatting_eq_false c hc
  simp only [Phone.isFormatting, Bool.or_eq_false_iff] at hformatting
  exact hformatting.1.1.1.1

theorem Phone.IsNumber.normalizePhone_eq {b : Phone.Bounds} {p : String}
    (h : Phone.IsNumber b p.toList) : normalizePhone p = some p := by
  have hplain : Phone.withoutFormatting p = p := by
    rw [Phone.withoutFormatting, List.filter_eq_self.mpr, String.ofList_toList]
    intro c hc
    rw [h.isFormatting_eq_false c hc]
    rfl
  have hne : p.isEmpty = false := by
    obtain ⟨digits, hp, -⟩ := h
    rw [String.isEmpty_eq_false_iff]
    rintro rfl
    exact absurd hp (by simp)
  rw [normalizePhone, h.strip_eq, hplain, hne]
  rfl

/-! ## §2 The decision -/

namespace Synchronizer

variable {s : Synchronizer} {email phone : Option String}

/-- What is wrong with the normalized email. -/
def emailErrors (email : Option String) : List ErrorCode :=
  (Email.check (email.map normalizeEmail)).errors

/-- What is wrong with the normalized phone number, which may be left out. -/
def phoneErrors (s : Synchronizer) (phone : Option String) : List ErrorCode :=
  match phone.bind normalizePhone with
  | none => []
  | some p => (Phone.check s.policy.phone (some p)).errors

/-- The email check accepts the normalized email, and the phone check the normalized phone
number, if there is one. -/
def Admits (s : Synchronizer) (email phone : Option String) : Prop :=
  (Email.check (email.map normalizeEmail)).valid = true ∧
    ∀ p, phone.bind normalizePhone = some p → (Phone.check s.policy.phone (some p)).valid = true

theorem email_payload (email phone : Option String) :
    FieldCheck.email (payload email phone "email") = .ok (Email.check email) := by
  cases email <;> rfl

theorem phone_payload (b : Phone.Bounds) (email phone : Option String) :
    (FieldCheck.phone b).optional (payload email phone "phone") =
      .ok (match phone with
        | none => .success
        | some p => Phone.check b (some p)) := by
  cases phone <;> rfl

theorem rules_validate (s : Synchronizer) (email phone : Option String) :
    s.rules.validate (payload email phone) =
      .ok (.ofErrors ((Email.check email).errors ++ (match phone with
        | none => []
        | some p => (Phone.check s.policy.phone (some p)).errors))) := by
  simp only [RuleSet.validate, rules, RuleSet.errors, email_payload, phone_payload]
  cases phone with
  | none => rfl
  | some p =>
    show Except.ok (Verdict.ofErrors ((Email.check email).errors ++ (_ ++ []))) = _
    rw [List.append_nil]

/-- **The verdict.** It holds the errors of the email and then those of the phone number. -/
theorem validate_payload (s : Synchronizer) (email phone : Option String) :
    s.rules.validate (payload (email.map normalizeEmail) (phone.bind normalizePhone)) =
      .ok (.ofErrors (emailErrors email ++ s.phoneErrors phone)) :=
  rules_validate s _ _

/-- **The decision.** Without errors the normalized values are accepted; with errors all of them
are reported. -/
theorem accept_eq (s : Synchronizer) (email phone : Option String) :
    s.accept email phone =
      if emailErrors email ++ s.phoneErrors phone = [] then
        .ok ((email.map normalizeEmail).getD "", phone.bind normalizePhone)
      else .error (.service (.validation (emailErrors email ++ s.phoneErrors phone))) := by
  rw [accept]
  simp only [validate_payload]
  -- the verdict is valid exactly when there is no error in it
  generalize emailErrors email ++ s.phoneErrors phone = codes
  cases codes <;> rfl

theorem emailErrors_eq_nil_iff {email : Option String} :
    emailErrors email = [] ↔ (Email.check (email.map normalizeEmail)).valid = true :=
  (Verdict.ofErrors_valid_iff _).symm

theorem admits_iff : s.Admits email phone ↔ emailErrors email ++ s.phoneErrors phone = [] := by
  rw [List.append_eq_nil_iff, emailErrors_eq_nil_iff]
  unfold Admits phoneErrors
  refine and_congr_right fun _ => ?_
  cases phone.bind normalizePhone with
  | none => simp
  | some p =>
    simp only [Option.some.injEq, forall_eq']
    exact Verdict.ofErrors_valid_iff _

theorem Admits.normal (h : s.Admits email phone) :
    (∃ e, email.map normalizeEmail = some e ∧ Email.IsNormal e) ∧
      ∀ p, phone.bind normalizePhone = some p → Phone.IsNumber s.policy.phone p.toList := by
  obtain ⟨hemail, hphone⟩ := h
  constructor
  · rw [Email.check, Verdict.ofErrors_valid_iff] at hemail
    cases email with
    | none => exact absurd hemail (by simp [Email.errors])
    | some e =>
      rw [Option.map_some, Email.errors_eq_nil_iff] at hemail
      exact ⟨normalizeEmail e, rfl, Email.isNormal_normalizeEmail hemail⟩
  · intro p hp
    exact Phone.check_valid_iff.mp (hphone p hp)

theorem admits_of_normal {e : String} (hemail : Email.IsNormal e)
    (hphone : ∀ p, phone = some p → Phone.IsNumber s.policy.phone p.toList) :
    s.Admits (some e) phone := by
  constructor
  · rw [Option.map_some, Email.check_valid_iff, hemail.fixed]
    exact hemail.address
  · -- a number is what normalizing makes of it
    intro p hp
    rw [Option.bind_eq_some_iff] at hp
    obtain ⟨q, hq, hp⟩ := hp
    rw [(hphone q hq).normalizePhone_eq] at hp
    obtain rfl := Option.some.inj hp
    exact Phone.check_valid_iff.mpr (hphone q hq)

theorem accept_of_admits (h : s.Admits email phone) :
    s.accept email phone =
      .ok ((email.map normalizeEmail).getD "", phone.bind normalizePhone) := by
  rw [accept_eq, if_pos (admits_iff.mp h)]

theorem accept_of_not_admits (h : ¬ s.Admits email phone) :
    s.accept email phone =
      .error (.service (.validation (emailErrors email ++ s.phoneErrors phone))) := by
  rw [accept_eq, if_neg (mt admits_iff.mpr h)]

/-- An email and a phone number as they are stored. -/
structure IsStored (s : Synchronizer) (email : String) (phone : Option String) : Prop where
  email : Email.IsNormal email
  phone : ∀ p, phone = some p → Phone.IsNumber s.policy.phone p.toList

theorem IsStored.accept_eq {e : String} (h : s.IsStored e phone) :
    s.accept (some e) phone = .ok (e, phone) := by
  have hphone : phone.bind normalizePhone = phone := by
    cases phone with
    | none => rfl
    | some p =>
      rw [Option.bind_some, (h.phone p rfl).normalizePhone_eq]
  have hadmits : s.Admits (some e) phone := admits_of_normal h.email h.phone
  simp only [accept_of_admits hadmits, hphone, Option.map_some, h.email.fixed, Option.getD_some]

/-- **Writes.** The write that a call comes down to takes an email and a phone number in normal
form. -/
theorem write?_eq_some {subject : RawText} {clock : Moment} {c : Store.Call}
    (h : s.write? subject email phone clock = some c) :
    ∃ e p, c = .upsert subject e p clock ∧ s.IsStored e p := by
  by_cases hadmits : s.Admits email phone
  · obtain ⟨⟨e, he, hnormal⟩, hphone⟩ := hadmits.normal
    rw [write?, accept_of_admits hadmits, he] at h
    exact ⟨e, phone.bind normalizePhone, (Option.some.inj h).symm, hnormal, hphone⟩
  · rw [write?, accept_of_not_admits hadmits] at h
    exact absurd h (by simp)

end Synchronizer

/-! ## §3 Rows -/

/-- Subject, email and phone number of a write have a property. -/
def Store.Call.Writes (P : RawText → String → Option String → Prop) : Store.Call → Prop
  | .upsert subject email phone _ => P subject email phone
  | _ => True

/-- Subject, email and phone number of every row have a property. -/
def Memory.Holds (P : RawText → String → Option String → Prop) (m : Memory) : Prop :=
  ∀ subject r, m.records.get? subject = some r → P subject r.email r.phone

namespace Memory

variable {P : RawText → String → Option String → Prop} {m m' : Memory} {subject : RawText}

theorem holds_empty : Holds P empty := by
  intro subject r hr
  exact absurd hr (by simp [empty, Assoc.get?_nil])

/-- **A write.** It sets the row of its subject and leaves the other rows alone. -/
theorem records_upsert? {email : String} {phone : Option String} {now : Moment}
    {result : SyncResult} (h : m.upsert? subject email phone now = .ok (result, m')) :
    result = ⟨written (m.records.get? subject) subject email phone now,
        (m.records.get? subject).isNone⟩ ∧
      m'.records = m.records.set subject result.record := by
  unfold upsert? at h
  split at h
  · exact absurd h (by simp)
  · obtain ⟨rfl, rfl⟩ := Prod.mk.inj (Except.ok.inj h)
    refine ⟨rfl, ?_⟩
    show (m.cleared subject).records.set subject _ = _
    rw [records_cleared]

theorem Holds.set (h : Holds P m) {r : IdentityRecord} (hr : P subject r.email r.phone)
    (hrecords : m'.records = m.records.set subject r) : Holds P m' := by
  intro s' r' hr'
  rw [hrecords, Assoc.get?_set] at hr'
  split at hr'
  · rename_i hs
    obtain rfl := Option.some.inj hr'
    rwa [← hs]
  · exact h s' r' hr'

/-- **One call.** Rows come from writes, and nothing else changes their email or phone number. -/
theorem Holds.after (h : Holds P m) {call : Store.Call} (hcall : call.Writes P) :
    Holds P (store.after m call) := by
  cases call with
  | upsert subject email phone now =>
    show Holds P (store.upsert subject email phone now m).2
    simp only [store]
    split
    · rename_i result m' hwrite
      obtain ⟨rfl, hrecords⟩ := records_upsert? hwrite
      refine h.set ?_ hrecords
      rw [email_written, phone_written]
      exact hcall
    · exact h
  | findById subject => exact h
  | findByEmail email => exact h
  | touch subject now =>
    show Holds P (m.touch subject now).2
    unfold Memory.touch
    cases hr : m.records.get? subject with
    | none => exact h
    | some r =>
      -- only the two times of the row are new
      have hkeys : P subject r.email r.phone := h subject r hr
      exact h.set (r := { r with lastActiveAt := some now, updatedAt := now }) hkeys rfl
  | delete subject =>
    show Holds P (m.delete subject).2
    unfold Memory.delete
    cases hr : m.records.get? subject with
    | none => exact h
    | some r =>
      -- the rows that are left were there before
      intro s' r' hr'
      change (m.records.erase subject).get? s' = some r' at hr'
      rw [Assoc.get?_erase] at hr'
      split at hr'
      · exact absurd hr' (by simp)
      · exact h s' r' hr'

/-- **Sequences of calls.** What is true of every write is true of every row. -/
theorem Holds.run (h : Holds P m) {calls : List Store.Call}
    (hcalls : ∀ call ∈ calls, call.Writes P) : Holds P (store.run m calls) :=
  Store.run_induction (fun _ _ hcall hstate => hstate.after hcall) h hcalls

end Memory

/-! ## §4 Everything that is stored -/

namespace Synchronizer

variable {s : Synchronizer}

theorem writes_of_asks {call : Call} {c : Store.Call} (h : s.asks call = some c) :
    c.Writes fun _ => s.IsStored := by
  rcases asks_cases h with ⟨subject, email, phone, clock, hwrite, -⟩ | ⟨email, rfl⟩ |
    ⟨subject, rfl⟩ | ⟨subject, clock, rfl⟩ | ⟨subject, rfl⟩
  · obtain ⟨e, p, rfl, hstored⟩ := write?_eq_some hwrite
    exact hstored
  all_goals trivial

theorem holds_run (s : Synchronizer) (calls : List Call) :
    (s.run Memory.store calls Memory.empty).2.Holds fun _ => s.IsStored := by
  rw [run_state]
  refine Memory.holds_empty.run fun c hc => ?_
  obtain ⟨call, -, hasks⟩ := List.mem_filterMap.mp hc
  exact writes_of_asks hasks

theorem consistent_run (s : Synchronizer) (calls : List Call) :
    (s.run Memory.store calls Memory.empty).2.Consistent := by
  rw [run_state]
  exact Memory.consistent_run _

/-- **Only normalized, valid values reach a store.** A write calls the store once when its input
is admitted, with values in normal form, and otherwise reports every error of the email and then
of the phone number without calling it.  So in every state of the memory store every email and
phone number is in normal form, the keys of the indexes are the stored values themselves, and
both stores search for exactly the email that they are asked for. -/
theorem only_normal_writes (s : Synchronizer) :
    (∀ {σ : Type} (store : Store σ) (clock : Moment) (subject : RawText)
        (email phone : Option String) (state : σ) (calls : List Store.Call),
      (s.Admits email phone →
        ∃ e, email.map normalizeEmail = some e ∧ Email.IsNormal e ∧
          (∀ p, phone.bind normalizePhone = some p → Phone.IsNumber s.policy.phone p.toList) ∧
          s.createOrUpdate store.recorded clock subject email phone (state, calls) =
            ((store.upsert subject e (phone.bind normalizePhone) clock state).1,
              (store.upsert subject e (phone.bind normalizePhone) clock state).2,
              calls ++ [.upsert subject e (phone.bind normalizePhone) clock])) ∧
      (¬ s.Admits email phone →
        s.createOrUpdate store.recorded clock subject email phone (state, calls) =
          (.error (.service (.validation (emailErrors email ++ s.phoneErrors phone))),
            state, calls))) ∧
    (∀ calls : List Call,
      let m := (s.run Memory.store calls Memory.empty).2
      (∀ subject r, m.records.get? subject = some r →
        Email.IsNormal r.email ∧ Memory.emailKey r.email = r.email ∧
          ∀ p, r.phone = some p →
            Phone.IsNumber s.policy.phone p.toList ∧ normalizePhone p = some p) ∧
      (∀ k subject, m.byEmail.get? k = some subject ↔
        ∃ r, m.records.get? subject = some r ∧ r.email = k) ∧
      (∀ k subject, m.byPhone.get? k = some subject ↔
        ∃ r, m.records.get? subject = some r ∧ r.phone = some k)) ∧
    (∀ e : String, Memory.emailKey (strip (normalizeEmail e)) = normalizeEmail e ∧
      ∀ session, Remote.store.findByEmail (normalizeEmail e) session =
        Remote.run (.select "email" (normalizeEmail e)) Remote.foundRow session) := by
  refine ⟨?_, ?_, ?_⟩
  · intro σ store clock subject email phone state calls
    constructor
    · intro hadmits
      obtain ⟨⟨e, he, hnormal⟩, hphone⟩ := hadmits.normal
      refine ⟨e, he, hnormal, hphone, ?_⟩
      rw [createOrUpdate, accept_of_admits hadmits, he]
      rfl
    · intro hrefused
      rw [createOrUpdate, accept_of_not_admits hrefused]
  · intro calls m
    have hstored : m.Holds fun _ => s.IsStored := s.holds_run calls
    have hconsistent : m.Consistent := s.consistent_run calls
    refine ⟨?_, ?_, hconsistent.phone⟩
    · intro subject r hr
      obtain ⟨hemail, hphone⟩ := hstored subject r hr
      refine ⟨hemail, hemail.emailKey_eq, fun p hp => ?_⟩
      exact ⟨hphone p hp, (hphone p hp).normalizePhone_eq⟩
    · -- the keys of the email index are the emails themselves
      intro k subject
      rw [hconsistent.email k subject]
      refine exists_congr fun r => and_congr_right fun hr => ?_
      rw [Memory.emailKey?, Option.some.injEq, (hstored subject r hr).email.emailKey_eq]
  · intro e
    constructor
    · rw [strip_normalizeEmail, Memory.emailKey, lower_normalizeEmail]
    · intro session
      show Remote.run (.select "email" (lower (strip (normalizeEmail e)))) _ _ = _
      rw [strip_normalizeEmail, lower_normalizeEmail]

example : (⟨.usual⟩ : Synchronizer).accept (some " A.User@Example.COM ") (some "+1 (415) 555-2671")
    = .ok ("a.user@example.com", some "+14155552671") := by
  decide +kernel

end Synchronizer

end IdentityService
