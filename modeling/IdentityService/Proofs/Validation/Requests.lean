import IdentityService.Proofs.Schema.Checked
import IdentityService.Proofs.Validation.Contact
import IdentityService.Validation.Request
import Mathlib.Data.List.Flatten
import Mathlib.Data.List.Forall2
import Mathlib.Data.List.Nodup

/-!
# Verdicts Field by Field

What a rule set says about a payload is what its rules say about one field each, joined in the
order of the rules.  Every check reports codes of a family of its own, in a fixed order, so the
verdict on a request can be taken apart again: the codes of a field are the verdict of its
validator on its value, whatever the other fields hold.

## Main definitions

- `BuiltCheck`: the checks that the validators, `notBlank` and `optional` build.
- `Verdict.Joins`: a verdict that joins others.
- `RequestField.codes`: the codes of a field, in the order in which they are reported.
- `ValidatesByField`: requests whose verdict is that of their fields.

## Main statements

- `RuleSet.validate_eq_ok_iff`: the runs of a rule set.
- `RequestField.errors_sublist`: a validator reports codes of its family, in order.
- `validatesByField_of_rules`: rules of distinct fields take a request field by field.
- `validate_joins_fields`: registration, login, phone verification and all built rule sets.
-/

namespace IdentityService

/-! ## §1 Built checks -/

/-- The checks that the validators, `notBlank` and `optional` build. -/
inductive BuiltCheck
  | email
  | password
  | phone (b : Phone.Bounds)
  | otp (b : Otp.Bounds)
  | age (minimum : Int) (today : Date)
  | notBlank (code : ErrorCode)
  | optional (inner : BuiltCheck)

namespace BuiltCheck

/-- A built check as it runs. -/
def run : BuiltCheck → FieldCheck
  | email => .email
  | password => .password
  | phone b => .phone b
  | otp b => .otp b
  | age minimum today => .age minimum today
  | notBlank code => .notBlank code
  | optional inner => .optional inner.run

/-- The verdict of a built check on a text, or on its absence. -/
def verdict : BuiltCheck → Option String → Verdict
  | email, s => Email.check s
  | password, s => Password.check s
  | phone b, s => Phone.check b s
  | otp b, s => Otp.check b s
  | age minimum today, s => Age.check minimum today (FieldInput.ofText? s).birthDate
  | notBlank code, none => .failure [code]
  | notBlank code, some s => if Text.isBlankText s then .failure [code] else .success
  | optional _, none => .success
  | optional inner, some s => inner.verdict (some s)

/-- **Texts.** A built check reads every text, and its absence. -/
theorem run_ofText? (c : BuiltCheck) (s : Option String) :
    c.run (.ofText? s) = .ok (c.verdict s) := by
  induction c with
  | optional inner ih =>
    cases s with
    | none => rfl
    | some s => exact ih
  | email | password | phone | otp | age | notBlank => cases s <;> rfl

theorem ofText_valid_iff {fault : Fault} {check : Option String → Verdict} {input : FieldInput}
    {w : Verdict} (hcheck : ∀ s, (check s).valid = true ↔ (check s).errors = [])
    (h : FieldCheck.ofText fault check input = .ok w) : w.valid = true ↔ w.errors = [] := by
  unfold FieldCheck.ofText at h
  split at h
  · rw [← Except.ok.inj h]
    exact hcheck _
  · cases h

theorem pieces_valid_iff {items : Outcome (List String)} {w : Verdict}
    (h : Password.checkPieces <$> items = .ok w) : w.valid = true ↔ w.errors = [] := by
  obtain ⟨texts, -, rfl⟩ := fmap_eq_ok_iff.mp h
  exact Verdict.ofErrors_valid_iff _

/-- **Validity.** Whatever a built check is run on, its verdict is valid iff it reports nothing. -/
theorem valid_iff (c : BuiltCheck) {input : FieldInput} {w : Verdict}
    (h : c.run input = .ok w) : w.valid = true ↔ w.errors = [] := by
  induction c with
  | email | phone | otp => exact ofText_valid_iff (fun _ => Verdict.ofErrors_valid_iff _) h
  | password =>
    -- a password may come in pieces
    simp only [run, FieldCheck.password] at h
    split at h
    · exact pieces_valid_iff h
    · exact pieces_valid_iff h
    · exact ofText_valid_iff (fun _ => Verdict.ofErrors_valid_iff _) h
  | age minimum today =>
    rw [← Except.ok.inj h]
    exact Verdict.ofErrors_valid_iff _
  | notBlank code =>
    rw [← Except.ok.inj h]
    split
    · simp [Verdict.failure]
    · split <;> simp [Verdict.failure, Verdict.success]
    · simp [Verdict.success]
  | optional inner ih =>
    simp only [run, FieldCheck.optional] at h
    split at h
    · rw [← Except.ok.inj h]
      simp [Verdict.success]
    · exact ih h

end BuiltCheck

/-! ## §2 Joined verdicts -/

/-- A verdict joins others: it reports what they report, in order, and is valid iff all of them
are, which is iff it reports nothing.  It raises an error iff it reports something, and the
error carries what it reports. -/
structure Verdict.Joins (v : Verdict) (parts : List Verdict) : Prop where
  errors : v.errors = parts.flatMap (·.errors)
  valid_iff_parts : v.valid = true ↔ ∀ w ∈ parts, w.valid = true
  valid_iff : v.valid = true ↔ v.errors = []
  raises_iff : v.raised?.isSome = true ↔ v.errors ≠ []
  carries : ∀ e, v.raised? = some e → e = .validation v.errors ∧
    e.reported = some (v.errors.map .code)

/-- Joining the codes joins the verdicts, when each of them is valid iff it reports nothing. -/
theorem Verdict.joins_ofErrors {parts : List Verdict}
    (hparts : ∀ w ∈ parts, (w.valid = true ↔ w.errors = [])) :
    (Verdict.ofErrors (parts.flatMap (·.errors))).Joins parts where
  errors := rfl
  valid_iff_parts := by
    rw [Verdict.ofErrors_valid_iff, List.flatMap_eq_nil_iff]
    exact forall₂_congr fun w hw => (hparts w hw).symm
  valid_iff := Verdict.ofErrors_valid_iff _
  raises_iff := by
    unfold Verdict.raised? Verdict.ofErrors
    cases parts.flatMap (·.errors) <;> simp
  carries := by
    intro e he
    unfold Verdict.raised? at he
    split at he
    · cases he
    · rw [← Option.some.inj he]
      exact ⟨rfl, rfl⟩

theorem Verdict.Joins.eq_ofErrors {v : Verdict} {parts : List Verdict} (h : v.Joins parts) :
    v = .ofErrors (parts.flatMap (·.errors)) := by
  have hvalid : v.valid = v.errors.isEmpty := by
    rw [Bool.eq_iff_iff, h.valid_iff, List.isEmpty_iff]
  rw [← h.errors, Verdict.ofErrors, ← hvalid]

/-! ## §3 Rule sets -/

namespace RuleSet

variable {payload : Payload} {rules : RuleSet}

/-- A run of rules, by the rules: the codes are those of the verdicts, one after the other. -/
theorem errors_eq_ok_iff {codes : List ErrorCode} :
    errors payload rules = .ok codes ↔ ∃ parts,
      List.Forall₂ (fun rule w => rule.check (payload rule.field) = .ok w) rules parts ∧
        codes = parts.flatMap (·.errors) := by
  induction rules generalizing codes with
  | nil =>
    simp only [errors, List.forall₂_nil_left_iff, exists_eq_left, List.flatMap_nil,
      Except.ok.injEq]
    exact eq_comm
  | cons rule rest ih =>
    constructor
    · intro h
      -- the first rule gives a verdict, and the others give theirs
      obtain ⟨w, hcheck, h⟩ := bind_eq_ok_iff.mp h
      obtain ⟨more, hrest, h⟩ := bind_eq_ok_iff.mp h
      obtain ⟨parts, hparts, rfl⟩ := ih.mp hrest
      exact ⟨w :: parts, .cons hcheck hparts, (Except.ok.inj h).symm⟩
    · rintro ⟨parts, hparts, rfl⟩
      cases hparts with
      | cons hcheck hrest =>
        rw [errors, hcheck, ih.mpr ⟨_, hrest, rfl⟩]
        rfl

/-- **Runs.** A rule set returns a verdict iff every rule does, and it is the join of theirs. -/
theorem validate_eq_ok_iff {v : Verdict} :
    rules.validate payload = .ok v ↔ ∃ parts,
      List.Forall₂ (fun rule w => rule.check (payload rule.field) = .ok w) rules parts ∧
        v = .ofErrors (parts.flatMap (·.errors)) := by
  rw [validate, fmap_eq_ok_iff]
  constructor
  · rintro ⟨codes, hcodes, rfl⟩
    obtain ⟨parts, hparts, rfl⟩ := errors_eq_ok_iff.mp hcodes
    exact ⟨parts, hparts, rfl⟩
  · rintro ⟨parts, hparts, rfl⟩
    exact ⟨_, errors_eq_ok_iff.mpr ⟨parts, hparts, rfl⟩, rfl⟩

theorem errors_append (more : RuleSet) : errors payload (rules ++ more) = (do
    let codes ← errors payload rules
    let others ← errors payload more
    .ok (codes ++ others)) := by
  induction rules with
  | nil =>
    rw [List.nil_append, errors, ok_bind]
    exact (bind_pure _).symm
  | cons rule rest ih =>
    rw [List.cons_append, errors, errors, ih]
    -- the same steps in the same order, in other brackets
    simp only [bind_assoc, ok_bind, List.append_assoc]

/-- **Concatenation.** Rules after rules report codes after codes, and the first fault wins. -/
theorem validate_append (more : RuleSet) : (rules ++ more).validate payload = (do
    let v ← rules.validate payload
    let w ← more.validate payload
    .ok (.ofErrors (v.errors ++ w.errors))) := by
  simp only [validate, errors_append]
  cases errors payload rules with
  | error fault => rfl
  | ok codes => cases errors payload more <;> rfl

end RuleSet

/-- Fields with built checks. -/
abbrev BuiltRules := List (String × BuiltCheck)

namespace BuiltRules

/-- Built rules as a rule set. -/
def toRuleSet (rules : BuiltRules) : RuleSet := rules.map fun r => ⟨r.1, r.2.run⟩

/-- The verdicts of built checks are valid iff they report nothing. -/
theorem valid_iff_of_run {rules : BuiltRules} {payload : Payload} {parts : List Verdict}
    (h : List.Forall₂ (fun r w => r.2.run (payload r.1) = .ok w) rules parts) :
    ∀ w ∈ parts, (w.valid = true ↔ w.errors = []) := by
  induction h with
  | nil => exact List.forall_mem_nil _
  | cons hcheck _ ih => exact List.forall_mem_cons.mpr ⟨BuiltCheck.valid_iff _ hcheck, ih⟩

/-- **Built rules.** They return a verdict iff every check reads the value of its field, and the
verdict joins those of the checks. -/
theorem validate_eq_ok_iff {rules : BuiltRules} {payload : Payload} {v : Verdict} :
    rules.toRuleSet.validate payload = .ok v ↔ ∃ parts,
      List.Forall₂ (fun r w => r.2.run (payload r.1) = .ok w) rules parts ∧ v.Joins parts := by
  rw [RuleSet.validate_eq_ok_iff, toRuleSet]
  simp only [List.forall₂_map_left_iff]
  refine exists_congr fun parts => and_congr_right fun hparts => ⟨?_, fun h => h.eq_ofErrors⟩
  rintro rfl
  exact Verdict.joins_ofErrors (valid_iff_of_run hparts)

/-- Built rules return a verdict when every field that they name holds a text or nothing. -/
theorem validate_texts {ι : Type} {fields : List ι} {text : ι → Option String}
    {payload : Payload} (rule : ι → String × BuiltCheck)
    (htext : ∀ i ∈ fields, payload (rule i).1 = .ofText? (text i)) :
    ∃ v, (toRuleSet (fields.map rule)).validate payload = .ok v ∧
      v.Joins (fields.map fun i => (rule i).2.verdict (text i)) := by
  have hrun : List.Forall₂ (fun r w => r.2.run (payload r.1) = .ok w) (fields.map rule)
      (fields.map fun i => (rule i).2.verdict (text i)) := by
    rw [List.forall₂_map_left_iff, List.forall₂_map_right_iff, List.forall₂_same]
    intro i hi
    rw [htext i hi]
    exact (rule i).2.run_ofText? _
  have hjoins := Verdict.joins_ofErrors (valid_iff_of_run hrun)
  exact ⟨_, validate_eq_ok_iff.mpr ⟨_, hrun, hjoins⟩, hjoins⟩

end BuiltRules

/-! ## §4 Fields and their codes -/

/-- The fields of requests. -/
inductive RequestField
  | name
  | email
  | password
  | phone
  | birthDate
  | otp
  deriving DecidableEq

namespace RequestField

/-- The name of a field in a payload. -/
def key : RequestField → String
  | name => "name"
  | email => "email"
  | password => "password"
  | phone => "phone"
  | birthDate => "birth_date"
  | otp => "otp"

/-- The codes of a field, in the order in which they are reported. -/
def codes : RequestField → List ErrorCode
  | name => [.nameBlank]
  | email => [.emailNull, .emailEmpty, .emailInvalid]
  | password =>
      [.passwordNull, .passwordEmpty, .passwordWhitespace, .passwordTooShort,
        .passwordUpperMissing, .passwordLowerMissing, .passwordDigitMissing,
        .passwordSpecialMissing]
  | phone =>
      [.phoneNull, .phoneEmpty, .phonePlusMissing, .phoneNonDigits, .phoneLeadingZero,
        .phoneTooShort, .phoneTooLong]
  | birthDate => [.dateFormat, .underage]
  | otp => [.otpBlank, .otpNonDigits, .otpWrongLength]

theorem codes_nodup (f : RequestField) : f.codes.Nodup := by
  cases f <;> decide

/-- A code identifies its field. -/
theorem eq_of_mem_codes {f g : RequestField} {code : ErrorCode} (hf : code ∈ f.codes)
    (hg : code ∈ g.codes) : f = g := by
  have hdisjoint : ∀ f g : RequestField, f ≠ g → ∀ code ∈ f.codes, code ∉ g.codes := by
    intro f g hne
    cases f <;> cases g <;> first | exact absurd rfl hne | decide
  exact Classical.byContradiction fun hne => hdisjoint f g hne code hf hg

/-- The check of a field. -/
def check (policy : Policy) (today : Date) : RequestField → BuiltCheck
  | name => .notBlank .nameBlank
  | email => .email
  | password => .password
  | phone => .phone policy.phone
  | birthDate => .age policy.minAge today
  | otp => .otp policy.otp

/-- The verdict of the validator of a field on a value. -/
def verdict (policy : Policy) (today : Date) (f : RequestField) : Option String → Verdict :=
  (f.check policy today).verdict

/-- The rules for fields, in order. -/
def rules (policy : Policy) (today : Date) (fields : List RequestField) : BuiltRules :=
  fields.map fun f => (f.key, f.check policy today)

end RequestField

/-! ### The codes of each validator -/

theorem Email.errors_sublist (s : Option String) :
    (Email.errors s).Sublist RequestField.email.codes := by
  unfold Email.errors
  split
  · decide
  · split
    · decide
    · split <;> decide

theorem Password.errors_sublist (s : Option String) :
    (Password.errors s).Sublist RequestField.password.codes := by
  unfold Password.errors
  split
  · decide
  · split
    · decide
    · split
      · decide
      · -- the strength rules are filtered, which keeps their order
        have hrules : (Password.strengthRules.map (·.code)).Sublist
            RequestField.password.codes := by decide
        exact (List.filter_sublist.map _).trans hrules

theorem Phone.clauseErrors_sublist (b : Phone.Bounds) (digits : List Char) :
    (Phone.clauseErrors b digits).Sublist
      [.phoneNonDigits, .phoneLeadingZero, .phoneTooShort, .phoneTooLong] := by
  rw [Phone.clauseErrors_eq_filter]
  exact List.filter_sublist

theorem Phone.errors_sublist (b : Phone.Bounds) (s : Option String) :
    (Phone.errors b s).Sublist RequestField.phone.codes := by
  unfold Phone.errors
  split
  · decide
  · split
    · decide
    · split
      · decide
      · split
        · decide
        · exact (Phone.clauseErrors_sublist b _).trans (by decide)

theorem Otp.errors_sublist (b : Otp.Bounds) (s : Option String) :
    (Otp.errors b s).Sublist RequestField.otp.codes := by
  unfold Otp.errors
  split
  · decide
  · split
    · decide
    · split <;> split <;> decide

theorem Age.errors_sublist (minimum : Int) (today : Date) (birth : BirthDate) :
    (Age.errors minimum today birth).Sublist RequestField.birthDate.codes := by
  unfold Age.errors
  split
  · decide
  · split <;> decide

/-- **Families.** The validator of a field reports codes of the field, in the order of the
family and none of them twice. -/
theorem RequestField.errors_sublist (policy : Policy) (today : Date) (f : RequestField)
    (s : Option String) : (f.verdict policy today s).errors.Sublist f.codes := by
  cases f with
  | name =>
    cases s with
    | none => exact List.Sublist.refl _
    | some s =>
      unfold verdict check BuiltCheck.verdict
      split <;> decide
  | email => exact Email.errors_sublist s
  | password => exact Password.errors_sublist s
  | phone => exact Phone.errors_sublist policy.phone s
  | birthDate => exact Age.errors_sublist policy.minAge today _
  | otp => exact Otp.errors_sublist policy.otp s

/-! ## §5 Taking a verdict apart -/

/-- The part of a verdict that is about a field. -/
def Verdict.part (v : Verdict) (f : RequestField) : Verdict :=
  .ofErrors (v.errors.filter (· ∈ f.codes))

/-- A verdict on fields, each of which has a verdict of its own: the codes are in the order of
the fields and of their families, none of them stands twice, each comes from the one field that
it identifies, and the part about a field is the verdict of its own. -/
structure Verdict.Attributed (v : Verdict) (fields : List RequestField)
    (own : RequestField → Verdict) : Prop where
  ordered : v.errors.Sublist (fields.flatMap (·.codes))
  nodup : v.errors.Nodup
  owner : ∀ code ∈ v.errors, ∃ f ∈ fields, code ∈ (own f).errors ∧
    ∀ g : RequestField, code ∈ g.codes ↔ g = f
  part : ∀ f ∈ fields, v.part f = own f

/-- Families of distinct fields have no code in common. -/
theorem RequestField.flatMap_codes_nodup {fields : List RequestField} (h : fields.Nodup) :
    (fields.flatMap (·.codes)).Nodup := by
  rw [List.nodup_flatMap]
  refine ⟨fun f _ => f.codes_nodup, h.imp ?_⟩
  intro f g hne code hf hg
  exact hne (eq_of_mem_codes hf hg)

/-- Selecting the codes of a field from lists over distinct fields finds the list of the field. -/
theorem RequestField.filter_flatMap_codes {own : RequestField → List ErrorCode}
    (hown : ∀ f, (own f).Sublist f.codes) {fields : List RequestField} (hnodup : fields.Nodup)
    {f : RequestField} (hf : f ∈ fields) :
    (fields.flatMap own).filter (· ∈ f.codes) = own f := by
  have hself : (own f).filter (· ∈ f.codes) = own f := by
    rw [List.filter_eq_self]
    intro code hcode
    exact decide_eq_true ((hown f).subset hcode)
  have hother : ∀ g, g ≠ f → (own g).filter (· ∈ f.codes) = [] := by
    intro g hne
    rw [List.filter_eq_nil_iff]
    intro code hcode hmem
    exact hne (eq_of_mem_codes ((hown g).subset hcode) (of_decide_eq_true hmem))
  -- what stands before and after the field has nothing of its family
  obtain ⟨before, after, rfl⟩ := List.append_of_mem hf
  have hsides : ∀ g ∈ before ++ after, (own g).filter (· ∈ f.codes) = [] := by
    intro g hg
    apply hother
    rintro rfl
    exact (List.nodup_middle.mp hnodup).notMem hg
  rw [List.forall_mem_append] at hsides
  rw [List.flatMap_append, List.flatMap_cons, List.filter_append, List.filter_append, hself,
    List.filter_flatMap, List.filter_flatMap, List.flatMap_eq_nil_iff.mpr hsides.1,
    List.flatMap_eq_nil_iff.mpr hsides.2, List.nil_append, List.append_nil]

/-- **Attribution.** A verdict that joins those of distinct fields can be taken apart. -/
theorem Verdict.Joins.attributed {v : Verdict} {fields : List RequestField}
    {own : RequestField → Verdict} (h : v.Joins (fields.map own)) (hnodup : fields.Nodup)
    (hown : ∀ f, (own f).errors.Sublist f.codes)
    (hvalid : ∀ f, (own f).valid = true ↔ (own f).errors = []) : v.Attributed fields own where
  ordered := by
    rw [h.errors, List.flatMap_map]
    exact List.Sublist.flatMap_right fields fun f _ => hown f
  nodup := by
    rw [h.errors, List.flatMap_map]
    apply List.Nodup.sublist _ (RequestField.flatMap_codes_nodup hnodup)
    exact List.Sublist.flatMap_right fields fun f _ => hown f
  owner := by
    intro code hcode
    rw [h.errors, List.flatMap_map, List.mem_flatMap] at hcode
    obtain ⟨f, hf, hcode⟩ := hcode
    have hfamily := (hown f).subset hcode
    refine ⟨f, hf, hcode, fun g => ⟨fun hg => RequestField.eq_of_mem_codes hg hfamily, ?_⟩⟩
    rintro rfl
    exact hfamily
  part := by
    intro f hf
    have hflag : (own f).valid = (own f).errors.isEmpty := by
      rw [Bool.eq_iff_iff, hvalid f, List.isEmpty_iff]
    rw [Verdict.part, h.errors, List.flatMap_map,
      RequestField.filter_flatMap_codes hown hnodup hf, Verdict.ofErrors, ← hflag]

/-! ## §6 Requests -/

/-- Requests of a kind are validated field by field: each gets a verdict, which joins those of
the validators on the values of the fields and can be taken apart again; and the part about a
field is the same for any two requests that agree on the field. -/
structure ValidatesByField {R : Type} (fields : List RequestField)
    (own : RequestField → Option String → Verdict) (value : R → RequestField → Option String)
    (validate : R → Outcome Verdict) : Prop where
  returns : ∀ r, ∃ v, validate r = .ok v ∧ v.Joins (fields.map fun f => own f (value r f)) ∧
    v.Attributed fields fun f => own f (value r f)
  independent : ∀ r r' v v', validate r = .ok v → validate r' = .ok v' →
    ∀ f ∈ fields, value r f = value r' f → v.part f = v'.part f

/-- **Rules of distinct fields.** They take requests of texts field by field. -/
theorem validatesByField_of_rules {R : Type} {fields : List RequestField} (policy : Policy)
    (today : Date) {value : R → RequestField → Option String} {payload : R → Payload}
    (hnodup : fields.Nodup) (hvalue : ∀ r f, payload r f.key = .ofText? (value r f)) :
    ValidatesByField fields (RequestField.verdict policy today) value fun r =>
      (RequestField.rules policy today fields).toRuleSet.validate (payload r) := by
  have hreturns : ∀ r, ∃ v,
      (RequestField.rules policy today fields).toRuleSet.validate (payload r) = .ok v ∧
        v.Joins (fields.map fun f => f.verdict policy today (value r f)) ∧
          v.Attributed fields fun f => f.verdict policy today (value r f) := by
    intro r
    obtain ⟨v, hv, hjoins⟩ := BuiltRules.validate_texts
      (fun f : RequestField => (f.key, f.check policy today)) fun f _ => hvalue r f
    refine ⟨v, hv, hjoins, hjoins.attributed hnodup ?_ ?_⟩
    · intro f
      exact f.errors_sublist policy today _
    · intro f
      exact (f.check policy today).valid_iff ((f.check policy today).run_ofText? _)
  refine ⟨hreturns, ?_⟩
  -- each of the two parts is the verdict on the value that the requests agree on
  intro r r' v v' hv hv' f hf hsame
  obtain ⟨_, hw, -, hw_attributed⟩ := hreturns r
  obtain ⟨_, hw', -, hw'_attributed⟩ := hreturns r'
  cases hv.symm.trans hw
  cases hv'.symm.trans hw'
  rw [hw_attributed.part f hf, hw'_attributed.part f hf, hsame]

/-- The fields of a registration, in the order of its rules. -/
def RegisterRequest.fields : List RequestField := [.name, .email, .password, .phone, .birthDate]

/-- The value of a field of a registration. -/
def RegisterRequest.value (r : RegisterRequest) : RequestField → Option String
  | .name => r.name
  | .email => r.email
  | .password => r.password
  | .phone => r.phone
  | .birthDate => r.birthDate
  | .otp => none

/-- The fields of a login, in the order of its rules. -/
def LoginRequest.fields : List RequestField := [.email, .password]

/-- The value of a field of a login. -/
def LoginRequest.value (r : LoginRequest) : RequestField → Option String
  | .email => r.email
  | .password => r.password
  | _ => none

/-- The fields of a phone verification, in the order of its rules. -/
def VerifyPhoneRequest.fields : List RequestField := [.phone, .otp]

/-- The value of a field of a phone verification. -/
def VerifyPhoneRequest.value (r : VerifyPhoneRequest) : RequestField → Option String
  | .phone => r.phone
  | .otp => r.otp
  | _ => none

theorem RegisterRequest.validatesByField (policy : Policy) (today : Date) :
    ValidatesByField fields (RequestField.verdict policy today) value fun r =>
      r.validate policy today := by
  apply validatesByField_of_rules policy today (by decide)
  intro r f
  cases f <;> rfl

theorem LoginRequest.validatesByField (policy : Policy) (today : Date) :
    ValidatesByField fields (RequestField.verdict policy today) value validate := by
  apply validatesByField_of_rules policy today (by decide)
  intro r f
  cases f <;> rfl

theorem VerifyPhoneRequest.validatesByField (policy : Policy) (today : Date) :
    ValidatesByField fields (RequestField.verdict policy today) value fun r =>
      r.validate policy := by
  apply validatesByField_of_rules policy today (by decide)
  intro r f
  cases f <;> rfl

/-- **Validation joins fields.** Registrations, logins and phone verifications are validated
field by field, under every policy and on every day.  Built rules after built rules report codes
after codes on every payload; they return a verdict iff every check reads its value, as it does
read texts, and the verdict joins those of the checks. -/
theorem validate_joins_fields :
    (∀ (policy : Policy) (today : Date),
      ValidatesByField RegisterRequest.fields (RequestField.verdict policy today)
          RegisterRequest.value (fun r => r.validate policy today) ∧
        ValidatesByField LoginRequest.fields (RequestField.verdict policy today)
          LoginRequest.value LoginRequest.validate ∧
        ValidatesByField VerifyPhoneRequest.fields (RequestField.verdict policy today)
          VerifyPhoneRequest.value (fun r => r.validate policy)) ∧
    (∀ (rules more : BuiltRules) (payload : Payload),
      (rules ++ more).toRuleSet.validate payload = (do
        let v ← rules.toRuleSet.validate payload
        let w ← more.toRuleSet.validate payload
        .ok (.ofErrors (v.errors ++ w.errors)))) ∧
    (∀ (rules : BuiltRules) (payload : Payload) (v : Verdict),
      rules.toRuleSet.validate payload = .ok v ↔ ∃ parts,
        List.Forall₂ (fun r w => r.2.run (payload r.1) = .ok w) rules parts ∧ v.Joins parts) ∧
    (∀ (rules : BuiltRules) (text : String → Option String),
      ∃ v, rules.toRuleSet.validate (fun name => .ofText? (text name)) = .ok v ∧
        v.Joins (rules.map fun r => r.2.verdict (text r.1))) := by
  refine ⟨fun policy today => ⟨RegisterRequest.validatesByField policy today,
    LoginRequest.validatesByField policy today,
    VerifyPhoneRequest.validatesByField policy today⟩, ?_, ?_, ?_⟩
  · intro rules more payload
    rw [BuiltRules.toRuleSet, List.map_append]
    exact RuleSet.validate_append _
  · intro rules payload v
    exact BuiltRules.validate_eq_ok_iff
  · intro rules text
    have htexts := @BuiltRules.validate_texts _ rules (fun r => text r.1)
      (fun name => .ofText? (text name)) id fun r _ => rfl
    rwa [List.map_id] at htexts

/-- An empty registration is refused once for each field, in the order of its rules. -/
example (policy : Policy) (today : Date) :
    RegisterRequest.validate ⟨none, none, none, none, none⟩ policy today =
      .ok (.failure [.nameBlank, .emailNull, .passwordNull, .phoneNull, .dateFormat]) := by
  rfl

end IdentityService
