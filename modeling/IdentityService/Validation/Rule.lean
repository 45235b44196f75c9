import IdentityService.Validation.Age
import IdentityService.Validation.Email
import IdentityService.Validation.Otp
import IdentityService.Validation.Password
import IdentityService.Validation.Phone

/-!
# Rules over Fields

A rule binds a field of a payload to a check.  Every rule of a rule set runs, whatever
the rules before it reported, and the errors are joined in the order of the rules.

## Main definitions

- `FieldInput`: a value as a payload holds it.
- `FieldCheck`: a check of one value.
- `RuleSet.validate`: the verdict on a payload.
-/

namespace IdentityService

/-! ## §1 Inputs and checks -/

/-- A value of a payload: a JSON value, or a date or moment that is already one. -/
inductive FieldInput
  | json (v : Json)
  | date (d : Date)
  | moment (m : Moment)

namespace FieldInput

/-- The value of an absent field. -/
def absent : FieldInput := json .null

/-- Whether a value is null. -/
def isNull : FieldInput → Bool
  | json .null => true
  | _ => false

/-- The value as an optional text, if it is one. -/
def optionalText? : FieldInput → Option (Option String)
  | json .null => some none
  | json (.text s) => some (some s)
  | _ => none

/-- The value as a birth date. -/
def birthDate : FieldInput → BirthDate
  | json (.text s) => .text s
  | json _ => .other
  | date d => .date d
  | moment m => .moment m

end FieldInput

/-- A check of one value; a value of a type that it cannot read is a fault. -/
abbrev FieldCheck := FieldInput → Outcome Verdict

/-- A payload: the value of every field, null when there is none. -/
abbrev Payload := String → FieldInput

namespace FieldCheck

/-- A check of optional texts; any other value is the given fault. -/
def ofText (fault : Fault) (check : Option String → Verdict) : FieldCheck := fun input =>
  match input.optionalText? with
  | some s => .ok (check s)
  | none => .error fault

/-- The email check. -/
def email : FieldCheck := ofText .wrongType Email.check

/-- The texts of a list up to the first blank one; anything else among them is a fault. -/
def pieces : List Json → Outcome (List String)
  | [] => .ok []
  | .text s :: rest =>
      if Password.isBlankPiece s then .ok [s] else (s :: ·) <$> pieces rest
  | _ :: _ => .error .absentMember

/-- The password check.  The items of an array and the names in an object are pieces of a
password. -/
def password : FieldCheck
  | .json (.array items) => Password.checkPieces <$> pieces items
  | .json (.object fields) => Password.checkPieces <$> pieces (fields.map fun f => .text f.1)
  | input => ofText .wrongType Password.check input

/-- The phone check. -/
def phone (b : Phone.Bounds) : FieldCheck := ofText .absentMember (Phone.check b)

/-- The check of one-time passwords. -/
def otp (b : Otp.Bounds) : FieldCheck := ofText .absentMember (Otp.check b)

/-- The check of a minimum age. -/
def age (minimum : Int) (today : Date) : FieldCheck := fun input =>
  .ok (Age.check minimum today input.birthDate)

/-- Refuses null and blank texts with a code. -/
def notBlank (code : ErrorCode) : FieldCheck := fun input =>
  .ok (match input with
    | .json .null => .failure [code]
    | .json (.text s) => if Text.isBlankText s then .failure [code] else .success
    | _ => .success)

/-- Lets null pass and checks every other value. -/
def optional (check : FieldCheck) : FieldCheck := fun input =>
  if input.isNull then .ok .success else check input

end FieldCheck

/-! ## §2 Rule sets -/

/-- A field and the check of its value. -/
structure FieldRule where
  field : String
  check : FieldCheck

/-- Rules in order. -/
abbrev RuleSet := List FieldRule

namespace RuleSet

/-- The errors of all rules, joined. -/
def errors (payload : Payload) : RuleSet → Outcome (List ErrorCode)
  | [] => .ok []
  | rule :: rest => do
      let verdict ← rule.check (payload rule.field)
      let more ← errors payload rest
      .ok (verdict.errors ++ more)

/-- The verdict on a payload. -/
def validate (rules : RuleSet) (payload : Payload) : Outcome Verdict :=
  Verdict.ofErrors <$> errors payload rules

end RuleSet

end IdentityService
