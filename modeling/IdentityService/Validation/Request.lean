import IdentityService.Validation.Policy

/-!
# Requests

Requests as they arrive.  Every field may be absent, so that null, empty and malformed
input all reach the checks and get codes of their own.
-/

namespace IdentityService

/-- A field of a request as an input. -/
def FieldInput.ofText? (s : Option String) : FieldInput := .json (.ofText? s)

/-- The text fields of a record, null when absent. -/
private def optionalField (fs : Fields) (name : String) : Checked (Option String) :=
  Schema.withDefault fs name none (Schema.optional Schema.plainText)

/-! ## §1 Registration -/

/-- A request to register a user. -/
structure RegisterRequest where
  email : Option String
  password : Option String
  phone : Option String
  name : Option String
  birthDate : Option String
  deriving DecidableEq, Repr

namespace RegisterRequest

/-- Reads a request from a record. -/
def read (fs : Fields) : Checked RegisterRequest :=
  mk <$> optionalField fs "email" <*> optionalField fs "password" <*> optionalField fs "phone"
    <*> optionalField fs "name" <*> optionalField fs "birth_date"

/-- A request as a record. -/
def toJson (r : RegisterRequest) : Json :=
  .object [("email", .ofText? r.email), ("password", .ofText? r.password),
    ("phone", .ofText? r.phone), ("name", .ofText? r.name),
    ("birth_date", .ofText? r.birthDate)]

/-- The rules, in the order in which they are reported. -/
def rules (policy : Policy) (today : Date) : RuleSet :=
  [⟨"name", .notBlank .nameBlank⟩, ⟨"email", .email⟩, ⟨"password", .password⟩,
    ⟨"phone", .phone policy.phone⟩, ⟨"birth_date", .age policy.minAge today⟩]

/-- The fields of a request. -/
def payload (r : RegisterRequest) : Payload
  | "email" => .ofText? r.email
  | "password" => .ofText? r.password
  | "phone" => .ofText? r.phone
  | "name" => .ofText? r.name
  | "birth_date" => .ofText? r.birthDate
  | _ => .absent

/-- The verdict on a request. -/
def validate (r : RegisterRequest) (policy : Policy) (today : Date) : Outcome Verdict :=
  (rules policy today).validate r.payload

end RegisterRequest

/-! ## §2 Login -/

/-- A request to log in. -/
structure LoginRequest where
  email : Option String
  password : Option String
  deriving DecidableEq, Repr

namespace LoginRequest

/-- Reads a request from a record. -/
def read (fs : Fields) : Checked LoginRequest :=
  mk <$> optionalField fs "email" <*> optionalField fs "password"

/-- A request as a record. -/
def toJson (r : LoginRequest) : Json :=
  .object [("email", .ofText? r.email), ("password", .ofText? r.password)]

/-- The rules, in the order in which they are reported. -/
def rules : RuleSet := [⟨"email", .email⟩, ⟨"password", .password⟩]

/-- The fields of a request. -/
def payload (r : LoginRequest) : Payload
  | "email" => .ofText? r.email
  | "password" => .ofText? r.password
  | _ => .absent

/-- The verdict on a request. -/
def validate (r : LoginRequest) : Outcome Verdict := rules.validate r.payload

end LoginRequest

/-! ## §3 Phone verification -/

/-- A request to verify a phone number. -/
structure VerifyPhoneRequest where
  phone : Option String
  otp : Option String
  deriving DecidableEq, Repr

namespace VerifyPhoneRequest

/-- Reads a request from a record. -/
def read (fs : Fields) : Checked VerifyPhoneRequest :=
  mk <$> optionalField fs "phone" <*> optionalField fs "otp"

/-- A request as a record. -/
def toJson (r : VerifyPhoneRequest) : Json :=
  .object [("phone", .ofText? r.phone), ("otp", .ofText? r.otp)]

/-- The rules, in the order in which they are reported. -/
def rules (policy : Policy) : RuleSet := [⟨"phone", .phone policy.phone⟩, ⟨"otp", .otp policy.otp⟩]

/-- The fields of a request. -/
def payload (r : VerifyPhoneRequest) : Payload
  | "phone" => .ofText? r.phone
  | "otp" => .ofText? r.otp
  | _ => .absent

/-- The verdict on a request. -/
def validate (r : VerifyPhoneRequest) (policy : Policy) : Outcome Verdict :=
  (rules policy).validate r.payload

end VerifyPhoneRequest

end IdentityService
