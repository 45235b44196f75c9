import IdentityService.Fault.Fault
import IdentityService.Schema.Field

/-!
# Principals

The verified identity that a provider token asserts for one request, and how it is
read from the claims of the provider.  Its strings are taken from the claims as they
are, also when they spell no text.
-/

namespace IdentityService

/-- The identity that a provider token asserts. -/
structure Principal where
  subject : RawText
  email : Option RawText
  phone : Option RawText
  emailVerified : Bool
  claims : Fields

namespace Principal

/-! ## §1 Records -/

/-- Reads a principal from a record. -/
def read (fs : Fields) : Checked Principal :=
  mk <$> Schema.required fs "subject_id" Schema.text
    <*> Schema.withDefault fs "email" none (Schema.optional Schema.text)
    <*> Schema.withDefault fs "phone_number" none (Schema.optional Schema.text)
    <*> Schema.withDefault fs "email_verified" false Schema.flag
    <*> Schema.withDefault fs "raw_claims" [] Schema.object

/-- A principal as a record. -/
def toJson (p : Principal) : Json :=
  .object [("subject_id", .raw p.subject), ("email", .ofRaw? p.email),
    ("phone_number", .ofRaw? p.phone), ("email_verified", .bool p.emailVerified),
    ("raw_claims", .object p.claims)]

/-! ## §2 Claims -/

/-- Why claims yield no principal. -/
inductive ClaimsFault
  | subjectMissing
  | shape
  deriving DecidableEq, Repr

/-- The cause in words. -/
def ClaimsFault.message : ClaimsFault → String
  | subjectMissing => "Identity claims are missing a subject"
  | shape => "Identity claims have an unexpected shape:"

/-- The subject that claims name, if it is a string that is not empty. -/
def claimedSubject? (claims : Fields) : Option RawText := do
  let s ← (← claims.get? "sub").raw?
  if s.isEmpty then none else some s

/-- A claim that may be left out: every empty value counts as none. -/
def optionalClaim (claims : Fields) (name : String) : Checked (Option RawText) :=
  match claims.get? name with
  | some v => Schema.optional Schema.text v.orNull
  | none => .ok none

/-- Whether claims call the email verified: any value that is not empty does. -/
def claimsVerified (claims : Fields) : Bool :=
  match claims.get? "email_verified" with
  | some v => !v.isEmptyValue
  | none => false

/-- The principal of a claim object. -/
def ofClaims (claims : Fields) : Except ClaimsFault Principal :=
  match claimedSubject? claims with
  | none => .error .subjectMissing
  | some subject =>
      match optionalClaim claims "email", optionalClaim claims "phone_number" with
      | .ok email, .ok phone => .ok ⟨subject, email, phone, claimsVerified claims, claims⟩
      | _, _ => .error .shape

end Principal

end IdentityService
