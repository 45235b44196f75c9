import IdentityService.Session.Role
import IdentityService.Schema.Field
import IdentityService.Fault.Fault

/-!
# Subjects and Claims

What a session token is issued for, what its payload carries, and what its
verification yields.  A subject is a text, because its length is checked; an email and a
role are any strings.

## Main definitions

- `TokenSubject`: the user for whom a token is issued.
- `SessionPayload`: the claims as they stand in a token.
- `SessionClaims`: the verified claims.
-/

namespace IdentityService

/-! ## §1 Subjects -/

/-- The user for whom a token is issued.  The subject is never empty. -/
structure TokenSubject where
  subject : String
  email : RawText
  roles : List RawText
  subject_ne : subject ≠ ""
  deriving DecidableEq, Repr

namespace TokenSubject

/-- The roles of a user for whom none are given. -/
def usualRoles : List RawText := [Role.user.text]

/-- A subject from its parts. -/
def ofParts (subject email : RawText) (roles : List RawText) : Checked TokenSubject :=
  match subject with
  | .text s =>
      if h : s = "" then .faulty [⟨[.field "subject"], .textTooShort⟩] else .ok ⟨s, email, roles, h⟩
  | .broken _ => .faulty [⟨[.field "subject"], .textMalformed⟩]

/-- Reads a subject from a record. -/
def read (fs : Fields) : Checked TokenSubject :=
  match (fun subject email roles => (subject, email, roles))
    <$> Schema.required fs "subject" Schema.nonEmptyText
    <*> Schema.required fs "email" Schema.text
    <*> Schema.withDefault fs "roles" usualRoles (Schema.list Schema.text) with
  | .ok (subject, email, roles) => ofParts subject email roles
  | .faulty is => .faulty is
  | .overflow => .overflow

/-- A subject as a record. -/
def toJson (s : TokenSubject) : Json :=
  .object [("subject", .text s.subject), ("email", .raw s.email), ("roles", .ofRaws s.roles)]

end TokenSubject

/-! ## §2 Payloads -/

/-- The claims as they stand in a token. -/
structure SessionPayload where
  sub : String
  email : RawText
  roles : List RawText
  iat : Int
  exp : Int
  iss : String
  aud : String
  deriving DecidableEq, Repr

namespace SessionPayload

/-- Reads a payload from a record. -/
def read (fs : Fields) : Checked SessionPayload :=
  mk <$> Schema.required fs "sub" Schema.nonEmptyText
    <*> Schema.required fs "email" Schema.text
    <*> Schema.withDefault fs "roles" [] (Schema.list Schema.text)
    <*> Schema.required fs "iat" Schema.integer
    <*> Schema.required fs "exp" Schema.integer
    <*> Schema.required fs "iss" Schema.plainText
    <*> Schema.required fs "aud" Schema.plainText

/-- The fields of a payload in the order of a token. -/
def fields (p : SessionPayload) : Fields :=
  [("sub", .text p.sub), ("email", .raw p.email), ("roles", .ofRaws p.roles),
    ("iat", .int p.iat), ("exp", .int p.exp), ("iss", .text p.iss), ("aud", .text p.aud)]

/-- A payload as a record. -/
def toJson (p : SessionPayload) : Json := .object p.fields

end SessionPayload

/-! ## §3 Verified claims -/

/-- The claims of a verified token. -/
structure SessionClaims where
  subject : String
  email : RawText
  roles : List RawText
  issuedAt : Moment
  expiresAt : Moment
  issuer : String
  audience : String
  deriving DecidableEq, Repr

namespace SessionClaims

/-- Reads claims from a record. -/
def read (fs : Fields) : Checked SessionClaims :=
  mk <$> Schema.required fs "subject" Schema.plainText
    <*> Schema.required fs "email" Schema.text
    <*> Schema.required fs "roles" (Schema.list Schema.text)
    <*> Schema.required fs "issued_at" Schema.moment
    <*> Schema.required fs "expires_at" Schema.moment
    <*> Schema.required fs "issuer" Schema.plainText
    <*> Schema.required fs "audience" Schema.plainText

/-- Claims as a record. -/
def toJson (c : SessionClaims) : Json :=
  .object [("subject", .text c.subject), ("email", .raw c.email), ("roles", .ofRaws c.roles),
    ("issued_at", .text c.issuedAt.isoText), ("expires_at", .text c.expiresAt.isoText),
    ("issuer", .text c.issuer), ("audience", .text c.audience)]

/-- The user to whom the claims belong. -/
def toSubject (c : SessionClaims) : Checked TokenSubject :=
  TokenSubject.ofParts c.subject c.email c.roles

/-- Whether the claims carry a role. -/
def hasRole (c : SessionClaims) (r : Role) : Bool := r.isAmong c.roles

/-- Whether the claims carry the role that a free text names. -/
def hasRoleNamed (c : SessionClaims) (name : String) : Bool := Role.isNamedAmong name c.roles

end SessionClaims

end IdentityService
