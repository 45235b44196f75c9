import IdentityService.Directory.Record
import IdentityService.Session.Claims

/-!
# Replies

What the routes answer when they succeed.
-/

namespace IdentityService

/-! ## §1 Identities -/

/-- The reply to a synchronization. -/
structure SyncReply where
  user : IdentitySummary
  isNewUser : Bool
  deriving DecidableEq, Repr

namespace SyncReply

/-- Reads a reply from a record. -/
def read (fs : Fields) : Checked SyncReply :=
  mk <$> Schema.required fs "user" (Schema.record IdentitySummary.read)
    <*> Schema.required fs "is_new_user" Schema.flag

/-- A reply as a record. -/
def toJson (r : SyncReply) : Json :=
  .object [("user", r.user.toJson), ("is_new_user", .bool r.isNewUser)]

end SyncReply

/-- The reply to the exchange of a provider token for a session token. -/
structure SessionReply where
  accessToken : String
  tokenType : String
  expiresIn : Int
  user : IdentitySummary
  deriving DecidableEq, Repr

namespace SessionReply

/-- The type of every token issued. -/
def bearer : String := "Bearer"

/-- Reads a reply from a record. -/
def read (fs : Fields) : Checked SessionReply :=
  mk <$> Schema.required fs "access_token" Schema.plainText
    <*> Schema.withDefault fs "token_type" bearer Schema.plainText
    <*> Schema.required fs "expires_in" Schema.integer
    <*> Schema.required fs "user" (Schema.record IdentitySummary.read)

/-- A reply as a record. -/
def toJson (r : SessionReply) : Json :=
  .object [("access_token", .text r.accessToken), ("token_type", .text r.tokenType),
    ("expires_in", .int r.expiresIn), ("user", r.user.toJson)]

end SessionReply

/-! ## §2 Sessions -/

/-- The caller as described by a session token. -/
structure SessionUser where
  id : String
  email : RawText
  roles : List RawText
  issuedAt : Moment
  expiresAt : Moment
  deriving DecidableEq, Repr

namespace SessionUser

/-- The caller with these claims. -/
def ofClaims (c : SessionClaims) : SessionUser :=
  ⟨c.subject, c.email, c.roles, c.issuedAt, c.expiresAt⟩

/-- Reads a caller from a record. -/
def read (fs : Fields) : Checked SessionUser :=
  mk <$> Schema.required fs "id" Schema.plainText
    <*> Schema.required fs "email" Schema.text
    <*> Schema.required fs "roles" (Schema.list Schema.text)
    <*> Schema.required fs "issued_at" Schema.moment
    <*> Schema.required fs "expires_at" Schema.moment

/-- A caller as a record, with a given spelling of moments. -/
def toJsonWith (spell : Moment → String) (u : SessionUser) : Json :=
  .object [("id", .text u.id), ("email", .raw u.email), ("roles", .ofRaws u.roles),
    ("issued_at", .text (spell u.issuedAt)), ("expires_at", .text (spell u.expiresAt))]

/-- A caller as a record. -/
def toJson (u : SessionUser) : Json := u.toJsonWith (·.isoText)

/-- A caller as the body of a response. -/
def toBody (u : SessionUser) : Json := u.toJsonWith (·.bodyText)

end SessionUser

/-! ## §3 Health -/

/-- Whether the service runs. -/
structure HealthReply where
  status : String
  version : String
  deriving DecidableEq, Repr

namespace HealthReply

/-- The reply of a running service. -/
def healthy (version : String) : HealthReply := ⟨"healthy", version⟩

/-- Reads a reply from a record. -/
def read (fs : Fields) : Checked HealthReply :=
  mk <$> Schema.required fs "status" Schema.plainText
    <*> Schema.required fs "version" Schema.plainText

/-- A reply as a record. -/
def toJson (r : HealthReply) : Json :=
  .object [("status", .text r.status), ("version", .text r.version)]

end HealthReply

/-- Whether the service is ready for requests. -/
structure ReadinessReply where
  status : String
  provider : String
  deriving DecidableEq, Repr

namespace ReadinessReply

/-- A service is ready once the provider is initialized. -/
def ofProvider (isInitialized : Bool) : ReadinessReply :=
  if isInitialized then ⟨"ready", "initialized"⟩ else ⟨"not_ready", "uninitialized"⟩

/-- Reads a reply from a record. -/
def read (fs : Fields) : Checked ReadinessReply :=
  mk <$> Schema.required fs "status" Schema.plainText
    <*> Schema.required fs "identity_provider" Schema.plainText

/-- A reply as a record. -/
def toJson (r : ReadinessReply) : Json :=
  .object [("status", .text r.status), ("identity_provider", .text r.provider)]

end ReadinessReply

end IdentityService
