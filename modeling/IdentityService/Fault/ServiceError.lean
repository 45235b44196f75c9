import IdentityService.Fault.ErrorCode
import IdentityService.Json.Display

/-!
# Service Errors

The errors the service raises on purpose.  Each has a kind, and the kinds form a
tree: whoever handles a kind handles the kinds below it.
-/

namespace IdentityService

/-! ## §1 Kinds -/

/-- A kind of service error.  `refinement` makes a new kind below another. -/
inductive ErrorKind
  | service
  | config
  | notFound
  | validation
  | authentication
  | authorization
  | conflict
  | externalService
  | missingToken
  | tokenExpired
  | tokenInvalid
  | identityVerification
  | insufficientPermissions
  | alreadyInitialized
  | providerNotInitialized
  | provider
  | providerTokenRejected
  | providerUnavailable
  | identityConflict
  | missingEmail
  | identityNotFound
  | identityStore
  | refinement (name : String) (parent : ErrorKind)
  deriving DecidableEq, Repr

namespace ErrorKind

/-- The kinds that have no parameters. -/
def named : List ErrorKind :=
  [service, config, notFound, validation, authentication, authorization, conflict,
    externalService, missingToken, tokenExpired, tokenInvalid, identityVerification,
    insufficientPermissions, alreadyInitialized, providerNotInitialized, provider,
    providerTokenRejected, providerUnavailable, identityConflict, missingEmail,
    identityNotFound, identityStore]

/-- The name under which a kind is reported. -/
def label : ErrorKind → String
  | service => "ErosError"
  | config => "ConfigError"
  | notFound => "NotFoundError"
  | validation => "ValidationError"
  | authentication => "AuthenticationError"
  | authorization => "AuthorizationError"
  | conflict => "ConflictError"
  | externalService => "ExternalServiceError"
  | missingToken => "MissingTokenError"
  | tokenExpired => "TokenExpiredError"
  | tokenInvalid => "TokenInvalidError"
  | identityVerification => "IdentityVerificationError"
  | insufficientPermissions => "InsufficientPermissionsError"
  | alreadyInitialized => "AlreadyInitializedError"
  | providerNotInitialized => "ProviderNotInitializedError"
  | provider => "ProviderError"
  | providerTokenRejected => "ProviderTokenRejectedError"
  | providerUnavailable => "ProviderUnavailableError"
  | identityConflict => "IdentityConflictError"
  | missingEmail => "MissingEmailError"
  | identityNotFound => "IdentityNotFoundError"
  | identityStore => "IdentityStoreError"
  | refinement name _ => name

/-- A kind and the kinds above it, nearest first. -/
def lineage : ErrorKind → List ErrorKind
  | service => [service]
  | config => [config, service]
  | notFound => [notFound, service]
  | validation => [validation, service]
  | authentication => [authentication, service]
  | authorization => [authorization, service]
  | conflict => [conflict, service]
  | externalService => [externalService, service]
  | missingToken => [missingToken, authentication, service]
  | tokenExpired => [tokenExpired, authentication, service]
  | tokenInvalid => [tokenInvalid, authentication, service]
  | identityVerification => [identityVerification, authentication, service]
  | insufficientPermissions => [insufficientPermissions, authorization, service]
  | alreadyInitialized => [alreadyInitialized, config, service]
  | providerNotInitialized => [providerNotInitialized, config, service]
  | provider => [provider, service]
  | providerTokenRejected => [providerTokenRejected, provider, service]
  | providerUnavailable => [providerUnavailable, provider, service]
  | identityConflict => [identityConflict, conflict, service]
  | missingEmail => [missingEmail, validation, service]
  | identityNotFound => [identityNotFound, notFound, service]
  | identityStore => [identityStore, externalService, service]
  | refinement name parent => refinement name parent :: lineage parent

/-- Whether a kind is another kind or lies below it. -/
def isA (k other : ErrorKind) : Bool := k.lineage.contains other

end ErrorKind

/-! ## §2 Errors -/

/-- An entry of a validation error: a code, a member of another enumeration, or any other
value. -/
inductive Reported
  | code (c : ErrorCode)
  | member (value : Json)
  | other (v : Json)
  deriving DecidableEq

/-- What reports an entry: a member of an enumeration stands for its value, and any other value
for its text. -/
def Reported.entry : Reported → Json
  | code c => .text c.name
  | member value => value
  | other v => .raw v.toRaw

/-- An entry as a value. -/
def Reported.toJson : Reported → Json
  | code c => .text c.name
  | member value => value
  | other v => v

/-- A service error.  The message and the code are texts by convention only: whoever raises an
error may pass any value.  The last four fields are set for the kinds that carry them. -/
structure ServiceError where
  kind : ErrorKind
  messageValue : Json
  codeValue : Json
  details : Fields
  reason : Option String
  subject : Option String
  service : Option String
  reported : Option (List Reported)
  deriving DecidableEq

namespace ServiceError

/-- The message in words. -/
def message (e : ServiceError) : String := e.messageValue.display

/-- The code in words. -/
def code (e : ServiceError) : String := e.codeValue.display

/-- An error with a message, a code and details; an empty code is replaced by the name of the
kind. -/
def plain (kind : ErrorKind) (message : String) (code : String) (details : Fields) :
    ServiceError :=
  ⟨kind, .text message, .text (if code.isEmpty then kind.label else code), details, none, none,
    none, none⟩

/-! ## §3 Errors by cause -/

/-- Required configuration is missing or unusable. -/
def config (message : String) : ServiceError := plain .config message "CONFIG_ERROR" []

/-- Validation failed with a list of entries, in order. -/
def validationOf (kind : ErrorKind) (entries : List Reported) (message : String) : ServiceError :=
  { plain kind message "VALIDATION_FAILED" [("errors", .array (entries.map (·.entry)))] with
    reported := some entries }

/-- Validation failed with a list of codes, in order. -/
def validation (codes : List ErrorCode) : ServiceError :=
  validationOf .validation (codes.map .code) "Request validation failed"

/-- An external service failed. -/
def externalOf (kind : ErrorKind) (message service code : String) (details : Fields) :
    ServiceError :=
  { plain kind message code (details.set "service" (.text service)) with service := some service }

/-- No token was provided. -/
def missingTokenWith (message : String) : ServiceError :=
  plain .missingToken message ErrorCode.tokenMissing.name []

/-- No token was provided, in the usual words. -/
def missingToken : ServiceError := missingTokenWith "Authentication required"

/-- A session token has expired. -/
def tokenExpiredWith (message : String) : ServiceError :=
  plain .tokenExpired message ErrorCode.tokenExpired.name []

/-- A session token has expired, in the usual words. -/
def tokenExpired : ServiceError := tokenExpiredWith "Authentication token has expired"

/-- A session token is malformed, forged or meant for someone else. -/
def tokenInvalid (message : String) : ServiceError :=
  plain .tokenInvalid message ErrorCode.tokenInvalid.name []

/-- An identity token could not be verified, for a reason that callers do not see. -/
def identityVerificationWith (reason message : String) : ServiceError :=
  { plain .identityVerification message ErrorCode.identityVerificationFailed.name [] with
    reason := some reason }

/-- An identity token could not be verified, in the usual words. -/
def identityVerification (reason : String) : ServiceError :=
  identityVerificationWith reason "Identity token verification failed"

/-- A session lacks a required role. -/
def insufficientPermissions (role : String) (roles : List RawText) : ServiceError :=
  plain .insufficientPermissions ("Insufficient permissions. Required: " ++ role)
    ErrorCode.insufficientPermissions.name
    [("required_role", .text role), ("roles", .ofRaws roles)]

/-- The identity provider is initialized a second time. -/
def alreadyInitializedWith (message : String) : ServiceError :=
  plain .alreadyInitialized message "ALREADY_INITIALIZED" []

/-- The identity provider is initialized a second time, in the usual words. -/
def alreadyInitialized : ServiceError :=
  alreadyInitializedWith "Identity provider is already initialized"

/-- The identity provider is used before it is initialized. -/
def providerNotInitializedWith (message : String) : ServiceError :=
  plain .providerNotInitialized message "PROVIDER_NOT_INITIALIZED" []

/-- The identity provider is used before it is initialized, in the usual words. -/
def providerNotInitialized : ServiceError :=
  providerNotInitializedWith "Identity provider has not been initialized"

/-- The provider rejected a token. -/
def providerTokenRejected (message : String) (details : Fields) : ServiceError :=
  plain .providerTokenRejected message "PROVIDER_TOKEN_REJECTED" details

/-- The provider could not be reached, or failed for the moment. -/
def providerUnavailable (message : String) (details : Fields) : ServiceError :=
  plain .providerUnavailable message "PROVIDER_UNAVAILABLE" details

/-- An email or a phone number belongs to another subject. -/
def identityConflict (field : String) : ServiceError :=
  let code := if field == "phone" then ErrorCode.identityPhoneTaken else .identityEmailTaken
  { plain .identityConflict code.message code.name [("field", .text field)] with
    subject := some field }

/-- A verified principal carries no email. -/
def missingEmail : ServiceError :=
  validationOf .missingEmail [.code .identityEmailRequired]
    ErrorCode.identityEmailRequired.message

/-- No identity has been stored for a subject. -/
def identityNotFound (subject : RawText) : ServiceError :=
  plain .identityNotFound ErrorCode.identityNotFound.message ErrorCode.identityNotFound.name
    [("user_id", .raw subject)]

/-- The identity store failed for no known reason. -/
def identityStore (message : String) (details : Fields) : ServiceError :=
  externalOf .identityStore message "identity-store" "IDENTITY_STORE_ERROR" details

/-! ## §4 Report -/

/-- The report of an error. -/
def toJson (e : ServiceError) : Json :=
  .object [("error", e.codeValue), ("message", e.messageValue), ("details", .object e.details)]

end ServiceError

end IdentityService
