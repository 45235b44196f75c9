import IdentityService.Http.ErrorReply
import IdentityService.Http.Reply
import IdentityService.Provider.Verification
import IdentityService.Session.Settings
import IdentityService.Validation.Request

/-!
# The Catalogue of Records

Every record that the service exchanges, by name.  Most are fixed once they are made; the rest
take a new value for a field they have, without a check.
-/

namespace IdentityService

/-- A kind of record. -/
structure RecordKind where
  name : String
  isFixed : Bool
  /-- Checks a record and fills in its defaults. -/
  read : Fields → Checked Json

namespace RecordKind

/-- A kind of record from how it is read and written. -/
def of {α : Type} (name : String) (isFixed : Bool) (read : Fields → Checked α)
    (toJson : α → Json) : RecordKind :=
  ⟨name, isFixed, fun fs => toJson <$> read fs⟩

/-- Gives a field of a record a new value. -/
def assign (k : RecordKind) (record : Fields) (field : String) (value : Json) : Outcome Fields :=
  if k.isFixed then .error (.issues [⟨[.field field], .frozen⟩])
  else if record.has field then .ok (record.set field value)
  else
    .error (.badValue (some ("\"" ++ k.name ++ "\" object has no field \"" ++ field ++ "\"")))

/-- Every kind of record. -/
def all : List RecordKind :=
  [of "Principal" true Principal.read (·.toJson),
    of "TokenSubject" true TokenSubject.read (·.toJson),
    of "SessionClaims" true SessionClaims.read (·.toJson),
    of "JWTPayload" false SessionPayload.read (·.toJson),
    of "JwtSettings" true SessionSettings.read (·.toJson),
    of "ProviderSettings" true ProviderSettings.read (·.toJson),
    of "VerificationSuccess" true VerificationResult.readSuccess (·.toJson),
    of "VerificationFailure" true VerificationResult.readFailure (·.toJson),
    of "IdentityRecord" true IdentityRecord.read (·.toJson),
    of "SyncResult" true SyncResult.read (·.toJson),
    of "IdentitySummary" false IdentitySummary.read (·.toJson),
    of "SyncProfileResponse" false SyncReply.read (·.toJson),
    of "AuthResponse" false SessionReply.read (·.toJson),
    of "ValidationOutcome" true Verdict.read (·.toJson),
    of "ValidationPolicy" true Policy.read (·.toJson),
    of "RegisterRequest" false RegisterRequest.read (·.toJson),
    of "LoginRequest" false LoginRequest.read (·.toJson),
    of "VerifyPhoneRequest" false VerifyPhoneRequest.read (·.toJson),
    of "ErrorResponse" false ErrorBody.read (·.toJson),
    of "ValidationErrorResponse" false ValidationBody.read (·.toJson),
    of "SessionUserResponse" false SessionUser.read (·.toJson),
    of "HealthResponse" false HealthReply.read (·.toJson),
    of "ReadinessResponse" false ReadinessReply.read (·.toJson)]

/-- The kind of record with a name. -/
def named? (name : String) : Option RecordKind := all.find? (·.name == name)

end RecordKind

end IdentityService
