import IdentityService.Schema.Field
import IdentityService.Json.Display

/-!
# Session Settings

The signing configuration of session tokens.
-/

namespace IdentityService

/-- The signing configuration. -/
structure SessionSettings where
  secret : String
  issuer : String
  audience : String
  realm : String
  expiry : Duration
  deriving DecidableEq, Repr

namespace SessionSettings

/-- The usual configuration with a secret. -/
def usual (secret : String) : SessionSettings :=
  ⟨secret, "eros-backend", "eros-users", "eros-api", .ofDays 7⟩

/-- Reads settings from a record. -/
def read (fs : Fields) : Checked SessionSettings :=
  mk <$> Schema.required fs "secret" Schema.plainText
    <*> Schema.withDefault fs "issuer" (usual "").issuer Schema.plainText
    <*> Schema.withDefault fs "audience" (usual "").audience Schema.plainText
    <*> Schema.withDefault fs "realm" (usual "").realm Schema.plainText
    <*> Schema.withDefault fs "expiry" (usual "").expiry Schema.duration

/-- A duration as a record of days, seconds and microseconds. -/
def durationJson (d : Duration) : Json :=
  .object [("days", .int d.days), ("seconds", .int d.secondOfDay),
    ("microseconds", .int d.fraction)]

/-- Settings as a record. -/
def toJson (s : SessionSettings) : Json :=
  .object [("secret", .text s.secret), ("issuer", .text s.issuer),
    ("audience", .text s.audience), ("realm", .text s.realm), ("expiry", durationJson s.expiry)]

/-- The parts of a duration that are not zero, by name. -/
def durationParts (d : Duration) : String :=
  let parts := [("days", d.days), ("seconds", d.secondOfDay), ("microseconds", d.fraction)]
  let shown := (parts.filter (·.2 != 0)).map fun p => p.1 ++ "=" ++ (Json.int p.2).render
  if shown.isEmpty then "0" else ", ".intercalate shown

/-- The settings in one line, without the secret. -/
def summary (s : SessionSettings) : String :=
  "JwtSettings(issuer=" ++ Text.quoted s.issuer ++ ", audience=" ++ Text.quoted s.audience
    ++ ", realm=" ++ Text.quoted s.realm
    ++ ", expiry=datetime.timedelta(" ++ durationParts s.expiry ++ "))"

end SessionSettings

end IdentityService
