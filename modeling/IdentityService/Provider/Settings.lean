import IdentityService.Schema.Field

/-!
# Provider Settings

What is needed to reach the identity provider: where its credential lies, which project
is served, and how long a verification may take.
-/

namespace IdentityService

/-- The settings of the identity provider. -/
structure ProviderSettings where
  credentialPath : String
  projectId : String
  timeout : Binary64
  deriving DecidableEq, Repr

namespace ProviderSettings

/-- The usual time limit of a verification, in seconds. -/
def usualTimeout : Binary64 := .ofInt 5

/-- Reads settings from a record; the time limit must be positive. -/
def read (fs : Fields) : Checked ProviderSettings :=
  mk <$> Schema.required fs "credential_source" Schema.plainText
    <*> Schema.required fs "project_id" Schema.plainText
    <*> Schema.withDefault fs "timeout_seconds" usualTimeout Schema.positiveFraction

/-- Settings as a record. -/
def toJson (s : ProviderSettings) : Json :=
  .object [("credential_source", .text s.credentialPath), ("project_id", .text s.projectId),
    ("timeout_seconds", .fraction s.timeout)]

end ProviderSettings

end IdentityService
