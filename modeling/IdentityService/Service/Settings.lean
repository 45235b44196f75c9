import IdentityService.Directory.Synchronizer
import IdentityService.Json.Reader
import IdentityService.Provider.Settings
import IdentityService.Service.EnvironmentFile
import IdentityService.Session.Token

/-!
# Service Settings

All settings of the service, read from the environment and from an environment file.  Names
are compared without regard to case, the environment wins over the file, and what neither
gives keeps its default.  Settings that are lists are written as JSON.

## Main definitions

- `ServiceSettings.load`: the settings of an environment.
- `ServiceSettings.sessionService`: the token service that settings describe.
- `ServiceSettings.providerSettings`: the provider that settings describe.
-/

namespace IdentityService

/-! ## §1 Groups of settings -/

/-- What may be asked from other origins. -/
structure CrossOriginPolicy where
  origins : List String
  credentials : Bool
  methods : List String
  headers : List String
  deriving DecidableEq, Repr

/-- How session tokens are signed, with their lifetime in days. -/
structure SigningOptions where
  secret : String
  issuer : String
  audience : String
  realm : String
  expiryDays : Int
  deriving DecidableEq, Repr

/-- Where identity rows are kept. -/
inductive StoreKind
  | remote
  | memory
  deriving DecidableEq, Repr

/-- The name of a store in settings. -/
def StoreKind.text : StoreKind → String
  | remote => "supabase"
  | memory => "memory"

/-- The access to the remote store. -/
structure RemoteAccess where
  url : String
  key : String
  deriving DecidableEq, Repr

/-- All settings of the service. -/
structure ServiceSettings where
  name : String
  version : String
  debug : Bool
  logLevel : String
  host : String
  port : Int
  reload : Bool
  crossOrigin : CrossOriginPolicy
  signing : SigningOptions
  provider : ProviderSettings
  store : StoreKind
  remote : RemoteAccess
  policy : Policy
  deriving DecidableEq, Repr

/-! ## §2 Records -/

/-- Reads a policy for other origins from a record. -/
def CrossOriginPolicy.read (fs : Fields) : Checked CrossOriginPolicy :=
  mk <$> Schema.withDefault fs "cors_origins" ["http://localhost:5173", "http://localhost:3000"]
      (Schema.list Schema.plainText)
    <*> Schema.withDefault fs "cors_allow_credentials" true Schema.flag
    <*> Schema.withDefault fs "cors_allow_methods" ["*"] (Schema.list Schema.plainText)
    <*> Schema.withDefault fs "cors_allow_headers" ["*"] (Schema.list Schema.plainText)

/-- Reads signing options from a record. -/
def SigningOptions.read (fs : Fields) : Checked SigningOptions :=
  mk <$> Schema.withDefault fs "jwt_secret" "" Schema.plainText
    <*> Schema.withDefault fs "jwt_issuer" (SessionSettings.usual "").issuer Schema.plainText
    <*> Schema.withDefault fs "jwt_audience" (SessionSettings.usual "").audience Schema.plainText
    <*> Schema.withDefault fs "jwt_realm" (SessionSettings.usual "").realm Schema.plainText
    <*> Schema.withDefault fs "jwt_expiry_days" 7 Schema.integer

namespace ServiceSettings

/-- Reads the provider settings from a record.  The time limit is not yet checked. -/
def readProvider (fs : Fields) : Checked ProviderSettings :=
  ProviderSettings.mk
    <$> Schema.withDefault fs "identity_provider_credentials_path" "" Schema.plainText
    <*> Schema.withDefault fs "identity_provider_project_id" "" Schema.plainText
    <*> Schema.withDefault fs "identity_provider_timeout_seconds" ProviderSettings.usualTimeout
      Schema.fraction

/-- Reads the kind of store from a record. -/
def readStore (fs : Fields) : Checked StoreKind :=
  Schema.withDefault fs "identity_store" .remote
    (Schema.oneOf .notAnOption [(StoreKind.remote.text, .remote), (StoreKind.memory.text, .memory)])

/-- Reads the access to the remote store from a record. -/
def readRemote (fs : Fields) : Checked RemoteAccess :=
  RemoteAccess.mk <$> Schema.withDefault fs "supabase_url" "" Schema.plainText
    <*> Schema.withDefault fs "supabase_service_role_key" "" Schema.plainText

/-- Reads settings from a record. -/
def read (fs : Fields) : Checked ServiceSettings :=
  mk <$> Schema.withDefault fs "app_name" "Eros Identity API" Schema.plainText
    <*> Schema.withDefault fs "app_version" "0.1.0" Schema.plainText
    <*> Schema.withDefault fs "debug" false Schema.flag
    <*> Schema.withDefault fs "log_level" "INFO" Schema.plainText
    <*> Schema.withDefault fs "host" "0.0.0.0" Schema.plainText
    <*> Schema.withDefault fs "port" 8000 Schema.integer
    <*> Schema.withDefault fs "reload" false Schema.flag
    <*> CrossOriginPolicy.read fs
    <*> SigningOptions.read fs
    <*> readProvider fs
    <*> readStore fs
    <*> readRemote fs
    <*> Policy.read fs

/-- Settings as a record. -/
def toJson (s : ServiceSettings) : Json :=
  .object ([("app_name", .text s.name), ("app_version", .text s.version), ("debug", .bool s.debug),
    ("log_level", .text s.logLevel), ("host", .text s.host), ("port", .int s.port),
    ("reload", .bool s.reload), ("cors_origins", .ofTexts s.crossOrigin.origins),
    ("cors_allow_credentials", .bool s.crossOrigin.credentials),
    ("cors_allow_methods", .ofTexts s.crossOrigin.methods),
    ("cors_allow_headers", .ofTexts s.crossOrigin.headers),
    ("jwt_secret", .text s.signing.secret), ("jwt_issuer", .text s.signing.issuer),
    ("jwt_audience", .text s.signing.audience), ("jwt_realm", .text s.signing.realm),
    ("jwt_expiry_days", .int s.signing.expiryDays),
    ("identity_provider_credentials_path", .text s.provider.credentialPath),
    ("identity_provider_project_id", .text s.provider.projectId),
    ("identity_provider_timeout_seconds", .fraction s.provider.timeout),
    ("identity_store", .text s.store.text), ("supabase_url", .text s.remote.url),
    ("supabase_service_role_key", .text s.remote.key)]
    ++ (s.policy.toJson.object?.getD []))

/-! ## §3 Sources -/

/-- Where settings come from. -/
inductive Source
  | environment
  | file
  deriving DecidableEq, Repr

/-- The name of a source in messages. -/
def Source.label : Source → String
  | environment => "EnvSettingsSource"
  | file => "DotEnvSettingsSource"

/-- The settings that are single values. -/
def plainNames : List String :=
  ["app_name", "app_version", "debug", "log_level", "host", "port", "reload",
    "cors_allow_credentials", "jwt_secret", "jwt_issuer", "jwt_audience", "jwt_realm",
    "jwt_expiry_days", "identity_provider_credentials_path", "identity_provider_project_id",
    "identity_provider_timeout_seconds", "identity_store", "supabase_url",
    "supabase_service_role_key", "min_age", "otp_min_length", "otp_max_length",
    "phone_min_digits", "phone_max_digits"]

/-- The settings that are lists. -/
def listNames : List String := ["cors_origins", "cors_allow_methods", "cors_allow_headers"]

/-- The value of a setting in a source: its last binding in any case. -/
def valueOf? (bs : List EnvironmentFile.Binding) (name : String) : Option String :=
  (EnvironmentFile.lastValue? name (bs.map fun (n, v) => (Text.lower n, v))).join

/-- A setting that is a single value, as a field. -/
def plainField (bs : List EnvironmentFile.Binding) (name : String) : Fields :=
  match valueOf? bs name with
  | some v => [(name, .text v)]
  | none => []

/-- A setting that is a list, as a field; null counts as absent. -/
def listField (source : Source) (bs : List EnvironmentFile.Binding) (name : String) :
    Outcome Fields :=
  match valueOf? bs name with
  | none => .ok []
  | some v =>
      match Json.ofString v with
      | .error .unreadable =>
          .error (.badSetting ("error parsing value for field \"" ++ name ++ "\" from source \""
            ++ source.label ++ "\""))
      | .error .tooDeep => .error .tooDeep
      | .ok .null => .ok []
      | .ok value => .ok [(name, value)]

/-- The settings that a source gives. -/
def given (source : Source) (bs : List EnvironmentFile.Binding) : Outcome Fields := do
  let lists ← listNames.mapM (listField source bs)
  .ok (plainNames.flatMap (plainField bs) ++ lists.flatten)

/-- The settings of an environment, with the text of an environment file if there is one. -/
def load (environment : Environment) (file : Option String) : Outcome ServiceSettings := do
  let outer ← given .environment (environment.map fun (n, v) => (n, some v))
  let inner ← match file with
    | some text => given .file (EnvironmentFile.resolved environment text)
    | none => .ok []
  (read (Assoc.update inner outer)).outcome

/-! ## §4 Services -/

/-- The settings of session tokens; the lifetime must be representable. -/
def sessionSettings (s : ServiceSettings) : Outcome SessionSettings :=
  let expiry := Duration.ofDays s.signing.expiryDays
  if expiry.isRepresentable then
    .ok ⟨s.signing.secret, s.signing.issuer, s.signing.audience, s.signing.realm, expiry⟩
  else .error .overflow

/-- The service of session tokens. -/
def sessionService (s : ServiceSettings) : Outcome SessionService := do
  SessionService.ofSettings (← s.sessionSettings)

/-- The settings of the provider; the time limit must be positive. -/
def providerSettings (s : ServiceSettings) : Outcome ProviderSettings :=
  (ProviderSettings.read (s.provider.toJson.object?.getD [])).outcome

/-- The synchronizer. -/
def synchronizer (s : ServiceSettings) : Synchronizer := ⟨s.policy⟩

/-- The access to the remote store, which must be configured. -/
def remoteAccess (s : ServiceSettings) : Outcome RemoteAccess :=
  if s.remote.url.isEmpty || s.remote.key.isEmpty then
    .error (.runtime ("Supabase configuration missing. "
      ++ "Set SUPABASE_URL and SUPABASE_SERVICE_ROLE_KEY environment variables."))
  else .ok s.remote

end ServiceSettings

end IdentityService
