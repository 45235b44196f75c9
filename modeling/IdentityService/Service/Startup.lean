import IdentityService.Provider.Handle
import IdentityService.Service.Settings
import IdentityService.Text.UpperCase

/-!
# Startup

What must be in order before the first request: a known log level, a secret for session tokens,
and a provider.  The first thing that is not in order ends the startup.
-/

namespace IdentityService.Startup

/-- The names of log levels, with the name under which each level is reported. -/
def logLevels : List (String × String) :=
  [("CRITICAL", "CRITICAL"), ("FATAL", "CRITICAL"), ("ERROR", "ERROR"), ("WARN", "WARNING"),
    ("WARNING", "WARNING"), ("INFO", "INFO"), ("DEBUG", "DEBUG"), ("NOTSET", "NOTSET")]

/-- The log level with a name in any case. -/
def logLevel (name : String) : Outcome String :=
  let name := Text.upper name
  match logLevels.find? (·.1 == name) with
  | some l => .ok l.2
  | none => .error (.badValue (some ("Unknown level: " ++ Text.quoted name)))

/-- The provider after the startup: it is initialized unless it already was. -/
def ensureProvider {κ : Type} (s : ServiceSettings) (slot : ProviderSlot κ)
    (connect : ProviderSettings → Outcome κ) : Outcome (ProviderSlot κ) :=
  if slot.isInitialized then .ok slot
  else do
    let settings ← s.providerSettings
    match slot.fill settings connect with
    | (.ok _, slot) => .ok slot
    | (.error f, _) => .error f

/-- The log level and the provider after the startup. -/
def run {κ : Type} (s : ServiceSettings) (slot : ProviderSlot κ)
    (connect : ProviderSettings → Outcome κ) : Outcome (String × ProviderSlot κ) := do
  let level ← logLevel s.logLevel
  let _ ← s.sessionService
  let slot ← ensureProvider s slot connect
  .ok (level, slot)

end IdentityService.Startup
