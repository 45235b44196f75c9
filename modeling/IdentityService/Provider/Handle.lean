import IdentityService.Provider.Settings
import IdentityService.Fault.Fault
import IdentityService.Text.Blank
import IdentityService.Text.LowerCase

/-!
# The Provider Handle

The identity provider is initialized once: a second initialization fails instead of
replacing the credentials in use.  The handle is kept in a slot, which is empty before the
initialization and after a reset.

## Main definitions

- `ProviderSlot.fill`: fills an empty slot.
- `ProviderSlot.handle`: the handle, which must be there.
-/

namespace IdentityService

/-! ## §1 Handles -/

/-- The initialized provider, with a client of any kind. -/
structure ProviderHandle (κ : Type) where
  projectId : String
  client : κ
  timeout : Binary64
  deriving DecidableEq, Repr

/-- The place of the one handle. -/
abbrev ProviderSlot (κ : Type) := Option (ProviderHandle κ)

/-! ## §2 Project identifiers -/

namespace ProjectId

/-- Identifiers that stand in templates and name no project. -/
def placeholders : List String :=
  ["your-project-id", "your_project_id", "project-id", "changeme", "change-me", "placeholder",
    "example", "todo"]

/-- An identifier without the blanks around it; one of blanks alone and a placeholder in any
case are refused. -/
def check (projectId : String) : Outcome String :=
  let cleaned := Text.strip projectId
  if cleaned.isEmpty then
    .error (.service (.config
      "Identity provider project ID must not be blank. Set IDENTITY_PROVIDER_PROJECT_ID."))
  else if placeholders.contains (Text.lower cleaned) then
    .error (.service (.config
      ("Identity provider project ID is a placeholder value: " ++ Text.quoted cleaned)))
  else .ok cleaned

end ProjectId

/-! ## §3 The slot -/

namespace ProviderSlot

variable {κ : Type}

/-- No provider yet. -/
def empty : ProviderSlot κ := none

/-- Whether there is a handle. -/
def isInitialized (slot : ProviderSlot κ) : Bool := slot.isSome

/-- The handle, which must be there. -/
def handle : ProviderSlot κ → Outcome (ProviderHandle κ)
  | some h => .ok h
  | none => .error (.service .providerNotInitialized)

/-- The handle that an initialization would put into a slot.  The identifier is checked first,
then the slot must be empty, and only then is the client made. -/
def prepare (slot : ProviderSlot κ) (settings : ProviderSettings)
    (connect : ProviderSettings → Outcome κ) : Outcome (ProviderHandle κ) := do
  let projectId ← ProjectId.check settings.projectId
  if slot.isInitialized then .error (.service .alreadyInitialized)
  else do
    let client ← connect settings
    .ok ⟨projectId, client, settings.timeout⟩

/-- Initializes the provider; a failed initialization leaves the slot as it was. -/
def fill (slot : ProviderSlot κ) (settings : ProviderSettings)
    (connect : ProviderSettings → Outcome κ) : Outcome (ProviderHandle κ) × ProviderSlot κ :=
  match slot.prepare settings connect with
  | .ok h => (.ok h, some h)
  | .error f => (.error f, slot)

/-- Forgets the handle. -/
def reset (_ : ProviderSlot κ) : ProviderSlot κ := none

/-- What an initialization leaves in the journal. -/
def fillJournal : Outcome (ProviderHandle κ) → List JournalLine
  | .ok h => [⟨.provider, .info, "Identity provider initialized for project: " ++ h.projectId⟩]
  | .error _ => []

end ProviderSlot

end IdentityService
