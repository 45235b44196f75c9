import IdentityService.Directory.Directory
import IdentityService.Provider.Verification
import IdentityService.Service.Settings

/-!
# Assembling the Service

Settings, the access to the remote store, the provider and the container of services are the
parts of a running service.  Each is made when it is first asked for and kept until it is reset;
what could not be made is tried again the next time.  Objects are numbered as they are made, so
that two objects can be told apart.

## Main definitions

- `Container`: the services made so far.
- `Assembly`: the parts of a running service.
- `Assembly.sessions`, `Assembly.verifier`, `Assembly.repository`, `Assembly.synchronizer`: the
  services of the container.
-/

namespace IdentityService

/-! ## §1 Objects -/

/-- An object with its number. -/
structure Numbered (α : Type) where
  number : Nat
  value : α

/-- The services made so far. -/
structure Container where
  sessions : Option (Numbered SessionService)
  verifier : Option (Numbered Verifier)
  repository : Option (Numbered Directory)
  synchronizer : Option (Numbered Synchronizer)

/-- No services yet. -/
def Container.empty : Container := ⟨none, none, none, none⟩

/-- The parts of a running service. -/
structure Assembly where
  environment : Environment
  settings : Option (Numbered ServiceSettings)
  remote : Option (Numbered RemoteAccess)
  provider : ProviderSlot (Numbered ProviderClient)
  container : Option (Numbered Container)
  /-- The number of the next object. -/
  next : Nat
  /-- Every access to the remote store made so far. -/
  opened : List RemoteAccess

namespace Assembly

/-- A service of which no part is made yet, in an environment. -/
def start (environment : Environment) : Assembly := ⟨environment, none, none, none, none, 0, []⟩

/-- Gives what is kept, or makes it and keeps it under the next number. -/
def once {α : Type} (kept : Assembly → Option (Numbered α)) (make : StoreStep Assembly α)
    (keep : Assembly → Numbered α → Assembly) : StoreStep Assembly (Numbered α) := fun p =>
  match kept p with
  | some a => (.ok a, p)
  | none =>
      match make p with
      | (.error f, p) => (.error f, p)
      | (.ok a, p) =>
          let a : Numbered α := ⟨p.next, a⟩
          (.ok a, keep { p with next := p.next + 1 } a)

/-! ## §2 Settings and the remote store -/

/-- The settings, read from the environment once. -/
def currentSettings : StoreStep Assembly (Numbered ServiceSettings) :=
  once (·.settings) (fun p => (ServiceSettings.load p.environment none, p))
    fun p s => { p with settings := some s }

/-- What the settings say. -/
def fromSettings {α : Type} (f : ServiceSettings → Outcome α) : StoreStep Assembly α :=
  currentSettings.andThen fun s => .ofOutcome (f s.value)

/-- Notes an access to the remote store. -/
def noteAccess (a : RemoteAccess) : StoreStep Assembly RemoteAccess := fun p =>
  (.ok a, { p with opened := p.opened ++ [a] })

/-- The access to the remote store. -/
def remoteAccess : StoreStep Assembly (Numbered RemoteAccess) :=
  once (·.remote) ((fromSettings ServiceSettings.remoteAccess).andThen noteAccess)
    fun p a => { p with remote := some a }

/-! ## §3 The container -/

/-- The container. -/
def currentContainer : StoreStep Assembly (Numbered Container) :=
  once (·.container) (.ofOutcome (.ok .empty)) fun p c => { p with container := some c }

/-- Changes the container, if there is one. -/
def mapContainer (p : Assembly) (f : Container → Container) : Assembly :=
  { p with container := p.container.map fun c => { c with value := f c.value } }

/-- A service of the container. -/
def service {α : Type} (kept : Container → Option (Numbered α)) (make : StoreStep Assembly α)
    (keep : Container → Numbered α → Container) : StoreStep Assembly (Numbered α) :=
  currentContainer.andThen fun _ =>
    once (fun p => p.container.bind fun c => kept c.value) make
      fun p a => p.mapContainer fun c => keep c a

/-- The service of session tokens. -/
def sessions : StoreStep Assembly (Numbered SessionService) :=
  service (·.sessions) (fromSettings ServiceSettings.sessionService)
    fun c a => { c with sessions := some a }

/-- The verifier of provider tokens; the provider must be initialized. -/
def verifier : StoreStep Assembly (Numbered Verifier) :=
  service (·.verifier)
    (fun p => (p.provider.handle.map fun h => ⟨h.client.value, h.timeout⟩, p))
    fun c a => { c with verifier := some a }

/-- A new directory of the kind that the settings name. -/
def newDirectory : StoreStep Assembly Directory :=
  (fromSettings fun s => .ok s.store).andThen fun kind =>
    match kind with
    | .memory => .ofOutcome (.ok (.memory .empty))
    | .remote => remoteAccess.andThen fun _ => .ofOutcome (.ok (.remote (.start [])))

/-- The repository of identity rows. -/
def repository : StoreStep Assembly (Numbered Directory) :=
  service (·.repository) newDirectory fun c a => { c with repository := some a }

/-- The synchronizer over the repository. -/
def synchronizer : StoreStep Assembly (Numbered Synchronizer) :=
  service (·.synchronizer)
    (repository.andThen fun _ => fromSettings fun s => .ok s.synchronizer)
    fun c a => { c with synchronizer := some a }

/-- Lets the synchronizer act on the repository. -/
def synchronize {α : Type} (act : Synchronizer → StoreStep Directory α) : StoreStep Assembly α :=
  synchronizer.andThen fun s =>
    repository.andThen fun d => fun p =>
      let (r, directory) := act s.value d.value
      (r, p.mapContainer fun c => { c with repository := some { d with value := directory } })

/-! ## §4 The provider -/

/-- Initializes the provider with a client. -/
def fillProvider (settings : ProviderSettings) (client : ProviderClient) :
    StoreStep Assembly (Numbered (ProviderHandle (Numbered ProviderClient))) := fun p =>
  match p.provider.fill settings fun _ => .ok ⟨p.next, client⟩ with
  | (.error f, _) => (.error f, p)
  | (.ok h, slot) => (.ok ⟨h.client.number, h⟩, { p with provider := slot, next := p.next + 1 })

/-! ## §5 Resets -/

/-- Forgets the services of the container. -/
def resetServices (p : Assembly) : Assembly := p.mapContainer fun _ => .empty

/-- Forgets the container. -/
def resetContainer (p : Assembly) : Assembly := { p with container := none }

/-- Forgets the settings. -/
def clearSettings (p : Assembly) : Assembly := { p with settings := none }

/-- Forgets the access to the remote store. -/
def resetRemote (p : Assembly) : Assembly := { p with remote := none }

/-- Forgets the provider. -/
def resetProvider (p : Assembly) : Assembly := { p with provider := none }

end Assembly

end IdentityService
