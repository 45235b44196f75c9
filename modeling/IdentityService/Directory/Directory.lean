import IdentityService.Directory.Memory
import IdentityService.Directory.Remote

/-!
# The Directory

The store in use: rows in memory, or a session with the remote side.
-/

namespace IdentityService

/-- The state of the store in use. -/
inductive Directory
  | memory (m : Memory)
  | remote (s : Remote.Session)

namespace Directory

/-- Lets an operation on memory act on the directory. -/
def onMemory {α : Type} (m : Memory) (step : StoreStep Memory α) : Outcome α × Directory :=
  let (r, m) := step m
  (r, memory m)

/-- Lets an operation on a session act on the directory. -/
def onRemote {α : Type} (s : Remote.Session) (step : StoreStep Remote.Session α) :
    Outcome α × Directory :=
  let (r, s) := step s
  (r, remote s)

/-- An operation on the store in use. -/
def run {α : Type} (onMem : StoreStep Memory α) (onRem : StoreStep Remote.Session α) :
    StoreStep Directory α
  | memory m => onMemory m onMem
  | remote s => onRemote s onRem

/-- The operations of the store in use. -/
def store : Store Directory where
  upsert subject email phone now :=
    run (Memory.store.upsert subject email phone now) (Remote.store.upsert subject email phone now)
  findById subject := run (Memory.store.findById subject) (Remote.store.findById subject)
  findByEmail email := run (Memory.store.findByEmail email) (Remote.store.findByEmail email)
  touch subject now := run (Memory.store.touch subject now) (Remote.store.touch subject now)
  delete subject := run (Memory.store.delete subject) (Remote.store.delete subject)

end Directory

end IdentityService
