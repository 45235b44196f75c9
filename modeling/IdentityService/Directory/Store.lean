import IdentityService.Directory.Record

/-!
# Identity Stores

What a store of identity rows can do.  A store is a state with five operations; each
has an outcome and leaves a state.
-/

namespace IdentityService

/-- An operation on a state. -/
abbrev StoreStep (σ α : Type) := σ → Outcome α × σ

namespace StoreStep

variable {σ α β : Type}

/-- An outcome that needs no state. -/
def ofOutcome (r : Outcome α) : StoreStep σ α := fun s => (r, s)

/-- One operation after another; the second is left out when the first fails. -/
def andThen (first : StoreStep σ α) (next : α → StoreStep σ β) : StoreStep σ β := fun s =>
  match first s with
  | (.ok a, s) => next a s
  | (.error f, s) => (.error f, s)

end StoreStep

/-- The operations of a store. -/
structure Store (σ : Type) where
  /-- Creates or replaces the row of a subject. -/
  upsert (subject : RawText) (email : String) (phone : Option String) (now : Moment) :
    StoreStep σ SyncResult
  /-- The row of a subject. -/
  findById (subject : RawText) : StoreStep σ (Option IdentityRecord)
  /-- The row with an email. -/
  findByEmail (email : String) : StoreStep σ (Option IdentityRecord)
  /-- Notes that a subject was active; gives the number of rows that changed. -/
  touch (subject : RawText) (now : Moment) : StoreStep σ Nat
  /-- Removes the row of a subject; gives the number of rows that went. -/
  delete (subject : RawText) : StoreStep σ Nat

end IdentityService
