import IdentityService.Directory.Store
import IdentityService.Provider.Principal
import IdentityService.Text.LowerCase
import IdentityService.Validation.Policy

/-!
# Synchronization

Reconciles verified principals with their rows.  Email and phone are normalized and
checked before the store is called; uniqueness is left to the store.

## Main definitions

- `normalizeEmail`, `normalizePhone`: the forms in which emails and phones are stored.
- `Synchronizer.createOrUpdate`: a checked write.
- `Synchronizer.syncPrincipal`: the write for a principal.
-/

namespace IdentityService

/-! ## §1 Normal forms -/

/-- An email trimmed and in lower case. -/
def normalizeEmail (email : String) : String := Text.lower (Text.strip email)

/-- A phone number without formatting; nothing left means no number. -/
def normalizePhone (phone : String) : Option String :=
  let s := Phone.withoutFormatting (Text.strip phone)
  if s.isEmpty then none else some s

/-- A synchronizer over a store: the bounds it checks by. -/
structure Synchronizer where
  policy : Policy
  deriving DecidableEq, Repr

namespace Synchronizer

variable {σ : Type}

/-! ## §2 Writing -/

/-- The rules for normalized input. -/
def rules (s : Synchronizer) : RuleSet :=
  [⟨"email", .email⟩, ⟨"phone", .optional (.phone s.policy.phone)⟩]

/-- The fields of normalized input. -/
def payload (email phone : Option String) : Payload
  | "email" => .json (.ofText? email)
  | "phone" => .json (.ofText? phone)
  | _ => .absent

/-- The normalized email and phone of a write, or the error that refuses them. -/
def accept (s : Synchronizer) (email phone : Option String) :
    Outcome (String × Option String) := do
  let email := email.map normalizeEmail
  let phone := phone.bind normalizePhone
  let verdict ← s.rules.validate (payload email phone)
  match verdict.raised? with
  | some e => .error (.service e)
  | none => .ok (email.getD "", phone)

/-- Creates or updates the row of a subject.  The store is called for accepted input only. -/
def createOrUpdate (s : Synchronizer) (store : Store σ) (clock : Moment) (subject : RawText)
    (email phone : Option String) : StoreStep σ SyncResult := fun state =>
  match s.accept email phone with
  | .error f => (.error f, state)
  | .ok (email, phone) => store.upsert subject email phone clock state

/-- Synchronizes a principal, who must have an email.  Where the email or the phone number spells
no text, what people see of it stands for it: no check that either has to pass tells the
difference, and no such email or phone number passes its check. -/
def syncPrincipal (s : Synchronizer) (store : Store σ) (clock : Moment) (p : Principal) :
    StoreStep σ SyncResult := fun state =>
  match p.email with
  | none => (.error (.service .missingEmail), state)
  | some email =>
      if email.isEmpty then (.error (.service .missingEmail), state)
      else
        s.createOrUpdate store clock p.subject (some email.shown) (p.phone.map (·.shown)) state

/-! ## §3 Looking up, touching and deleting -/

/-- The row with an email in any spelling; an email of blanks has none. -/
def findByEmail (store : Store σ) (email : Option String) : StoreStep σ (Option IdentityRecord) :=
  fun state =>
    match email.map normalizeEmail with
    | none => (.ok none, state)
    | some e => if e.isEmpty then (.ok none, state) else store.findByEmail e state

/-! ## §4 Journal -/

/-- A line of the synchronizer. -/
def line (message : String) : JournalLine := ⟨.synchronizer, .info, message⟩

/-- What a write leaves in the journal: a conflict, or whether a row was created. -/
def writeJournal (subject : RawText) : Outcome SyncResult → List JournalLine
  | .ok r =>
      [line ("Identity " ++ subject.shown ++ (if r.wasCreated then " created" else " updated"))]
  | .error (.service e) =>
      match e.subject with
      | some field => [line ("Identity sync conflict for " ++ subject.shown ++ " on " ++ field)]
      | none => []
  | .error _ => []

/-- What a deletion leaves in the journal. -/
def deleteJournal (subject : RawText) : Outcome Nat → List JournalLine
  | .ok 0 => []
  | .ok _ => [line ("Identity deleted: " ++ subject.shown)]
  | .error _ => []

end Synchronizer

end IdentityService
