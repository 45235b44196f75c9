import IdentityService.Assoc
import IdentityService.Directory.Store
import IdentityService.Text.Blank
import IdentityService.Text.LowerCase

/-!
# The Memory Store

Rows held in memory, keyed by subject, with two indexes that keep emails unique without
regard to case and phone numbers unique where there are any.

## Main definitions

- `Memory`: the rows and their indexes.
- `Memory.upsert?`: a write, or the field on which it conflicts with another subject.
- `Memory.store`: the operations as a store.
-/

namespace IdentityService

/-- A field that no two subjects share. -/
inductive UniqueField
  | email
  | phone
  deriving DecidableEq, Repr

/-- The name of a unique field. -/
def UniqueField.label : UniqueField → String
  | email => "email"
  | phone => "phone"

/-- Rows by subject, and the subject of every email key and phone number. -/
structure Memory where
  records : Assoc IdentityRecord RawText
  byEmail : Assoc RawText
  byPhone : Assoc RawText
  deriving DecidableEq, Repr

namespace Memory

open Text

/-! ## §1 Indexes -/

/-- No rows. -/
def empty : Memory := ⟨[], [], []⟩

/-- The key of an email: emails are unique without regard to case. -/
def emailKey (email : String) : String := lower email

/-- Whether a key belongs to a subject other than the given one. -/
def heldByOther (index : Assoc RawText) (key : String) (subject : RawText) : Bool :=
  match index.get? key with
  | some owner => owner != subject
  | none => false

/-- Enters a row into the indexes. -/
def enter (m : Memory) (r : IdentityRecord) : Memory :=
  { m with
    byEmail := m.byEmail.set (emailKey r.email) r.id
    byPhone := match r.phone with
      | some p => m.byPhone.set p r.id
      | none => m.byPhone }

/-- Takes a row out of the indexes. -/
def withdraw (m : Memory) (r : IdentityRecord) : Memory :=
  { m with
    byEmail := m.byEmail.erase (emailKey r.email)
    byPhone := match r.phone with
      | some p => m.byPhone.erase p
      | none => m.byPhone }

/-! ## §2 Operations -/

/-- The field on which a write would conflict with another subject; the email goes first. -/
def conflict? (m : Memory) (subject : RawText) (email : String) (phone : Option String) :
    Option UniqueField :=
  if heldByOther m.byEmail (emailKey email) subject then some .email
  else
    match phone with
    | some p => if heldByOther m.byPhone p subject then some .phone else none
    | none => none

/-- The row that a write leaves: a new one, or the present one with new email and phone. -/
def written (present : Option IdentityRecord) (subject : RawText) (email : String)
    (phone : Option String) (now : Moment) : IdentityRecord :=
  match present with
  | none => ⟨subject, email, phone, now, now, none⟩
  | some r => { r with email := email, phone := phone, updatedAt := now }

/-- The state whose indexes hold nothing of a subject. -/
def cleared (m : Memory) (subject : RawText) : Memory :=
  match m.records.get? subject with
  | some r => m.withdraw r
  | none => m

/-- Creates or replaces the row of a subject, unless email or phone belongs to another. -/
def upsert? (m : Memory) (subject : RawText) (email : String) (phone : Option String)
    (now : Moment) : Except UniqueField (SyncResult × Memory) :=
  match m.conflict? subject email phone with
  | some field => .error field
  | none =>
      let present := m.records.get? subject
      let cleared := m.cleared subject
      let record := written present subject email phone now
      .ok (⟨record, present.isNone⟩,
        { cleared with records := cleared.records.set subject record }.enter record)

/-- The row of a subject. -/
def findById (m : Memory) (subject : RawText) : Option IdentityRecord := m.records.get? subject

/-- The row with an email.  The empty subject is never found this way. -/
def findByEmail (m : Memory) (email : String) : Option IdentityRecord :=
  match m.byEmail.get? (emailKey (strip email)) with
  | some subject => if subject.isEmpty then none else m.records.get? subject
  | none => none

/-- Notes that a subject was active. -/
def touch (m : Memory) (subject : RawText) (now : Moment) : Nat × Memory :=
  match m.records.get? subject with
  | none => (0, m)
  | some r =>
      (1, { m with
        records := m.records.set subject { r with lastActiveAt := some now, updatedAt := now } })

/-- Removes the row of a subject and its index entries. -/
def delete (m : Memory) (subject : RawText) : Nat × Memory :=
  match m.records.get? subject with
  | none => (0, m)
  | some r => (1, { m with records := m.records.erase subject }.withdraw r)

/-! ## §3 The store -/

/-- The operations as a store; a failed write leaves the state as it was. -/
def store : Store Memory where
  upsert subject email phone now m :=
    match m.upsert? subject email phone now with
    | .ok (result, m) => (.ok result, m)
    | .error field => (.error (.service (.identityConflict field.label)), m)
  findById subject m := (.ok (m.findById subject), m)
  findByEmail email m := (.ok (m.findByEmail email), m)
  touch subject now m :=
    let (n, m) := m.touch subject now
    (.ok n, m)
  delete subject m :=
    let (n, m) := m.delete subject
    (.ok n, m)

end Memory

end IdentityService
