import IdentityService.Fault.Fault
import IdentityService.Schema.Field

/-!
# Identity Records

The local row of a subject, and what a synchronization reports about it.  A row is kept
under the subject as the provider spells it, whatever string that is; emails and phone
numbers are texts.
-/

namespace IdentityService

/-! ## §1 Rows -/

/-- The row of a subject. -/
structure IdentityRecord where
  id : RawText
  email : String
  phone : Option String
  createdAt : Moment
  updatedAt : Moment
  lastActiveAt : Option Moment
  deriving DecidableEq, Repr

namespace IdentityRecord

/-- Reads a row from a record. -/
def read (fs : Fields) : Checked IdentityRecord :=
  mk <$> Schema.required fs "id" Schema.text
    <*> Schema.required fs "email" Schema.plainText
    <*> Schema.withDefault fs "phone" none (Schema.optional Schema.plainText)
    <*> Schema.required fs "created_at" Schema.moment
    <*> Schema.required fs "updated_at" Schema.moment
    <*> Schema.withDefault fs "last_active_at" none (Schema.optional Schema.moment)

/-- A row as a record. -/
def toJson (r : IdentityRecord) : Json :=
  .object [("id", .raw r.id), ("email", .text r.email), ("phone", .ofText? r.phone),
    ("created_at", .text r.createdAt.isoText), ("updated_at", .text r.updatedAt.isoText),
    ("last_active_at", .ofText? (r.lastActiveAt.map (·.isoText)))]

end IdentityRecord

/-- The outcome of writing a row. -/
structure SyncResult where
  record : IdentityRecord
  wasCreated : Bool
  deriving DecidableEq, Repr

namespace SyncResult

/-- Reads an outcome from a record. -/
def read (fs : Fields) : Checked SyncResult :=
  mk <$> Schema.required fs "record" (Schema.record IdentityRecord.read)
    <*> Schema.required fs "was_created" Schema.flag

/-- An outcome as a record. -/
def toJson (r : SyncResult) : Json :=
  .object [("record", r.record.toJson), ("was_created", .bool r.wasCreated)]

end SyncResult

/-! ## §2 Summaries -/

/-- What clients see of a row. -/
structure IdentitySummary where
  id : RawText
  email : String
  phone : Option String
  emailVerified : Bool
  deriving DecidableEq, Repr

namespace IdentitySummary

/-- The summary of a row. -/
def ofRecord (r : IdentityRecord) (emailVerified : Bool) : IdentitySummary :=
  ⟨r.id, r.email, r.phone, emailVerified⟩

/-- Reads a summary from a record. -/
def read (fs : Fields) : Checked IdentitySummary :=
  mk <$> Schema.required fs "id" Schema.text
    <*> Schema.required fs "email" Schema.plainText
    <*> Schema.withDefault fs "phone" none (Schema.optional Schema.plainText)
    <*> Schema.withDefault fs "email_verified" false Schema.flag

/-- A summary as a record. -/
def toJson (s : IdentitySummary) : Json :=
  .object [("id", .raw s.id), ("email", .text s.email), ("phone", .ofText? s.phone),
    ("email_verified", .bool s.emailVerified)]

end IdentitySummary

end IdentityService
