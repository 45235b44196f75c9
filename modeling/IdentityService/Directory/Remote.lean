import IdentityService.Directory.Store
import IdentityService.Text.Blank
import IdentityService.Text.LowerCase
import IdentityService.Json.Display

/-!
# The Remote Store

Rows kept in a remote table.  Every operation is one statement and a reading of its
reply.  Uniqueness is left to the remote side: the violation that it reports is
classified afterwards.

## Main definitions

- `Statement`: what is sent.
- `Reply`: what comes back.
- `Remote.store`: the operations over a script of replies.
-/

namespace IdentityService

/-! ## §1 Statements and replies -/

/-- A statement for the remote side. -/
inductive Statement
  /-- Creates or replaces the row of a subject. -/
  | sync (subject : RawText) (email phone : Option String) (now : Moment)
  /-- Selects the rows with a value in a column. -/
  | select (column : String) (value : RawText)
  /-- Sets the two activity columns of a subject. -/
  | touch (subject : RawText) (now : Moment)
  /-- Deletes the row of a subject. -/
  | delete (subject : RawText)
  deriving DecidableEq, Repr

namespace Statement

/-- The remote table. -/
def table : String := "identities"

/-- The remote function that writes a row. -/
def syncFunction : String := "sync_identity"

/-- A condition on a column. -/
def condition (column : String) (value : RawText) : Json := .ofRaws ["eq", column, value]

/-- A statement as the chain of its parts. -/
def toJson : Statement → Json
  | sync subject email phone now =>
      .array [.array [.text "rpc", .text syncFunction, .object [("p_id", .raw subject),
        ("p_email", .ofText? email), ("p_phone", .ofText? phone), ("p_now", .text now.isoText)]]]
  | select column value =>
      .array [.ofTexts ["table", table], .ofTexts ["select", "*"], condition column value]
  | touch subject now =>
      .array [.ofTexts ["table", table],
        .array [.text "update", .object [("last_active_at", .text now.isoText),
          ("updated_at", .text now.isoText)]], condition "id" subject]
  | delete subject =>
      .array [.ofTexts ["table", table], .ofTexts ["delete"], condition "id" subject]

end Statement

/-- An error that the remote side reports. -/
structure RemoteError where
  code : Json
  message : Json
  details : Json
  hint : Json

/-- What comes back for a statement. -/
inductive Reply
  | data (v : Json)
  | refused (e : RemoteError)
  | failed (f : Fault)

namespace Remote

/-! ## §2 Reading replies -/

/-- The code of a violated uniqueness constraint. -/
def uniqueViolation : Json := .text "23505"

/-- The constraint that keeps phone numbers unique. -/
def phoneConstraint : String := "identities_phone_key"

/-- Whether a message names the phone constraint: a text in any part of it, a list or an object
in one of its items or keys.  An empty message names nothing, and nothing else can be searched. -/
def namesPhone (message : Json) : Outcome Bool :=
  if message.isEmptyValue then .ok false
  else
    match message with
    | .text s => .ok (s.contains phoneConstraint)
    | .brokenText b => .ok ((RawText.broken b).shown.contains phoneConstraint)
    | .array items => .ok (items.any (· == .text phoneConstraint))
    | .object fields => .ok (Assoc.has fields phoneConstraint)
    | _ => .error .wrongType

/-- The fault that a report of the remote side stands for. -/
def classify (e : RemoteError) : Fault :=
  if e.code == uniqueViolation then
    match namesPhone e.message with
    | .ok phone => .service (.identityConflict (if phone then "phone" else "email"))
    | .error f => f
  else
    .service (.identityStore ("Identity store error: " ++ e.message.display)
      [("pg_code", e.code), ("pg_details", e.details), ("pg_hint", e.hint)])

/-- The data of a reply. -/
def dataOf : Reply → Outcome Json
  | .data v => .ok v
  | .refused e => .error (classify e)
  | .failed f => .error f

/-- A column that a row must have. -/
def column (row : Fields) (name : String) : Outcome Json :=
  match row.get? name with
  | some v => .ok v
  | none => .error (.absentKey name)

/-- The row in a value. -/
def recordOf (v : Json) : Outcome IdentityRecord :=
  match v.object? with
  | none => .error .wrongType
  | some row => do
      let id ← column row "id"
      let email ← column row "email"
      let createdAt ← column row "created_at"
      let updatedAt ← column row "updated_at"
      (IdentityRecord.read [("id", id), ("email", email),
        ("phone", (row.get? "phone").getD .null), ("created_at", createdAt),
        ("updated_at", updatedAt),
        ("last_active_at", (row.get? "last_active_at").getD .null)]).outcome

/-- Whether the column that reports a new row holds a value that is not empty. -/
def reportsCreated (row : Json) : Bool := !((row.field? "was_created").getD .null).isEmptyValue

/-- The outcome of a write: the first row of the reply, which must be there. -/
def writtenRow (v : Json) : Outcome SyncResult :=
  let rows := match v with
    | .array rows => rows
    | v => [v]
  match rows with
  | [] => .error (.service (.identityStore "sync_identity returned no row" []))
  | row :: _ =>
      if row.isEmptyValue then
        .error (.service (.identityStore "sync_identity returned no row" []))
      else do
        let record ← recordOf row
        .ok ⟨record, reportsCreated row⟩

/-- The outcome of a search: the first row of the reply, if there is any. -/
def foundRow (v : Json) : Outcome (Option IdentityRecord) :=
  if v.isEmptyValue then .ok none
  else
    match v with
    | .array (row :: _) => some <$> recordOf row
    | .object _ => .error (.absentKey "")
    | _ => .error .wrongType

/-- The number of rows in a reply. -/
def rowCount (v : Json) : Outcome Nat :=
  if v.isEmptyValue then .ok 0
  else
    match v with
    | .array rows => .ok rows.length
    | .object fs => .ok fs.length
    | .text s => .ok s.length
    | .brokenText b => .ok (Utf16.joined b.units).length
    | _ => .error .wrongType

/-! ## §3 The store -/

/-- A session with the remote side: the replies still to come and the statements sent. -/
structure Session where
  replies : List Reply
  sent : List Statement

/-- The session before anything is sent. -/
def Session.start (replies : List Reply) : Session := ⟨replies, []⟩

/-- Sends a statement and takes the next reply; after the last one every reply is an empty
list. -/
def Session.send (s : Session) (st : Statement) : Reply × Session :=
  match s.replies with
  | [] => (.data (.array []), { s with sent := s.sent ++ [st] })
  | r :: rest => (r, ⟨rest, s.sent ++ [st]⟩)

/-- Sends a statement and reads its reply. -/
def run {α : Type} (st : Statement) (read : Json → Outcome α) : StoreStep Session α := fun s =>
  let (reply, s) := s.send st
  (dataOf reply >>= read, s)

/-- The operations over a session. -/
def store : Store Session where
  upsert subject email phone now := run (.sync subject (some email) phone now) writtenRow
  findById subject := run (.select "id" subject) foundRow
  findByEmail email := run (.select "email" (Text.lower (Text.strip email))) foundRow
  touch subject now := run (.touch subject now) rowCount
  delete subject := run (.delete subject) rowCount

end Remote

end IdentityService
