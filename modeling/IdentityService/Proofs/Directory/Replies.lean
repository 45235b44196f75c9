import IdentityService.Directory.Remote
import IdentityService.Proofs.Directory.Calls
import IdentityService.Proofs.Schema.Checked

/-!
# What Becomes of a Reply

Every operation of the remote store sends one statement and reads one reply.  An error that the
remote side reports is classified.  Data in the shape of rows is read, and anything else ends the
reading with a fault of the machinery.  A fault of the transport is nobody's business on the way
and reaches the caller as it is.

## Main definitions

- `Remote.RowOf`: the row that the columns of an object hold.
- `Remote.Reads`: what the data of a reply says in answer to a call.

## Main statements

- `Remote.recordOf_eq_ok_iff`: the values that hold a row.
- `Remote.reading_eq_ok_iff`, `Remote.onlyFaults_reading`: what is read from data, and how reading
  fails.
- `Remote.perform_exact`: what becomes of every reply to every call.
-/

namespace IdentityService

/-! ## §1 Rows -/

theorem IdentityRecord.isReported_read (fs : Fields) : (read fs).IsReported := by
  have hid := Schema.isReported_required Schema.isReported_text fs "id"
  have hemail := Schema.isReported_required Schema.isReported_plainText fs "email"
  have hphone := Schema.isReported_withDefault
    (Schema.isReported_optional Schema.isReported_plainText) fs "phone" none
  have hcreated := Schema.isReported_required Schema.isReported_moment fs "created_at"
  have hupdated := Schema.isReported_required Schema.isReported_moment fs "updated_at"
  have hactive := Schema.isReported_withDefault
    (Schema.isReported_optional Schema.isReported_moment) fs "last_active_at" none
  exact (((((hid.map mk).seq hemail).seq hphone).seq hcreated).seq hupdated).seq hactive

/-- **Rows.** A row is read from the records in which every one of its fields stands. -/
theorem IdentityRecord.read_eq_ok_iff {fs : Fields} {r : IdentityRecord} :
    read fs = .ok r ↔
      fs.get? "id" = some (.raw r.id) ∧ fs.get? "email" = some (.text r.email) ∧
      (fs.get? "phone" = some (.ofText? r.phone) ∨ fs.get? "phone" = none ∧ r.phone = none) ∧
      (∃ v, fs.get? "created_at" = some v ∧ Schema.moment v = .ok r.createdAt) ∧
      (∃ v, fs.get? "updated_at" = some v ∧ Schema.moment v = .ok r.updatedAt) ∧
      ((∃ v, fs.get? "last_active_at" = some v ∧
          Schema.optional Schema.moment v = .ok r.lastActiveAt) ∨
        fs.get? "last_active_at" = none ∧ r.lastActiveAt = none) := by
  simp only [read, Checked.seq_eq_ok_iff, Checked.map_eq_ok_iff, Schema.required_eq_ok_iff,
    Schema.withDefault_eq_ok_iff, Schema.text_eq_ok_iff, Schema.plainText_eq_ok_iff,
    Schema.optional_plainText_eq_ok_iff]
  -- the fields are peeled off from the last to the first
  constructor
  · rintro ⟨_, active, ⟨_, updated, ⟨_, created, ⟨_, phone, ⟨_, email, ⟨id, ⟨_, hid, rfl⟩, rfl⟩,
      ⟨_, hemail, rfl⟩, rfl⟩, hphone, rfl⟩, hcreated, rfl⟩, hupdated, rfl⟩, hactive, rfl⟩
    refine ⟨hid, hemail, ?_, hcreated, hupdated, hactive⟩
    rcases hphone with ⟨_, hphone, rfl⟩ | hphone
    · exact .inl hphone
    · exact .inr hphone
  · rintro ⟨hid, hemail, hphone, hcreated, hupdated, hactive⟩
    refine ⟨_, r.lastActiveAt, ⟨_, r.updatedAt, ⟨_, r.createdAt, ⟨_, r.phone, ⟨_, r.email,
      ⟨r.id, ⟨_, hid, rfl⟩, rfl⟩, ⟨_, hemail, rfl⟩, rfl⟩, ?_, rfl⟩, hcreated, rfl⟩, hupdated,
      rfl⟩, hactive, rfl⟩
    rcases hphone with hphone | hphone
    · exact .inl ⟨_, hphone, rfl⟩
    · exact .inr hphone

namespace Remote

/-- The row that the columns of an object hold.  Phone number and last activity may be left out or
null. -/
structure RowOf (row : Fields) (r : IdentityRecord) : Prop where
  id : row.get? "id" = some (.raw r.id)
  email : row.get? "email" = some (.text r.email)
  phone : (row.get? "phone").getD .null = .ofText? r.phone
  createdAt : ∃ v, row.get? "created_at" = some v ∧ Schema.moment v = .ok r.createdAt
  updatedAt : ∃ v, row.get? "updated_at" = some v ∧ Schema.moment v = .ok r.updatedAt
  lastActiveAt : Schema.optional Schema.moment ((row.get? "last_active_at").getD .null) =
    .ok r.lastActiveAt

/-- The faults of the machinery that data in an unexpected shape can cause. -/
def IsShapeFault (f : Fault) : Prop :=
  f = .wrongType ∨ (∃ key, f = .absentKey key) ∨ ∃ issues, f = .issues issues

theorem column_eq_ok_iff {row : Fields} {name : String} {v : Json} :
    column row name = .ok v ↔ row.get? name = some v := by
  unfold column
  cases row.get? name <;> simp

theorem onlyFaults_column (row : Fields) (name : String) :
    OnlyFaults IsShapeFault (column row name) := by
  unfold column
  cases row.get? name with
  | some v => exact onlyFaults_ok v
  | none => exact onlyFaults_error (.inr (.inl ⟨name, rfl⟩))

theorem outcome_eq_ok_iff {α : Type} {c : Checked α} {a : α} :
    c.outcome = .ok a ↔ c = .ok a := by
  cases c <;> simp [Checked.outcome]

theorem onlyFaults_outcome {α : Type} {c : Checked α} (hc : c.IsReported) :
    OnlyFaults IsShapeFault c.outcome := by
  cases c with
  | ok a => exact onlyFaults_ok a
  | faulty issues => exact onlyFaults_error (.inr (.inr ⟨issues, rfl⟩))
  | overflow => exact absurd rfl hc

theorem object?_eq_some_iff {v : Json} {row : Fields} :
    v.object? = some row ↔ v = .object row := by
  cases v <;> simp [Json.object?]

/-- **A row.** It is read from the objects that hold it. -/
theorem recordOf_eq_ok_iff {v : Json} {r : IdentityRecord} :
    recordOf v = .ok r ↔ ∃ row, v = .object row ∧ RowOf row r := by
  unfold recordOf
  cases hrow : v.object? with
  | none =>
    refine ⟨fun h => absurd h (by simp), ?_⟩
    rintro ⟨row, rfl, -⟩
    exact absurd hrow (by simp [Json.object?])
  | some row =>
    obtain rfl := object?_eq_some_iff.mp hrow
    simp only [bind_eq_ok_iff, column_eq_ok_iff, outcome_eq_ok_iff,
      IdentityRecord.read_eq_ok_iff]
    constructor
    · rintro ⟨id, hid, email, hemail, created, hcreated, updated, hupdated, hread⟩
      simp only [Assoc.get?_cons] at hread
      obtain ⟨hid', hemail', hphone, hcreated', hupdated', hactive⟩ :
          id = .raw r.id ∧ email = .text r.email ∧
          (row.get? "phone").getD .null = .ofText? r.phone ∧
          Schema.moment created = .ok r.createdAt ∧ Schema.moment updated = .ok r.updatedAt ∧
          Schema.optional Schema.moment ((row.get? "last_active_at").getD .null) =
            .ok r.lastActiveAt := by
        simpa using hread
      subst hid' hemail'
      exact ⟨row, rfl, hid, hemail, hphone, ⟨created, hcreated, hcreated'⟩,
        ⟨updated, hupdated, hupdated'⟩, hactive⟩
    · rintro ⟨row', heq, hrow⟩
      obtain rfl := Json.object.inj heq
      obtain ⟨created, hcreated, hcreated'⟩ := hrow.createdAt
      obtain ⟨updated, hupdated, hupdated'⟩ := hrow.updatedAt
      refine ⟨_, hrow.id, _, hrow.email, created, hcreated, updated, hupdated, ?_⟩
      simp [Assoc.get?_cons, hrow.phone, hcreated', hupdated', hrow.lastActiveAt]

/-- A value that holds no row ends the reading with a fault of the machinery. -/
theorem onlyFaults_recordOf (v : Json) : OnlyFaults IsShapeFault (recordOf v) := by
  unfold recordOf
  cases v.object? with
  | none => exact onlyFaults_error (.inl rfl)
  | some row =>
    -- each of the four columns may be absent, and then the fields may be refused
    apply (onlyFaults_column row _).bind
    intro id
    apply (onlyFaults_column row _).bind
    intro email
    apply (onlyFaults_column row _).bind
    intro created
    apply (onlyFaults_column row _).bind
    intro updated
    exact onlyFaults_outcome (IdentityRecord.isReported_read _)

/-! ## §2 Data of a reply -/

/-- The first row in the data of a write: of a list its first entry, if there is one, and anything
else stands for itself. -/
def firstRow? : Json → Option Json
  | .array rows => rows.head?
  | v => some v

/-- The data of a write that was done: the first row, with its mark. -/
def IsWritten (v : Json) (result : SyncResult) : Prop :=
  ∃ row r, firstRow? v = some (.object row) ∧ RowOf row r ∧
    result = ⟨r, !((Assoc.get? row "was_created").getD .null).isEmptyValue⟩

/-- The data of a write that left no row. -/
def HasNoRow (v : Json) : Prop := ∀ row, firstRow? v = some row → row.isEmptyValue = true

/-- The data of a search: nothing, or a list whose first entry is the row. -/
def IsFound (v : Json) (found : Option IdentityRecord) : Prop :=
  v.isEmptyValue = true ∧ found = none ∨
    ∃ row more r, v = .array (.object row :: more) ∧ RowOf row r ∧ found = some r

/-- The data of a change: nothing, or something that has a length. -/
def IsCount (v : Json) (n : Nat) : Prop :=
  v.isEmptyValue = true ∧ n = 0 ∨ (∃ rows, v = .array rows ∧ n = rows.length) ∨
    (∃ fields, v = .object fields ∧ n = fields.length) ∨ (∃ s, v = .text s ∧ n = s.length) ∨
    ∃ b, v = .brokenText b ∧ n = (Utf16.joined b.units).length

/-- A write whose reply holds no row fails as a store failure. -/
def noRow : Fault := .service (.identityStore "sync_identity returned no row" [])

theorem RowOf.isEmptyValue_eq_false {row : Fields} {r : IdentityRecord} (h : RowOf row r) :
    (Json.object row).isEmptyValue = false := by
  cases row with
  | nil => exact absurd h.id (by simp [Assoc.get?_nil])
  | cons f rest => rfl

theorem writtenRow_eq (v : Json) :
    writtenRow v =
      match firstRow? v with
      | none => .error noRow
      | some row =>
        if row.isEmptyValue then .error noRow
        else recordOf row >>= fun record => .ok ⟨record, reportsCreated row⟩ := by
  unfold writtenRow firstRow?
  cases v with
  | array rows => cases rows <;> rfl
  | _ => rfl

theorem writtenRow_eq_ok_iff {v : Json} {result : SyncResult} :
    writtenRow v = .ok result ↔ IsWritten v result := by
  rw [writtenRow_eq]
  unfold IsWritten
  cases firstRow? v with
  | none => simp
  | some row =>
    by_cases hempty : row.isEmptyValue = true
    · -- an object that holds a row is not empty
      simp only [hempty, if_true, Option.some.injEq]
      refine ⟨fun h => absurd h (by simp), ?_⟩
      rintro ⟨fields, r, rfl, hrow, -⟩
      exact absurd hempty (by rw [hrow.isEmptyValue_eq_false]; exact Bool.false_ne_true)
    · simp only [hempty, Bool.false_eq_true, if_false, bind_eq_ok_iff, recordOf_eq_ok_iff,
        Option.some.injEq, Except.ok.injEq]
      constructor
      · rintro ⟨r, ⟨fields, rfl, hrow⟩, rfl⟩
        exact ⟨fields, r, rfl, hrow, rfl⟩
      · rintro ⟨fields, r, rfl, hrow, rfl⟩
        exact ⟨r, ⟨fields, rfl, hrow⟩, rfl⟩

theorem writtenRow_of_hasNoRow {v : Json} (h : HasNoRow v) : writtenRow v = .error noRow := by
  rw [writtenRow_eq]
  split
  · rfl
  · rename_i row hrow
    rw [if_pos (h row hrow)]

theorem onlyFaults_writtenRow {v : Json} (h : ¬ HasNoRow v) :
    OnlyFaults IsShapeFault (writtenRow v) := by
  unfold HasNoRow at h
  push Not at h
  obtain ⟨row, hrow, hempty⟩ := h
  rw [writtenRow_eq, hrow]
  simp only [if_neg hempty]
  exact (onlyFaults_recordOf row).bind fun record => onlyFaults_ok _

theorem foundRow_of_isEmptyValue {v : Json} (h : v.isEmptyValue = true) :
    foundRow v = .ok none := by
  unfold foundRow
  exact if_pos h

theorem foundRow_cons (row : Json) (more : List Json) :
    foundRow (.array (row :: more)) = some <$> recordOf row := rfl

theorem foundRow_eq_ok_iff {v : Json} {found : Option IdentityRecord} :
    foundRow v = .ok found ↔ IsFound v found := by
  unfold IsFound
  by_cases hempty : v.isEmptyValue = true
  · rw [foundRow_of_isEmptyValue hempty, Except.ok.injEq]
    refine ⟨fun h => .inl ⟨hempty, h.symm⟩, ?_⟩
    rintro (⟨-, rfl⟩ | ⟨row, more, r, rfl, -⟩)
    · rfl
    · exact absurd hempty (by simp [Json.isEmptyValue])
  · -- only a list that starts with a row is left
    simp only [hempty, false_and, false_or, Bool.false_eq_true]
    cases v with
    | array rows =>
      cases rows with
      | nil => exact absurd rfl hempty
      | cons row more =>
        rw [foundRow_cons]
        constructor
        · intro h
          obtain ⟨r, hr, rfl⟩ := fmap_eq_ok_iff.mp h
          obtain ⟨fields, rfl, hrow⟩ := recordOf_eq_ok_iff.mp hr
          exact ⟨fields, more, r, rfl, hrow, rfl⟩
        · rintro ⟨fields, more', r, heq, hrow, rfl⟩
          obtain ⟨rfl, rfl⟩ := List.cons.inj (Json.array.inj heq)
          rw [recordOf_eq_ok_iff.mpr ⟨fields, rfl, hrow⟩]
          rfl
    | _ => simp [foundRow, hempty]

theorem onlyFaults_foundRow (v : Json) : OnlyFaults IsShapeFault (foundRow v) := by
  by_cases hempty : v.isEmptyValue = true
  · rw [foundRow_of_isEmptyValue hempty]
    exact onlyFaults_ok none
  unfold foundRow
  rw [if_neg hempty]
  cases v with
  | array rows =>
    cases rows with
    | nil => exact absurd rfl hempty
    | cons row more => exact (onlyFaults_recordOf row).map some
  | object fields => exact onlyFaults_error (.inr (.inl ⟨"", rfl⟩))
  | _ => exact onlyFaults_error (.inl rfl)

theorem rowCount_eq_ok_iff {v : Json} {n : Nat} : rowCount v = .ok n ↔ IsCount v n := by
  unfold rowCount IsCount
  by_cases hempty : v.isEmptyValue = true
  · -- an empty list, object or text has the length zero
    rw [if_pos hempty, Except.ok.injEq]
    constructor
    · rintro rfl
      exact .inl ⟨hempty, rfl⟩
    · rintro (⟨-, rfl⟩ | ⟨rows, rfl, rfl⟩ | ⟨fields, rfl, rfl⟩ | ⟨s, rfl, rfl⟩ |
        ⟨b, rfl, rfl⟩)
      · rfl
      · rw [List.isEmpty_iff.mp hempty]
        rfl
      · rw [List.isEmpty_iff.mp hempty]
        rfl
      · rw [String.isEmpty_iff.mp hempty]
        rfl
      · exact absurd hempty Bool.false_ne_true
  · rw [if_neg hempty]
    cases v <;> simp [hempty, eq_comm]

theorem onlyFaults_rowCount (v : Json) : OnlyFaults IsShapeFault (rowCount v) := by
  unfold rowCount
  split
  · exact onlyFaults_ok 0
  split
  · exact onlyFaults_ok _
  · exact onlyFaults_ok _
  · exact onlyFaults_ok _
  · exact onlyFaults_ok _
  · exact onlyFaults_error (.inl rfl)

/-! ## §3 Calls -/

open Store (Answer)

/-- The statement that a call sends. -/
def statementOf : Store.Call → Statement
  | .upsert subject email phone now => .sync subject (some email) phone now
  | .findById subject => .select "id" subject
  | .findByEmail email => .select "email" (Text.lower (Text.strip email))
  | .touch subject now => .touch subject now
  | .delete subject => .delete subject

/-- How a call reads the data of its reply. -/
def reading : Store.Call → Json → Outcome Answer
  | .upsert _ _ _ _, v => .written <$> writtenRow v
  | .findById _, v => .found <$> foundRow v
  | .findByEmail _, v => .found <$> foundRow v
  | .touch _ _, v => .count <$> rowCount v
  | .delete _, v => .count <$> rowCount v

/-- What the data of a reply says in answer to a call. -/
def Reads : Store.Call → Json → Answer → Prop
  | .upsert _ _ _ _, v, a => ∃ result, IsWritten v result ∧ a = .written result
  | .findById _, v, a => ∃ found, IsFound v found ∧ a = .found found
  | .findByEmail _, v, a => ∃ found, IsFound v found ∧ a = .found found
  | .touch _ _, v, a => ∃ n, IsCount v n ∧ a = .count n
  | .delete _, v, a => ∃ n, IsCount v n ∧ a = .count n

/-- The data of a reply lacks the row that a write must report. -/
def LacksRow : Store.Call → Json → Prop
  | .upsert _ _ _ _, v => HasNoRow v
  | _, _ => False

theorem answering_run {α : Type} (as : α → Answer) (st : Statement) (read : Json → Outcome α)
    (session : Session) :
    Store.answering as (run st read) session =
      (dataOf (session.send st).1 >>= fun v => as <$> read v, (session.send st).2) := by
  unfold Store.answering run
  -- taking the result as an answer commutes with reading it
  obtain ⟨reply, rest⟩ := session.send st
  show (as <$> (dataOf reply >>= read), rest) = _
  cases dataOf reply <;> rfl

/-- **One call.** It sends its statement and reads the reply, if there is anything to read. -/
theorem perform_eq (call : Store.Call) (session : Session) :
    store.perform call session =
      (dataOf (session.send (statementOf call)).1 >>= reading call,
        (session.send (statementOf call)).2) := by
  cases call with
  | upsert subject email phone now => exact answering_run .written _ _ session
  | findById subject => exact answering_run .found _ _ session
  | findByEmail email => exact answering_run .found _ _ session
  | touch subject now => exact answering_run .count _ _ session
  | delete subject => exact answering_run .count _ _ session

/-- **Reading.** A call answers with what the data says. -/
theorem reading_eq_ok_iff {call : Store.Call} {v : Json} {a : Answer} :
    reading call v = .ok a ↔ Reads call v a := by
  cases call <;>
    simp only [reading, Reads, fmap_eq_ok_iff, writtenRow_eq_ok_iff, foundRow_eq_ok_iff,
      rowCount_eq_ok_iff]

theorem reading_of_lacksRow {call : Store.Call} {v : Json} (h : LacksRow call v) :
    reading call v = .error noRow := by
  cases call with
  | upsert subject email phone now =>
    rw [reading, writtenRow_of_hasNoRow h]
    rfl
  | _ => exact absurd h id

/-- Other data ends the reading with a fault of the machinery. -/
theorem onlyFaults_reading {call : Store.Call} {v : Json} (h : ¬ LacksRow call v) :
    OnlyFaults IsShapeFault (reading call v) := by
  cases call with
  | upsert subject email phone now => exact (onlyFaults_writtenRow h).map _
  | findById subject => exact (onlyFaults_foundRow v).map _
  | findByEmail email => exact (onlyFaults_foundRow v).map _
  | touch subject now => exact (onlyFaults_rowCount v).map _
  | delete subject => exact (onlyFaults_rowCount v).map _

/-! ## §4 Reported errors -/

/-- A message names the phone constraint: a text in any part of it, a list or an object in one of
its items or keys. -/
def NamesPhone : Json → Prop
  | .text s => phoneConstraint.toList <:+: s.toList
  | .brokenText b => phoneConstraint.toList <:+: (RawText.broken b).shown.toList
  | .array items => .text phoneConstraint ∈ items
  | .object fields => phoneConstraint ∈ Assoc.keys fields
  | _ => False

/-- A message can be searched: it is empty, or it is a text, a list or an object. -/
def Searchable : Json → Prop
  | .bool b => b = false
  | .int n => n = 0
  | .fraction x => x.isZero = true
  | _ => True

theorem contains_phoneConstraint_iff {s : String} :
    s.contains phoneConstraint = true ↔ phoneConstraint.toList <:+: s.toList :=
  String.contains_string_iff

theorem has_phoneConstraint_iff {fields : Fields} :
    Assoc.has fields phoneConstraint = true ↔ phoneConstraint ∈ Assoc.keys fields := by
  rw [Assoc.has, Option.isSome_iff_exists, Assoc.mem_keys_iff]

/-- An empty message can be searched, and names nothing. -/
theorem searchable_of_isEmptyValue {message : Json} (h : message.isEmptyValue = true) :
    Searchable message ∧ ¬ NamesPhone message := by
  cases message with
  | text s =>
    obtain rfl := String.isEmpty_iff.mp h
    refine ⟨trivial, ?_⟩
    show ¬ phoneConstraint.toList <:+: "".toList
    decide
  | array items =>
    obtain rfl := List.isEmpty_iff.mp h
    exact ⟨trivial, List.not_mem_nil⟩
  | object fields =>
    obtain rfl := List.isEmpty_iff.mp h
    exact ⟨trivial, List.not_mem_nil⟩
  | null => exact ⟨trivial, id⟩
  | brokenText => exact absurd h Bool.false_ne_true
  | _ => simpa [Json.isEmptyValue, Searchable, NamesPhone] using h

/-- **Searching a message.** It succeeds when the message can be searched. -/
theorem namesPhone_of_searchable {message : Json} (h : Searchable message) :
    ∃ names, namesPhone message = .ok names ∧ (names = true ↔ NamesPhone message) := by
  unfold namesPhone
  by_cases hempty : message.isEmptyValue = true
  · rw [if_pos hempty]
    have hnot := (searchable_of_isEmptyValue hempty).2
    exact ⟨false, rfl, by simp [hnot]⟩
  rw [if_neg hempty]
  -- a number or a truth value that can be searched is an empty one
  cases message with
  | text s => exact ⟨_, rfl, contains_phoneConstraint_iff⟩
  | array items => exact ⟨_, rfl, by simp [NamesPhone]⟩
  | object fields => exact ⟨_, rfl, has_phoneConstraint_iff⟩
  | brokenText b => exact ⟨_, rfl, contains_phoneConstraint_iff⟩
  | null => exact absurd rfl hempty
  | _ => exact absurd (by simpa [Json.isEmptyValue, Searchable] using h) hempty

theorem namesPhone_of_not_searchable {message : Json} (h : ¬ Searchable message) :
    namesPhone message = .error .wrongType := by
  have hempty : ¬ message.isEmptyValue = true := fun he => h (searchable_of_isEmptyValue he).1
  unfold namesPhone
  rw [if_neg hempty]
  cases message with
  | bool b => rfl
  | int n => rfl
  | fraction x => rfl
  | _ => exact absurd trivial h

/-- **Violated uniqueness.** It is a conflict over the phone number when the message names the
phone constraint, and over the email when it does not, whatever the details say. -/
theorem classify_of_violation {e : RemoteError} (hcode : e.code = uniqueViolation)
    (hmessage : Searchable e.message) :
    (NamesPhone e.message → classify e = .service (.identityConflict "phone")) ∧
      (¬ NamesPhone e.message → classify e = .service (.identityConflict "email")) := by
  obtain ⟨names, hnames, hiff⟩ := namesPhone_of_searchable hmessage
  rw [classify, if_pos (by simpa using hcode), hnames]
  constructor
  · intro h
    rw [hiff.mpr h]
    rfl
  · intro h
    rw [Bool.eq_false_iff.mpr (mt hiff.mp h)]
    rfl

theorem classify_of_not_searchable {e : RemoteError} (hcode : e.code = uniqueViolation)
    (hmessage : ¬ Searchable e.message) : classify e = .wrongType := by
  rw [classify, if_pos (by simpa using hcode), namesPhone_of_not_searchable hmessage]

/-- **Other errors.** They are store failures, with all that was reported. -/
theorem classify_of_other {e : RemoteError} (hcode : e.code ≠ uniqueViolation) :
    classify e = .service (.identityStore ("Identity store error: " ++ e.message.display)
      [("pg_code", e.code), ("pg_details", e.details), ("pg_hint", e.hint)]) := by
  rw [classify, if_neg (by simpa using hcode)]

/-! ## §5 Every reply -/

/-- An outcome that callers of a store are prepared for: an answer, a conflict or a store
failure. -/
def IsClassified (outcome : Outcome Answer) : Prop :=
  (∃ a, outcome = .ok a) ∨ (∃ field, outcome = .error (.service (.identityConflict field))) ∨
    ∃ message details, outcome = .error (.service (.identityStore message details))

theorem not_isClassified {f : Fault} (h : ∀ e, f ≠ .service e) : ¬ IsClassified (.error f) := by
  rintro (⟨a, ha⟩ | ⟨field, hfield⟩ | ⟨message, details, hstore⟩)
  · exact absurd ha (by simp)
  · exact h _ (Except.error.inj hfield)
  · exact h _ (Except.error.inj hstore)

theorem not_isClassified_of_isShapeFault {f : Fault} (h : IsShapeFault f) :
    ¬ IsClassified (.error f) := by
  apply not_isClassified
  intro e
  rcases h with rfl | ⟨key, rfl⟩ | ⟨issues, rfl⟩ <;> exact Fault.noConfusion

/-- A reply in good order: a reported error whose message can be searched where it must be, or
data that answers the call or lacks the row that a write must report. -/
def InOrder (call : Store.Call) : Reply → Prop
  | .refused e => e.code = uniqueViolation → Searchable e.message
  | .data v => LacksRow call v ∨ ∃ a, Reads call v a
  | .failed _ => False

theorem isClassified_classify_iff {call : Store.Call} {e : RemoteError} :
    IsClassified (.error (classify e)) ↔ InOrder call (.refused e) := by
  by_cases hcode : e.code = uniqueViolation
  · by_cases hmessage : Searchable e.message
    · refine ⟨fun _ _ => hmessage, fun _ => .inr (.inl ?_)⟩
      obtain ⟨hphone, hemail⟩ := classify_of_violation hcode hmessage
      by_cases hnames : NamesPhone e.message
      · exact ⟨"phone", congrArg _ (hphone hnames)⟩
      · exact ⟨"email", congrArg _ (hemail hnames)⟩
    · rw [classify_of_not_searchable hcode hmessage]
      refine ⟨fun h => absurd h (not_isClassified_of_isShapeFault (.inl rfl)), fun h => ?_⟩
      exact absurd (h hcode) hmessage
  · rw [classify_of_other hcode]
    exact ⟨fun _ h => absurd h hcode, fun _ => .inr (.inr ⟨_, _, rfl⟩)⟩

theorem isClassified_reading_iff {call : Store.Call} {v : Json} :
    IsClassified (reading call v) ↔ InOrder call (.data v) := by
  by_cases hrow : LacksRow call v
  · rw [reading_of_lacksRow hrow]
    exact ⟨fun _ => .inl hrow, fun _ => .inr (.inr ⟨_, _, rfl⟩)⟩
  -- what is left is an answer, or a fault that no caller is prepared for
  cases hread : reading call v with
  | ok a => exact ⟨fun _ => .inr ⟨a, reading_eq_ok_iff.mp hread⟩, fun _ => .inl ⟨a, rfl⟩⟩
  | error f =>
    have hfault := onlyFaults_reading hrow f hread
    refine ⟨fun h => absurd h (not_isClassified_of_isShapeFault hfault), ?_⟩
    rintro (h | ⟨a, ha⟩)
    · exact absurd h hrow
    · rw [← reading_eq_ok_iff, hread] at ha
      exact absurd ha (by simp)

/-- **Every reply.** A call sends its one statement, and its outcome depends on the reply alone.
A reported violation of uniqueness is a conflict over the field that the message names, and
every other reported error a store failure.  Data is answered with what it says, a write without
a row is a store failure, and all other data ends in a fault of the machinery.  A fault of the
transport is the outcome itself.  So, short of a transport that fails, callers are prepared for
what comes exactly when the reply is in good order. -/
theorem perform_exact (call : Store.Call) (session : Session) :
    let reply := (session.send (statementOf call)).1
    let outcome := (store.perform call session).1
    (store.perform call session).2 = (session.send (statementOf call)).2 ∧
    (∀ e, reply = .refused e →
      (e.code = uniqueViolation → Searchable e.message →
        (NamesPhone e.message → outcome = .error (.service (.identityConflict "phone"))) ∧
        (¬ NamesPhone e.message → outcome = .error (.service (.identityConflict "email")))) ∧
      (e.code = uniqueViolation → ¬ Searchable e.message → outcome = .error .wrongType) ∧
      (e.code ≠ uniqueViolation → outcome =
        .error (.service (.identityStore ("Identity store error: " ++ e.message.display)
          [("pg_code", e.code), ("pg_details", e.details), ("pg_hint", e.hint)])))) ∧
    (∀ v, reply = .data v →
      (∀ a, outcome = .ok a ↔ Reads call v a) ∧
      (LacksRow call v → outcome =
        .error (.service (.identityStore "sync_identity returned no row" []))) ∧
      (¬ LacksRow call v → (∀ a, ¬ Reads call v a) → ∃ f, outcome = .error f ∧ IsShapeFault f)) ∧
    (∀ f, reply = .failed f → outcome = .error f) ∧
    ((∀ f, reply ≠ .failed f) → (IsClassified outcome ↔ InOrder call reply)) := by
  intro reply outcome
  -- the outcome in terms of the reply
  have houtcome : outcome = (dataOf reply >>= reading call) := by
    show (store.perform call session).1 = _
    rw [perform_eq]
  have hrefused : ∀ e, reply = .refused e → outcome = .error (classify e) := by
    intro e he
    rw [houtcome, he]
    rfl
  have hdata : ∀ v, reply = .data v → outcome = reading call v := by
    intro v hv
    rw [houtcome, hv]
    rfl
  refine ⟨by rw [perform_eq], ?_, ?_, ?_, ?_⟩
  · intro e he
    rw [hrefused e he]
    refine ⟨fun hcode hmessage => ?_, fun hcode hmessage => ?_, fun hcode => ?_⟩
    · obtain ⟨hphone, hemail⟩ := classify_of_violation hcode hmessage
      exact ⟨fun h => congrArg _ (hphone h), fun h => congrArg _ (hemail h)⟩
    · rw [classify_of_not_searchable hcode hmessage]
    · rw [classify_of_other hcode]
  · intro v hv
    rw [hdata v hv]
    refine ⟨fun a => reading_eq_ok_iff, reading_of_lacksRow, fun hrow hnone => ?_⟩
    cases hread : reading call v with
    | ok a => exact absurd (reading_eq_ok_iff.mp hread) (hnone a)
    | error f => exact ⟨f, rfl, onlyFaults_reading hrow f hread⟩
  · intro f hf
    rw [houtcome, hf]
    rfl
  · intro hsound
    cases hreply : reply with
    | refused e =>
      rw [hrefused e hreply]
      exact isClassified_classify_iff
    | data v =>
      rw [hdata v hreply]
      exact isClassified_reading_iff
    | failed f => exact absurd hreply (hsound f)

/-- **Transport faults.** A write whose connection fails ends with the fault of the connection,
for which no caller is prepared. -/
theorem perform_connect :
    let call := Store.Call.upsert "user-1" "a@example.com" none ⟨0, some 0⟩
    let session := Session.start [.failed (.transport .connect "connection refused")]
    (store.perform call session).1 = .error (.transport .connect "connection refused") ∧
      ¬ IsClassified (store.perform call session).1 := by
  intro call session
  have houtcome : (store.perform call session).1 =
      .error (.transport .connect "connection refused") := rfl
  refine ⟨houtcome, ?_⟩
  rw [houtcome]
  exact not_isClassified fun e => Fault.noConfusion

end Remote

end IdentityService
