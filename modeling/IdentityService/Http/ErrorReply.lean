import IdentityService.Fault.Fault
import IdentityService.Http.Message
import IdentityService.Schema.Field

/-!
# Error Replies

How faults are answered.  Six kinds of service errors have a treatment of their own, and a kind
is treated like the nearest kind above it that has one.  What an error says beyond its code is
kept from clients, unless it tells of a conflict or of something that was not found.

What a body shows of an error must be a text.  An error that has something else in its place is
not answered by its treatment: the reply itself breaks down.

## Main definitions

- `Treatment.ofKind`: the treatment of a kind.
- `ServiceError.reply?`: the reply to a service error, if its parts can be shown.
- `ServiceError.response`: the response to a service error.
- `Fault.response`: the response to any fault.
-/

namespace IdentityService

/-! ## §1 Bodies -/

/-- The body of an error response. -/
structure ErrorBody where
  error : String
  detail : Option String
  code : Option String
  deriving DecidableEq, Repr

namespace ErrorBody

/-- Reads a body from a record. -/
def read (fs : Fields) : Checked ErrorBody :=
  mk <$> Schema.required fs "error" Schema.plainText
    <*> Schema.withDefault fs "detail" none (Schema.optional Schema.plainText)
    <*> Schema.withDefault fs "code" none (Schema.optional Schema.plainText)

/-- A body as a record. -/
def toJson (b : ErrorBody) : Json :=
  .object [("error", .text b.error), ("detail", .ofText? b.detail), ("code", .ofText? b.code)]

end ErrorBody

/-- The body of the response to a failed validation: the codes in order. -/
structure ValidationBody where
  error : String
  code : String
  errors : List String
  deriving DecidableEq, Repr

namespace ValidationBody

/-- The body for a list of codes. -/
def ofErrors (errors : List String) : ValidationBody :=
  ⟨"Validation Error", "VALIDATION_FAILED", errors⟩

/-- Reads a body from a record. -/
def read (fs : Fields) : Checked ValidationBody :=
  mk <$> Schema.withDefault fs "error" (ofErrors []).error Schema.plainText
    <*> Schema.withDefault fs "code" (ofErrors []).code Schema.plainText
    <*> Schema.required fs "errors" (Schema.list Schema.plainText)

/-- A body as a record. -/
def toJson (b : ValidationBody) : Json :=
  .object [("error", .text b.error), ("code", .text b.code), ("errors", .ofTexts b.errors)]

end ValidationBody

/-! ## §2 Treatments -/

/-- How a service error is answered. -/
inductive Treatment
  | unauthenticated
  | forbidden
  | invalid
  | conflict
  | notFound
  | internal
  deriving DecidableEq, Repr

namespace Treatment

/-- The kinds that have a treatment of their own. -/
def registered : List (ErrorKind × Treatment) :=
  [(.authentication, unauthenticated), (.authorization, forbidden), (.validation, invalid),
    (.conflict, conflict), (.notFound, notFound), (.service, internal)]

/-- The treatment that a kind has of its own. -/
def own? (k : ErrorKind) : Option Treatment := (registered.find? (·.1 == k)).map (·.2)

/-- The treatment of a kind: that of the nearest kind above it which has one. -/
def ofKind (k : ErrorKind) : Treatment := (k.lineage.findSome? own?).getD internal

/-- The status of a response. -/
def status : Treatment → Nat
  | unauthenticated => 401
  | forbidden => 403
  | invalid => 400
  | conflict => 409
  | notFound => 404
  | internal => 500

/-- The level at which a treatment is noted. -/
def level? : Treatment → Option Level
  | unauthenticated => some .debug
  | internal => some .error
  | _ => none

end Treatment

/-! ## §3 Responses -/

namespace Http

/-- The response to every request that is not authenticated. -/
def unauthenticated : Response :=
  ⟨401, .json (.object [("detail", .text Fault.unauthenticatedDetail)]),
    [("www-authenticate", "Bearer")]⟩

/-- A response with an error body. -/
def failure (status : Nat) (error : String) (detail code : Option String) : Response :=
  .plain status (.json (ErrorBody.toJson ⟨error, detail, code⟩))

/-- The response when the service itself breaks down. -/
def breakdown : Response := .plain 500 (.text "Internal Server Error")

end Http

open Http

namespace ServiceError

/-- What an error body shows of a value: a text, or nothing for null.  No other value can be
shown. -/
def shownPart? : Json → Option (Option String)
  | .null => some none
  | .text s => some (some s)
  | _ => none

/-- The codes of a failed validation, if all of them are texts. -/
def codes? (e : ServiceError) : Option (List String) :=
  match e.details.get? "errors" with
  | some (.array items) => items.mapM Json.text?
  | _ => none

/-- The reply with an error body that shows a detail and the code of an error. -/
def bodyReply? (e : ServiceError) (t : Treatment) (error : String) (detail : Json) :
    Option Response := do
  let detail ← shownPart? detail
  let code ← shownPart? e.codeValue
  some (failure t.status error detail code)

/-- The reply to an error by its treatment, if what it shows can be shown. -/
def reply? (e : ServiceError) : Option Response :=
  match Treatment.ofKind e.kind with
  | .unauthenticated => some unauthenticated
  | .forbidden => e.bodyReply? .forbidden "Forbidden" (.text "Insufficient permissions")
  | .invalid =>
      e.codes?.map fun codes =>
        .plain Treatment.invalid.status (.json (ValidationBody.ofErrors codes).toJson)
  | .conflict => e.bodyReply? .conflict "Conflict" e.messageValue
  | .notFound => e.bodyReply? .notFound "Not Found" e.messageValue
  | .internal =>
      e.bodyReply? .internal "Internal Server Error" (.text "An internal error occurred")

/-- The response to a service error. -/
def response (e : ServiceError) : Response := e.reply?.getD breakdown

end ServiceError

/-- The response to a fault. -/
def Fault.response : Fault → Response
  | .service e => e.response
  | .unauthenticated => Http.unauthenticated
  | _ => breakdown

/-- The level at which a fault is noted by the interface. -/
def Fault.level? : Fault → Option Level
  | .service e => (Treatment.ofKind e.kind).level?
  | _ => none

/-- Whether a fault is answered by the interface rather than by the server around it. -/
def Fault.isAnswered : Fault → Bool
  | .service e => e.reply?.isSome
  | .unauthenticated => true
  | _ => false

end IdentityService
