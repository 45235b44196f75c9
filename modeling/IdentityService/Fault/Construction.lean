import IdentityService.Fault.ServiceError

/-!
# Errors from Named Arguments

Building a service error of a given kind from named arguments.  An argument that the
kind does not know, or one that is missing, makes the construction fail.
-/

namespace IdentityService.ServiceError

/-- The arguments that a kind requires, and those it accepts besides. -/
def parameters : ErrorKind → List String × List String
  | .config => (["message"], ["code"])
  | .validation => (["errors"], ["message"])
  | .externalService => (["message", "service"], ["code", "details"])
  | .missingToken | .tokenExpired | .tokenInvalid => ([], ["message"])
  | .identityVerification => (["reason"], ["message"])
  | .insufficientPermissions => (["required_role", "roles"], [])
  | .alreadyInitialized | .providerNotInitialized => ([], ["message"])
  | .providerTokenRejected | .providerUnavailable | .identityStore => (["message"], ["details"])
  | .identityConflict => (["field"], [])
  | .missingEmail => ([], [])
  | .identityNotFound => (["subject_id"], [])
  | .refinement _ parent => parameters parent
  | _ => (["message"], ["code", "details"])

/-- Exactly the required and accepted arguments are given. -/
def acceptsArguments (kind : ErrorKind) (args : Fields) : Bool :=
  let (needed, further) := parameters kind
  args.all (fun a => (needed ++ further).contains a.1) && needed.all args.has

/-- An argument as a text; absent, null and empty arguments are the empty text. -/
def argumentText (args : Fields) (name : String) : String :=
  match args.get? name with
  | none | some .null => ""
  | some v => v.display

/-- The message argument, or the usual words. -/
def messageOr (args : Fields) (usual : ServiceError) : String :=
  match args.get? "message" with
  | some v => v.display
  | none => usual.message

/-- The details argument; null and empty details are no details. -/
def argumentDetails (args : Fields) : Fields :=
  ((args.get? "details").bind Json.object?).getD []

/-- An entry of a validation error: an object with a known code stands for the code. -/
def entryOf (v : Json) : Reported :=
  match (v.field? "code").bind Json.text? |>.bind ErrorCode.ofName? with
  | some c => .code c
  | none => .other v

/-- The entries argument. -/
def argumentEntries (args : Fields) : List Reported :=
  (((args.get? "errors").bind Json.array?).getD []).map entryOf

/-- What the constructor of a kind makes of arguments, for an error of the kind itself or of one
below it; a refinement is built like the kind that it refines. -/
def build (own : ErrorKind) (args : Fields) : ErrorKind → ServiceError
  | .refinement _ parent => build own args parent
  | .config =>
      let code := argumentText args "code"
      plain own (argumentText args "message") (if code.isEmpty then "CONFIG_ERROR" else code) []
  | .validation =>
      validationOf own (argumentEntries args) (messageOr args (validation []))
  | .externalService =>
      externalOf own (argumentText args "message") (argumentText args "service")
        (argumentText args "code") (argumentDetails args)
  | .missingToken => missingTokenWith (messageOr args missingToken)
  | .tokenExpired => tokenExpiredWith (messageOr args tokenExpired)
  | .tokenInvalid => tokenInvalid (messageOr args (tokenInvalid "Invalid authentication token"))
  | .identityVerification =>
      let reason := argumentText args "reason"
      identityVerificationWith reason (messageOr args (identityVerification reason))
  | .insufficientPermissions =>
      let roles := (((args.get? "roles").bind Json.array?).getD []).map Json.toRaw
      insufficientPermissions (argumentText args "required_role") roles
  | .alreadyInitialized => alreadyInitializedWith (messageOr args alreadyInitialized)
  | .providerNotInitialized => providerNotInitializedWith (messageOr args providerNotInitialized)
  | .providerTokenRejected =>
      providerTokenRejected (argumentText args "message") (argumentDetails args)
  | .providerUnavailable =>
      providerUnavailable (argumentText args "message") (argumentDetails args)
  | .identityConflict => identityConflict (argumentText args "field")
  | .missingEmail => missingEmail
  | .identityNotFound => identityNotFound ((args.get? "subject_id").getD .null).toRaw
  | .identityStore => identityStore (argumentText args "message") (argumentDetails args)
  | _ =>
      plain own (argumentText args "message") (argumentText args "code") (argumentDetails args)

/-- The code argument of an error that has been built; an empty one changes nothing. -/
def codeArgument (e : ServiceError) (args : Fields) : Json :=
  match args.get? "code" with
  | some v => if v.isEmptyValue then e.codeValue else v
  | none => e.codeValue

/-- Builds an error of a kind from arguments that the kind accepts.  A message and a code are kept
as they are, whether or not they are texts. -/
def fromArguments (kind : ErrorKind) (args : Fields) : ServiceError :=
  let e := build kind args kind
  { e with
    kind := kind
    messageValue := (args.get? "message").getD e.messageValue
    codeValue := e.codeArgument args }

/-- Builds an error of a kind, if the arguments fit. -/
def construct? (kind : ErrorKind) (args : Fields) : Option ServiceError :=
  if acceptsArguments kind args then some (fromArguments kind args) else none

end IdentityService.ServiceError
