import IdentityService.Fault.ServiceError
import IdentityService.Schema.Checked

/-!
# Faults

Everything that can end an operation without a result: the errors the service raises
on purpose, failed checks of records, and the faults of the machinery below.
-/

namespace IdentityService

/-- A transport fault of a network client. -/
inductive TransportFault
  | connect
  | readTimeout
  | other
  deriving DecidableEq, Repr

/-- A fault reported by the provider's own client. -/
inductive ProviderClientFault
  /-- The request was refused. -/
  | refused
  /-- The request was refused by the remote interface. -/
  | refusedByInterface
  /-- The request may be tried again. -/
  | retryable
  deriving DecidableEq, Repr

/-- A reason why an operation has no result. -/
inductive Fault
  | service (e : ServiceError)
  | issues (list : List Issue)
  | unauthenticated
  | badValue (message : Option String)
  | runtime (message : String)
  | badKey (message : String)
  | badSetting (message : String)
  | exit (status : Int)
  /-- The task that runs the operation is cancelled. -/
  | cancelled
  /-- An iterator is exhausted. -/
  | exhausted
  /-- A text is nested deeper than the interpreter goes. -/
  | tooDeep
  /-- A string that spells no text must be written in bytes. -/
  | unwritable
  | wrongType
  | absentKey (key : String)
  | absentMember
  | overflow
  | system
  | timeout (message : String)
  | transport (kind : TransportFault) (message : String)
  | providerClient (kind : ProviderClientFault) (message : String)
  deriving DecidableEq

namespace Fault

/-- The detail of every authentication failure. -/
def unauthenticatedDetail : String :=
  "Invalid or expired token. Please authenticate and provide a valid token."

/-- The name under which a fault is reported. -/
def label : Fault → String
  | service e => e.kind.label
  | issues _ => "ValidationError"
  | unauthenticated => "AuthError"
  | badValue _ => "ValueError"
  | runtime _ => "RuntimeError"
  | badKey _ => "InvalidKeyError"
  | badSetting _ => "SettingsError"
  | exit _ => "SystemExit"
  | cancelled => "CancelledError"
  | exhausted => "StopIteration"
  | tooDeep => "RecursionError"
  | unwritable => "UnicodeEncodeError"
  | wrongType => "TypeError"
  | absentKey _ => "KeyError"
  | absentMember => "AttributeError"
  | overflow => "OverflowError"
  | system => "OSError"
  | timeout _ => "TimeoutError"
  | transport .connect _ => "ConnectError"
  | transport .readTimeout _ => "ReadTimeout"
  | transport .other _ => "HTTPError"
  | providerClient .refused _ => "AuthError"
  | providerClient .refusedByInterface _ => "AuthApiError"
  | providerClient .retryable _ => "AuthRetryableError"

/-- The text of a fault.  An absent key is shown between quotes. -/
def text : Fault → String
  | service e => e.message
  | unauthenticated => unauthenticatedDetail
  | badValue message => message.getD ""
  | runtime message => message
  | badKey message => message
  | badSetting message => message
  | absentKey key => Text.quoted key
  | timeout message => message
  | transport _ message => message
  | providerClient _ message => message
  | _ => ""

/-- A fault with its name in front. -/
def summary (f : Fault) : String := f.label ++ ": " ++ f.text

end Fault

/-- The outcome of an operation. -/
abbrev Outcome (α : Type) := Except Fault α

/-- A checked value as the outcome of an operation. -/
def Checked.outcome {α : Type} : Checked α → Outcome α
  | .ok a => .ok a
  | .faulty is => .error (.issues is)
  | .overflow => .error .overflow

/-! ## Journal -/

/-- The level of a journal line. -/
inductive Level
  | debug
  | info
  | warning
  | error
  deriving DecidableEq, Repr

/-- The name of a level. -/
def Level.label : Level → String
  | debug => "DEBUG"
  | info => "INFO"
  | warning => "WARNING"
  | error => "ERROR"

/-- The part of the service that writes a journal line. -/
inductive Component
  | provider
  | verifier
  | synchronizer
  deriving DecidableEq, Repr

/-- A line that an operation leaves in the journal. -/
structure JournalLine where
  source : Component
  level : Level
  message : String
  deriving DecidableEq, Repr

end IdentityService
