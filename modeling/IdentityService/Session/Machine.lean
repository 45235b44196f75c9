import IdentityService.Json.Reader
import IdentityService.Session.TokenFault

/-!
# The Surroundings of a Verification

Opening a token depends on two things beside the token and the settings: the time of the
machine, and what the token library does about a text nested deeper than the interpreter
goes.  A library that takes the fault of the interpreter for any other unreadable text
refuses the token; one that does not lets the fault through.  Nothing here says which of
the two is installed, so both are described.
-/

namespace IdentityService

/-- What a verification takes from its surroundings. -/
structure Machine where
  /-- The time of the machine, in seconds since 1970. -/
  time : Int
  /-- Whether the token library refuses a text nested too deep as it refuses an unreadable one. -/
  refusesDepth : Bool
  deriving DecidableEq, Repr

namespace Machine

/-- What becomes of a text that is not read, where an unreadable one is refused for a cause. -/
def unread (machine : Machine) (cause : TokenFault) : Json.ReadFault → Fault
  | .unreadable => .service cause.error
  | .tooDeep => if machine.refusesDepth then .service cause.error else .tooDeep

/-- The object in bytes; anything else is refused for a cause. -/
def readObject (machine : Machine) (cause : TokenFault) (bytes : List UInt8) : Outcome Fields :=
  match Json.ofBytes bytes with
  | .ok (.object fs) => .ok fs
  | .ok _ => .error (.service cause.error)
  | .error fault => .error (machine.unread cause fault)

end Machine

end IdentityService
