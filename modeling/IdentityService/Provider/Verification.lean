import IdentityService.Number.Shortest
import IdentityService.Provider.Handle
import IdentityService.Provider.Principal

/-!
# External Verification

Verifying a provider token: the client is called once, under a time limit, and whatever it
does becomes a principal or a classified failure.  A blank token is refused before the
call, and a time limit that is not positive ends the call before it begins.

## Main definitions

- `Verifier.verifyResult`: the tagged result of a verification.
- `Verifier.verify`: the principal, or the error that hides all but the reason.
- `Verifier.verifyOrNone`: the principal, if there is one.
-/

namespace IdentityService

/-! ## §1 Calls -/

/-- What the client does about a token. -/
inductive CallOutcome
  /-- It returns claims. -/
  | claims (v : Json)
  /-- It fails. -/
  | failed (f : Fault)
  /-- It does not answer within the time limit. -/
  | hangs

/-- A client of the provider, as its behaviour for every token. -/
abbrev ProviderClient := String → CallOutcome

/-! ## §2 Results -/

/-- Why a token failed its verification. -/
inductive VerificationReason
  | rejected
  | timeout
  | unavailable
  | malformed
  deriving DecidableEq, Repr

namespace VerificationReason

/-- Every reason, in order. -/
def all : List VerificationReason := [rejected, timeout, unavailable, malformed]

/-- The name of a reason. -/
def name : VerificationReason → String
  | rejected => "REJECTED"
  | timeout => "TIMEOUT"
  | unavailable => "UNAVAILABLE"
  | malformed => "MALFORMED"

/-- The text of a reason in reports. -/
def text : VerificationReason → String
  | rejected => "rejected"
  | timeout => "timeout"
  | unavailable => "unavailable"
  | malformed => "malformed"

end VerificationReason

/-- A verified principal, or a reason for a failure and its words. -/
inductive VerificationResult
  | success (p : Principal)
  | failure (reason : VerificationReason) (message : String)

namespace VerificationResult

/-- A result as a record. -/
def toJson : VerificationResult → Json
  | success p => .object [("principal", p.toJson)]
  | failure reason message => .object [("reason", .text reason.text), ("message", .text message)]

/-- Reads a success from a record. -/
def readSuccess (fs : Fields) : Checked VerificationResult :=
  success <$> Schema.required fs "principal" (Schema.record Principal.read)

/-- Reads a failure from a record. -/
def readFailure (fs : Fields) : Checked VerificationResult :=
  failure
    <$> Schema.required fs "reason"
      (Schema.oneOf .notAMember (VerificationReason.all.map fun r => (r.text, r)))
    <*> Schema.required fs "message" Schema.plainText

end VerificationResult

/-! ## §3 The verifier -/

/-- A verifier: a client and the time limit of its calls. -/
structure Verifier where
  client : ProviderClient
  timeout : Binary64

namespace Verifier

/-- The verifier of an initialized provider. -/
def ofHandle (h : ProviderHandle ProviderClient) : Verifier := ⟨h.client, h.timeout⟩

/-- Whether verifying a token calls the client. -/
def calls (v : Verifier) (token : String) : Bool :=
  !Text.isBlankText token && v.timeout.isPositive

/-- The message of a failure must be a string; a message that an error carries may be anything. -/
def failureWith (reason : VerificationReason) (message : Json) : Outcome VerificationResult :=
  match message.raw? with
  | some words => .ok (.failure reason words.shown)
  | none => .error (.issues [⟨[.field "message"], .textExpected⟩])

/-- The result of a call that is not answered in time. -/
def timedOut : VerificationResult := .failure .timeout "Identity provider timed out"

/-- The result for a call that failed, as the caller comes to know of it.  A cancelled task and an
exit are no failures of the call: they end the caller as well.  An exhausted iterator cannot be
handed from one task to another, so the caller waits for the call until its time is over. -/
def failureOf : Fault → Outcome VerificationResult
  | .cancelled => .error .cancelled
  | .exit status => .error (.exit status)
  | .exhausted | .timeout _ => .ok timedOut
  | .service e =>
      if e.kind.isA .providerUnavailable then failureWith .unavailable e.messageValue
      else if e.kind.isA .providerTokenRejected then failureWith .rejected e.messageValue
      else .ok (.failure .unavailable (Fault.service e).summary)
  | f => .ok (.failure .unavailable f.summary)

/-- The result for returned claims, which must be an object. -/
def resultOf : Json → Outcome VerificationResult
  | .object claims =>
      match Principal.ofClaims claims with
      | .ok p => .ok (.success p)
      | .error fault => .ok (.failure .malformed fault.message)
  | _ => .error .absentMember

/-- The tagged result of a verification. -/
def verifyResult (v : Verifier) (token : String) : Outcome VerificationResult :=
  if Text.isBlankText token then .ok (.failure .malformed "Empty identity token")
  else if !v.timeout.isPositive then .ok timedOut
  else
    match v.client token with
    | .hangs => .ok timedOut
    | .failed f => failureOf f
    | .claims c => resultOf c

/-- The principal of a token, or the error that names the reason alone. -/
def verify (v : Verifier) (token : String) : Outcome Principal := do
  match ← v.verifyResult token with
  | .success p => .ok p
  | .failure reason _ => .error (.service (.identityVerification reason.text))

/-- The principal of a token, if there is one. -/
def verifyOrNone (v : Verifier) (token : String) : Outcome (Option Principal) := do
  match ← v.verifyResult token with
  | .success p => .ok (some p)
  | .failure _ _ => .ok none

/-- The principal of the credentials, or the uniform fault. -/
def current (v : Verifier) : Option String → Outcome Principal
  | none => .error .unauthenticated
  | some token => do
      match ← v.verifyOrNone token with
      | some p => .ok p
      | none => .error .unauthenticated

/-! ## §4 Journal -/

/-- The line of a call that is not answered in time. -/
def timeoutLine (timeout : Binary64) : JournalLine :=
  ⟨.verifier, .warning, "Identity provider timed out after " ++ timeout.tenthsText
    ++ "s (reason=timeout)"⟩

/-- The lines that a failed call leaves. -/
def failureJournal (timeout : Binary64) : Fault → List JournalLine
  | .cancelled | .exit _ => []
  | .exhausted | .timeout _ => [timeoutLine timeout]
  | .service e =>
      if e.kind.isA .providerUnavailable then
        [⟨.verifier, .warning,
          "Identity provider unavailable (reason=unavailable): " ++ e.message⟩]
      else if e.kind.isA .providerTokenRejected then
        [⟨.verifier, .info,
          "Identity token rejected by provider (reason=rejected): " ++ e.message⟩]
      else [⟨.verifier, .error, "Identity provider call failed (reason=unavailable)"⟩]
  | _ => [⟨.verifier, .error, "Identity provider call failed (reason=unavailable)"⟩]

/-- The lines that returned claims leave. -/
def claimsJournal : Json → List JournalLine
  | .object claims =>
      match Principal.ofClaims claims with
      | .ok _ => []
      | .error fault =>
          [⟨.verifier, .warning, "Identity claims unusable (reason=malformed): " ++ fault.message⟩]
  | _ => []

/-- What a verification leaves in the journal. -/
def journal (v : Verifier) (token : String) : List JournalLine :=
  if Text.isBlankText token then []
  else if !v.timeout.isPositive then [timeoutLine v.timeout]
  else
    match v.client token with
    | .hangs => [timeoutLine v.timeout]
    | .failed f => failureJournal v.timeout f
    | .claims c => claimsJournal c

end Verifier

end IdentityService
