import IdentityService.Session.Claims
import IdentityService.Session.Secret
import IdentityService.Session.Settings
import IdentityService.Session.Signed

/-!
# Session Tokens

Issuing and verifying signed session tokens.  Verification is local: the spelling of
the signature first, then header, signature and claims, and last the expiry against the
clock of the service.  A token whose expiry equals the reading of the clock is still
accepted.  A token is a text: the header that it comes in is read byte by byte, and so has
no half of a surrogate pair in it.

## Main definitions

- `SessionService.ofSettings`: refuses a blank secret.
- `SessionService.issue`: a token for a subject.
- `SessionService.verify`: the claims of a token.
-/

namespace IdentityService

/-! ## §1 Claims of a payload -/

namespace SessionPayload

/-- The claims that a payload must carry, in the order in which they are looked for. -/
def requiredClaims : List String := ["sub", "email", "iat", "exp", "iss", "aud"]

/-- A claim is missing when it is absent or null. -/
def lacks (payload : Fields) (name : String) : Bool :=
  match payload.get? name with
  | none | some .null => true
  | some _ => false

/-- The integer that a claim stands for, rounding fractions toward zero. -/
def integerClaim? : Json → Option Int
  | .int n => some n
  | .bool b => some (if b then 1 else 0)
  | .fraction x => x.truncated?
  | .text s => Number.readInteger? s
  | _ => none

/-- Checks the claim before which a token is not valid, against the time of the machine. -/
def checkNotBefore (payload : Fields) (machineTime : Int) : Except TokenFault Unit :=
  match payload.get? "nbf" with
  | none => .ok ()
  | some v =>
      match integerClaim? v with
      | none => .error .notBeforeNotInteger
      | some n => if machineTime < n then .error .notYetValid else .ok ()

/-- Checks the issuer. -/
def checkIssuer (payload : Fields) (issuer : String) : Except TokenFault Unit :=
  match payload.get? "iss" with
  | some (.text s) => if s = issuer then .ok () else .error .issuerMismatch
  | some (.brokenText _) => .error .issuerMismatch
  | _ => .error .issuerNotText

/-- Checks the audience, a text or a list of texts. -/
def checkAudience (payload : Fields) (audience : String) : Except TokenFault Unit :=
  match payload.get? "aud" with
  | none => .error (.claimMissing "aud")
  | some v =>
      if v.isEmptyValue then .error (.claimMissing "aud")
      else
        let entries := match v with
          | .array items => items
          | v => [v]
        if !entries.all Json.isString then .error .audienceFormat
        else if entries.any fun e => e == .text audience then .ok ()
        else .error .audienceMismatch

/-- Checks that a claim, if present, is a text. -/
def checkText (payload : Fields) (name : String) (fault : TokenFault) : Except TokenFault Unit :=
  match payload.get? name with
  | some v => if v.isString then .ok () else .error fault
  | none => .ok ()

/-- Checks that no required claim is missing. -/
def checkRequired (payload : Fields) : Except TokenFault Unit :=
  match requiredClaims.find? (lacks payload) with
  | some name => .error (.claimMissing name)
  | none => .ok ()

/-- Checks the registered claims of a payload. -/
def checkClaims (payload : Fields) (issuer audience : String) (machineTime : Int) :
    Except TokenFault Unit := do
  checkRequired payload
  checkNotBefore payload machineTime
  checkIssuer payload issuer
  checkAudience payload audience
  checkText payload "sub" .subjectNotText
  checkText payload "jti" .tokenIdNotText

/-- The claims of a payload that has passed every check. -/
def ofFields (payload : Fields) (issuer audience : String) (machineTime : Int) :
    Except TokenFault SessionPayload := do
  checkClaims payload issuer audience machineTime
  match read payload with
  | .ok p => .ok p
  | _ => .error .claimTypes

end SessionPayload

/-! ## §2 The service -/

/-- A session token service with its signing configuration. -/
structure SessionService where
  settings : SessionSettings
  deriving DecidableEq, Repr

namespace SessionService

/-- A service; a blank secret is refused. -/
def ofSettings (settings : SessionSettings) : Outcome SessionService :=
  if Text.isBlankText settings.secret then
    .error (.service (.config
      "JWT secret must not be blank. Set the JWT_SECRET environment variable."))
  else .ok ⟨settings⟩

/-- The lifetime of a new token in seconds. -/
def expiresIn (s : SessionService) : Int := s.settings.expiry.wholeSeconds

/-- The payload of a token issued at a reading of a clock in a zone, which gives the offset at
every reading.  The expiry is counted on the wall clock. -/
def payloadIn (s : SessionService) (zone : Int → Option Int) (clock : Moment)
    (subject : TokenSubject) : Outcome SessionPayload :=
  let issuedAt := clock.truncated
  match issuedAt.addIn? zone s.settings.expiry with
  | none => .error .overflow
  | some expiresAt =>
      .ok ⟨subject.subject, subject.email, subject.roles, issuedAt.timestamp, expiresAt.timestamp,
        s.settings.issuer, s.settings.audience⟩

/-- The payload of a token issued at a reading of a clock whose offset never changes. -/
def payloadAt (s : SessionService) (clock : Moment) (subject : TokenSubject) :
    Outcome SessionPayload :=
  s.payloadIn (fun _ => clock.offset) clock subject

/-- A token for a subject, issued at a reading of a clock in a zone. -/
def issueIn (s : SessionService) (zone : Int → Option Int) (clock : Moment)
    (subject : TokenSubject) : Outcome String := do
  let payload ← s.payloadIn zone clock subject
  let key ← Secret.key s.settings.secret
  .ok (String.ofList (Signed.write key payload.toJson))

/-- A token for a subject, issued at a reading of a clock whose offset never changes. -/
def issue (s : SessionService) (clock : Moment) (subject : TokenSubject) : Outcome String :=
  s.issueIn (fun _ => clock.offset) clock subject

/-- The payload of a token whose spelling, signature and claims are in order. -/
def payloadOf (s : SessionService) (machine : Machine) (token : List Char) :
    Outcome SessionPayload := do
  TokenFault.refused (Signed.checkSignatureText token)
  let (_, bytes) ← Signed.split machine token
  let key ← Secret.key s.settings.secret
  TokenFault.refused (Signed.checkSignature key token)
  let fields ← Signed.readPayload machine bytes
  TokenFault.refused
    (SessionPayload.ofFields fields s.settings.issuer s.settings.audience machine.time)

/-- A number of seconds in a claim as a moment. -/
def momentClaim (seconds : Int) : Outcome Moment :=
  match Moment.ofTimestamp seconds with
  | .ok m => .ok m
  | .error .tooWide => .error .overflow
  | .error .yearTooWide => .error .system
  | .error .yearOutOfRange => .error (.badValue none)

/-- The claims of a payload at a reading of the clock. -/
def claimsAt (clock : Moment) (p : SessionPayload) : Outcome SessionClaims := do
  let expiresAt ← momentClaim p.exp
  match clock.isAfter? expiresAt with
  | none => .error .wrongType
  | some true => .error (.service .tokenExpired)
  | some false =>
      let issuedAt ← momentClaim p.iat
      .ok ⟨p.sub, p.email, p.roles, issuedAt, expiresAt, p.iss, p.aud⟩

/-- The claims of a token. -/
def verify (s : SessionService) (clock : Moment) (machine : Machine) (token : String) :
    Outcome SessionClaims :=
  if token.isEmpty then .error (.service .missingToken)
  else do
    let payload ← s.payloadOf machine token.toList
    claimsAt clock payload

/-- The subject of a token. -/
def verifySubject (s : SessionService) (clock : Moment) (machine : Machine) (token : String) :
    Outcome TokenSubject := do
  let claims ← s.verify clock machine token
  claims.toSubject.outcome

end SessionService

end IdentityService
