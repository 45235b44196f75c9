import IdentityService.Fault.Fault

/-!
# Refused Tokens

Why a text is refused as a session token.
-/

namespace IdentityService

/-- Why a token is refused. -/
inductive TokenFault
  | segmentCount
  | signatureMalformed
  | signatureNotCanonical
  | headerPadding
  | headerText
  | payloadPadding
  | payloadText
  | payloadNotEmpty
  | keyIdNotText
  | criticalNotList
  | criticalItemNotText
  | criticalUnknown (name : String)
  | criticalMissing
  | unencodedNotCritical
  | unencodedDetached
  | algorithmMissing
  | algorithmNotAllowed
  | signatureMismatch
  | claimMissing (name : String)
  | notBeforeNotInteger
  | notYetValid
  | issuerNotText
  | issuerMismatch
  | audienceFormat
  | audienceMismatch
  | subjectNotText
  | tokenIdNotText
  | claimTypes
  deriving DecidableEq, Repr

namespace TokenFault

/-- The cause in words. -/
def cause : TokenFault → String
  | segmentCount => "expected three segments"
  | signatureMalformed => "malformed signature"
  | signatureNotCanonical => "signature verification failed"
  | headerPadding => "Invalid header padding"
  | headerText => "Invalid header string:"
  | payloadPadding => "Invalid payload padding"
  | payloadText => "Invalid payload string:"
  | payloadNotEmpty => "Payload segment must be empty when 'b64' is false."
  | keyIdNotText => "Key ID header parameter must be a string"
  | criticalNotList => "Invalid 'crit' header: must be a non-empty list"
  | criticalItemNotText => "Invalid 'crit' header: values must be strings"
  | criticalUnknown name => "Unsupported critical extension: " ++ name
  | criticalMissing => "Critical extension 'b64' is missing from headers"
  | unencodedNotCritical => "The 'b64' header parameter requires 'b64' to be listed in 'crit'."
  | unencodedDetached =>
      "It is required that you pass in a value for the \"detached_payload\" argument to decode a "
        ++ "message having the b64 header set to false."
  | algorithmMissing => "Algorithm not specified"
  | algorithmNotAllowed => "The specified alg value is not allowed"
  | signatureMismatch => "Signature verification failed"
  | claimMissing name => "Token is missing the \"" ++ name ++ "\" claim"
  | notBeforeNotInteger => "Not Before claim (nbf) must be an integer."
  | notYetValid => "The token is not yet valid (nbf)"
  | issuerNotText => "Payload Issuer (iss) must be a string"
  | issuerMismatch => "Invalid issuer"
  | audienceFormat => "Invalid claim format in token"
  | audienceMismatch => "Audience doesn't match"
  | subjectNotText => "Subject must be a string"
  | tokenIdNotText => "JWT ID must be a string"
  | claimTypes => "unexpected claim types"

/-- The error that refuses a token. -/
def error (f : TokenFault) : ServiceError := .tokenInvalid ("Invalid token: " ++ f.cause)

/-- A refused token as the outcome of an operation. -/
def refused {α : Type} : Except TokenFault α → Outcome α
  | .ok a => .ok a
  | .error f => .error (.service f.error)

end TokenFault

end IdentityService
