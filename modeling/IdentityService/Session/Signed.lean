import IdentityService.Bytes.Base64Url
import IdentityService.Bytes.Hmac
import IdentityService.Bytes.Utf8
import IdentityService.Json.Reader
import IdentityService.Json.Writer
import IdentityService.Session.Machine

/-!
# Signed Objects

A signed object is three segments joined by points: a header, a payload and the
keyed digest of the first two, all in URL-safe base 64.

## Main definitions

- `Signed.write`: signs a payload.
- `Signed.checkSignatureText`: accepts a signature in canonical spelling only.
- `Signed.split`: the header and the payload of a token, before its signature is checked.
- `Signed.checkSignature`: compares the signature with the digest.
-/

namespace IdentityService.Signed

/-! ## §1 Segments -/

/-- The parts of a text between points. -/
def segments : List Char → List (List Char)
  | [] => [[]]
  | c :: rest =>
      if c = '.' then [] :: segments rest
      else
        match segments rest with
        | s :: more => (c :: s) :: more
        | [] => [[c]]

/-- A text as a segment. -/
def segment (cs : List Char) : List Char := Base64Url.encode (Utf8.encode cs)

/-- The keyed digest of two segments with the point between them. -/
def digest (key : List UInt8) (header payload : List Char) : List UInt8 :=
  Hmac.sign key (Utf8.encode (header ++ '.' :: payload))

/-- The digest of two segments, as a segment. -/
def signature (key : List UInt8) (header payload : List Char) : List Char :=
  Base64Url.encode (digest key header payload)

/-! ## §2 Writing -/

/-- The only algorithm. -/
def algorithm : String := "HS256"

/-- The fields of the header of every written token. -/
def headerFields : Fields := [("alg", .text algorithm), ("typ", .text "JWT")]

/-- The header of every written token. -/
def header : Json := .object headerFields

/-- A payload signed with a key. -/
def write (key : List UInt8) (payload : Json) : List Char :=
  let h := segment header.compact
  let p := segment payload.compact
  h ++ '.' :: p ++ '.' :: signature key h p

/-! ## §3 The spelling of signatures -/

/-- Characters outside ASCII become question marks. -/
def asciiOnly (cs : List Char) : List Char :=
  cs.map fun c => if c.toNat < 128 then c else '?'

/-- Refuses a text without exactly three segments, and one whose third segment is not the
canonical spelling of some bytes. -/
def checkSignatureText (token : List Char) : Except TokenFault Unit :=
  match segments token with
  | [_, _, s] =>
      let s := asciiOnly s
      match Base64Url.decodeLeniently? s with
      | none => .error .signatureMalformed
      | some bytes => if Base64Url.encode bytes = s then .ok () else .error .signatureNotCanonical
  | _ => .error .segmentCount

/-! ## §4 Opening -/

/-- The object in a header segment. -/
def readHeader (machine : Machine) (segment : List Char) : Outcome Fields :=
  match Base64Url.decode? segment with
  | none => .error (.service (TokenFault.error .headerPadding))
  | some bytes => machine.readObject .headerText bytes

/-- Whether a header says that its payload is not encoded. -/
def isUnencoded (header : Fields) : Bool :=
  match header.get? "b64" with
  | some (.bool false) => true
  | _ => false

/-- The bytes of a payload segment. -/
def payloadBytes (header : Fields) (segment : List Char) : Except TokenFault (List UInt8) :=
  if isUnencoded header then
    if segment.isEmpty then .ok [] else .error .payloadNotEmpty
  else
    match Base64Url.decode? segment with
    | none => .error .payloadPadding
    | some bytes => .ok bytes

/-- Checks the entries of the list of critical extensions. -/
def checkCriticalItems (header : Fields) : List Json → Except TokenFault Unit
  | [] => .ok ()
  | .text "b64" :: rest =>
      if header.has "b64" then checkCriticalItems header rest else .error .criticalMissing
  | .text name :: _ => .error (.criticalUnknown name)
  | .brokenText b :: _ => .error (.criticalUnknown (RawText.broken b).shown)
  | _ :: _ => .error .criticalItemNotText

/-- Checks the list of critical extensions, if there is one. -/
def checkCritical (header : Fields) : Except TokenFault Unit :=
  match header.get? "crit" with
  | some (.array []) => .error .criticalNotList
  | some (.array items) => checkCriticalItems header items
  | some _ => .error .criticalNotList
  | none => .ok ()

/-- Whether the list of critical extensions names the extension for payloads that are not
encoded. -/
def listsUnencoded (header : Fields) : Bool :=
  match header.get? "crit" with
  | some (.array items) => items.any fun v => v == .text "b64"
  | _ => false

/-- Refuses a payload that is not encoded. -/
def checkEncoded (header : Fields) : Except TokenFault Unit :=
  if isUnencoded header then
    if listsUnencoded header then .error .unencodedDetached else .error .unencodedNotCritical
  else .ok ()

/-- Checks the key name of a header, if there is one. -/
def checkKeyName (header : Fields) : Except TokenFault Unit :=
  match header.get? "kid" with
  | some v => if v.isString then .ok () else .error .keyIdNotText
  | none => .ok ()

/-- Checks the key name and the extensions of a header. -/
def checkExtensions (header : Fields) : Except TokenFault Unit := do
  checkKeyName header
  checkCritical header
  checkEncoded header

/-- Checks that a header names the only algorithm. -/
def checkAlgorithm (header : Fields) : Except TokenFault Unit :=
  match header.get? "alg" with
  | none => .error .algorithmMissing
  | some v => if v == .text algorithm then .ok () else .error .algorithmNotAllowed

/-- The object in the bytes of a payload. -/
def readPayload (machine : Machine) (bytes : List UInt8) : Outcome Fields :=
  machine.readObject .payloadText bytes

/-- Checks a header and takes the bytes of the payload behind it. -/
def checkHeader (header : Fields) (payload : List Char) : Except TokenFault (List UInt8) := do
  let bytes ← payloadBytes header payload
  checkExtensions header
  checkAlgorithm header
  .ok bytes

/-- The header and the payload bytes of a token before its signature is checked. -/
def split (machine : Machine) (token : List Char) : Outcome (Fields × List UInt8) :=
  match segments token with
  | [h, p, _] => do
      let header ← readHeader machine h
      let bytes ← TokenFault.refused (checkHeader header p)
      .ok (header, bytes)
  | _ => .error (.service (TokenFault.error .segmentCount))

/-- Checks that the third segment spells the digest of the first two under a key.  The digests
are compared as bytes: whether the spelling is the canonical one has been checked before. -/
def checkSignature (key : List UInt8) (token : List Char) : Except TokenFault Unit :=
  match segments token with
  | [h, p, s] =>
      if Base64Url.decode? s = some (digest key h p) then .ok () else .error .signatureMismatch
  | _ => .error .segmentCount

end IdentityService.Signed
