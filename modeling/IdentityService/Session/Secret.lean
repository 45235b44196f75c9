import IdentityService.Bytes.Utf8
import IdentityService.Json.Reader
import IdentityService.Fault.Fault

/-!
# Shared Secrets

Which texts may serve as the shared secret of a keyed digest.  Texts that look like
one half of a key pair, a certificate or a written key are refused, because they are
public or were meant for another use.
-/

namespace IdentityService.Secret

/-! ## §1 Parts of texts -/

/-- Whether a list starts with another. -/
def startsWith : List Char → List Char → Bool
  | _, [] => true
  | [], _ :: _ => false
  | c :: cs, p :: ps => c == p && startsWith cs ps

/-- Whether some part of a list satisfies a property of what follows. -/
def anySuffix (p : List Char → Bool) : List Char → Bool
  | [] => p []
  | c :: cs => p (c :: cs) || anySuffix p cs

/-! ## §2 Armoured keys -/

/-- The labels of armoured keys and certificates. -/
def armourLabels : List String :=
  ["CERTIFICATE", "TRUSTED CERTIFICATE", "PRIVATE KEY", "PUBLIC KEY", "ENCRYPTED PRIVATE KEY",
    "OPENSSH PRIVATE KEY", "DSA PRIVATE KEY", "RSA PRIVATE KEY", "RSA PUBLIC KEY",
    "EC PRIVATE KEY", "DH PARAMETERS", "NEW CERTIFICATE REQUEST", "CERTIFICATE REQUEST",
    "SSH2 PUBLIC KEY", "SSH2 ENCRYPTED PRIVATE KEY", "X509 CRL"]

/-- A rule line at the front of a text: four hyphens, a hyphen or a space, a word, the label, a
hyphen or a space, four hyphens.  Gives what follows. -/
def ruleLine? (word label : String) (cs : List Char) : Option (List Char) :=
  let opening := (word ++ " " ++ label).toList
  match cs with
  | '-' :: '-' :: '-' :: '-' :: m :: rest =>
      if (m == '-' || m == ' ') && startsWith rest opening then
        match rest.drop opening.length with
        | m :: '-' :: '-' :: '-' :: '-' :: rest =>
            if m == '-' || m == ' ' then some rest else none
        | _ => none
      else none
  | _ => none

/-- An armoured block at the front of a text: an opening rule, at least one character, and a
closing rule with the same label. -/
def startsArmoured (label : String) (cs : List Char) : Bool :=
  match ruleLine? "BEGIN" label cs with
  | some (_ :: body) => anySuffix (fun rest => (ruleLine? "END" label rest).isSome) body
  | _ => false

/-- Whether a text holds an armoured key or certificate. -/
def isArmoured (cs : List Char) : Bool :=
  anySuffix (fun rest => armourLabels.any (startsArmoured · rest)) cs

/-! ## §3 Shell keys -/

/-- The names of public key formats of the secure shell. -/
def shellFormats : List String :=
  ["ssh-ed25519", "ssh-rsa", "ssh-dss", "ecdsa-sha2-nistp256", "ecdsa-sha2-nistp384",
    "ecdsa-sha2-nistp521"]

/-- The end of the name of every certificate format of the secure shell. -/
def certificateEnding : String := "-cert-v01@openssh.com"

/-- The space characters of ASCII. -/
def isAsciiSpace (c : Char) : Bool := c = ' ' || (9 ≤ c.toNat && c.toNat ≤ 13)

/-- Whether a text starts with the name of a certificate format, with a blank or a tab and another
word behind it. -/
def isShellCertificate (cs : List Char) : Bool :=
  let format := cs.takeWhile (!isAsciiSpace ·)
  let rest := cs.dropWhile (!isAsciiSpace ·)
  let next := rest.dropWhile fun c => c = ' ' || c = '\t'
  startsWith format.reverse certificateEnding.toList.reverse && next.length < rest.length
    && next.head?.any (!isAsciiSpace ·)

/-- Whether a text is a public key or a certificate of the secure shell. -/
def isShellKey (cs : List Char) : Bool :=
  shellFormats.any (fun f => startsWith cs f.toList) || isShellCertificate cs

/-! ## §4 Keys in bytes -/

/-- The opening bytes of the public keys and the private keys of four curves, each with the number
of bytes that follow. -/
def binaryForms : List (List UInt8 × Nat) :=
  [([48, 42, 48, 5, 6, 3, 43, 101, 112, 3, 33, 0], 32),
    ([48, 42, 48, 5, 6, 3, 43, 101, 110, 3, 33, 0], 32),
    ([48, 67, 48, 5, 6, 3, 43, 101, 113, 3, 58, 0], 57),
    ([48, 66, 48, 5, 6, 3, 43, 101, 111, 3, 57, 0], 56),
    ([48, 46, 2, 1, 0, 48, 5, 6, 3, 43, 101, 112, 4, 34, 4, 32], 32),
    ([48, 46, 2, 1, 0, 48, 5, 6, 3, 43, 101, 110, 4, 34, 4, 32], 32),
    ([48, 71, 2, 1, 0, 48, 5, 6, 3, 43, 101, 113, 4, 59, 4, 57], 57),
    ([48, 70, 2, 1, 0, 48, 5, 6, 3, 43, 101, 111, 4, 58, 4, 56], 56)]

/-- Whether bytes are a key in binary form. -/
def isBinaryKey (bytes : List UInt8) : Bool :=
  binaryForms.any fun (opening, size) =>
    bytes.take opening.length == opening && bytes.length == opening.length + size

/-! ## §5 Written keys -/

mutual

/-- Whether a value holds an object with a key type. -/
def holdsKeyType : Json → Bool
  | .array items => anyHoldsKeyType items
  | .object fields => fieldsHoldKeyType fields
  | _ => false

/-- Whether one of some values holds an object with a key type. -/
def anyHoldsKeyType : List Json → Bool
  | [] => false
  | v :: rest => holdsKeyType v || anyHoldsKeyType rest

/-- Whether fields have a key type, or hold an object with one. -/
def fieldsHoldKeyType : List (String × Json) → Bool
  | [] => false
  | (name, v) :: rest => name == "kty" || holdsKeyType v || fieldsHoldKeyType rest

end

/-- Whether bytes are JSON that holds a written key.  A text that is not read holds none. -/
def isWrittenKey (bytes : List UInt8) : Bool :=
  match Json.ofBytes bytes with
  | .ok v => holdsKeyType v
  | .error _ => false

/-! ## §6 Secrets -/

/-- The secret as bytes, unless it looks like another kind of key. -/
def key (s : String) : Outcome (List UInt8) :=
  let bytes := Utf8.ofString s
  if isArmoured s.toList || isShellKey s.toList || isBinaryKey bytes then
    .error (.badKey ("The specified key is an asymmetric key or x509 certificate and should not be "
      ++ "used as an HMAC secret."))
  else if isWrittenKey bytes then
    .error (.badKey ("The specified key looks like a JWK and should not be used directly as an "
      ++ "HMAC secret. Load it via PyJWK / HMACAlgorithm.from_jwk first."))
  else .ok bytes

end IdentityService.Secret
