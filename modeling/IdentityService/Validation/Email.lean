import IdentityService.Validation.Verdict
import IdentityService.Text.Digits

/-!
# Email Addresses

A conservative subset of address syntax: a local part over a fixed alphabet, one at
sign, and a domain of ASCII letters, digits, points and hyphens.
-/

namespace IdentityService.Email

open Text

/-! ## §1 Alphabets -/

/-- The ASCII letters. -/
def isAsciiLetter (c : Char) : Bool :=
  (decide ('a' ≤ c) && decide (c ≤ 'z')) || (decide ('A' ≤ c) && decide (c ≤ 'Z'))

/-- The signs that the local part may hold besides letters and digits. -/
def localSigns : List Char :=
  ['_', '!', '#', '$', '%', '&', '\'', '*', '+', '/', '=', '?', '\x60', '\x7b', '|', '\x7d',
    '~', '^', '.', '-']

/-- The alphabet of the local part. -/
def isLocalChar (c : Char) : Bool := isAsciiLetter c || isAsciiDigit c || localSigns.contains c

/-- The alphabet of the domain. -/
def isDomainChar (c : Char) : Bool := isAsciiLetter c || isAsciiDigit c || c == '.' || c == '-'

/-! ## §2 Addresses -/

/-- An address: a local part, an at sign and a domain, neither part empty. -/
def isAddress (cs : List Char) : Bool :=
  let localPart := cs.takeWhile isLocalChar
  match cs.dropWhile isLocalChar with
  | '@' :: domain => !localPart.isEmpty && !domain.isEmpty && domain.all isDomainChar
  | _ => false

/-- The violated rule, if any. -/
def errors : Option String → List ErrorCode
  | none => [.emailNull]
  | some s =>
      if s.isEmpty then [.emailEmpty]
      else if isAddress s.toList then []
      else [.emailInvalid]

/-- The verdict on an email. -/
def check (email : Option String) : Verdict := .ofErrors (errors email)

end IdentityService.Email
