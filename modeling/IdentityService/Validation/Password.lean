import IdentityService.Validation.Verdict
import IdentityService.Text.Blank
import IdentityService.Text.Digits
import IdentityService.Text.Letters

/-!
# Passwords

A password that is absent, empty or holds whitespace is refused for that reason
alone.  Of any other, every violated strength rule is reported.  A password may also be
given as a list of pieces, and then each piece counts as one character.
-/

namespace IdentityService.Password

open Text

/-! ## §1 Strength rules -/

/-- The least number of characters. -/
def minLength : Nat := 8

/-- The special characters. -/
def specialChars : String := "!@#$%^&*()_+-=[]\x7b\x7d|;:,.<>?\\"

/-- A strength rule: the code that reports it and the passwords that satisfy it. -/
structure StrengthRule where
  code : ErrorCode
  holds : List Char → Bool

/-- The strength rules, in the order in which they are reported. -/
def strengthRules : List StrengthRule :=
  [⟨.passwordTooShort, fun cs => decide (minLength ≤ cs.length)⟩,
    ⟨.passwordUpperMissing, fun cs => cs.any isUppercase⟩,
    ⟨.passwordLowerMissing, fun cs => cs.any isLowercase⟩,
    ⟨.passwordDigitMissing, fun cs => cs.any isAsciiDigit⟩,
    ⟨.passwordSpecialMissing, fun cs => cs.any specialChars.toList.contains⟩]

/-! ## §2 Verdicts -/

/-- The violated rules. -/
def errors : Option String → List ErrorCode
  | none => [.passwordNull]
  | some s =>
      if s.isEmpty then [.passwordEmpty]
      else if s.toList.any isBlank then [.passwordWhitespace]
      else (strengthRules.filter fun r => !r.holds s.toList).map (·.code)

/-- The verdict on a password. -/
def check (password : Option String) : Verdict := .ofErrors (errors password)

/-- The strength rules in words. -/
def requirements : List String :=
  ["At least 8 characters long", "At least one uppercase letter (A-Z)",
    "At least one lowercase letter (a-z)", "At least one digit (0-9)",
    "At least one special character " ++ specialChars]

/-! ## §3 Passwords in pieces -/

/-- Whether a piece is whitespace. -/
def isBlankPiece (piece : String) : Bool := !piece.isEmpty && isBlankText piece

/-- Whether a part stands somewhere in a list of characters. -/
def occursIn (part : List Char) : List Char → Bool
  | [] => part.isEmpty
  | c :: cs => part.isPrefixOf (c :: cs) || occursIn part cs

/-- Whether a piece is one digit. -/
def isDigitPiece (piece : String) : Bool :=
  match piece.toList with
  | [c] => isAsciiDigit c
  | _ => false

/-- The violated rules of a list of pieces. -/
def pieceErrors (pieces : List String) : List ErrorCode :=
  let rules := [(ErrorCode.passwordTooShort, decide (minLength ≤ pieces.length)),
    (.passwordUpperMissing, pieces.any isUppercaseText),
    (.passwordLowerMissing, pieces.any isLowercaseText),
    (.passwordDigitMissing, pieces.any isDigitPiece),
    (.passwordSpecialMissing, pieces.any fun p => occursIn p.toList specialChars.toList)]
  if pieces.any isBlankPiece then [.passwordWhitespace]
  else (rules.filter fun r => !r.2).map (·.1)

/-- The verdict on a list of pieces. -/
def checkPieces (pieces : List String) : Verdict := .ofErrors (pieceErrors pieces)

end IdentityService.Password
