import IdentityService.Validation.Verdict
import IdentityService.Text.Blank
import IdentityService.Text.Digits

/-!
# One-Time Passwords

A one-time password is all digits with a length in a range.
-/

namespace IdentityService.Otp

open Text

/-- The least and the greatest length. -/
structure Bounds where
  min : Int
  max : Int
  deriving DecidableEq, Repr

/-- Six digits. -/
def Bounds.usual : Bounds := ⟨6, 6⟩

/-- The violated rules; a blank one-time password is reported as such and nothing else. -/
def errors (b : Bounds) : Option String → List ErrorCode
  | none => [.otpBlank]
  | some s =>
      if isBlankText s then [.otpBlank]
      else
        (if s.toList.all isAsciiDigit then [] else [.otpNonDigits])
          ++ (if b.min ≤ (s.toList.length : Int) ∧ (s.toList.length : Int) ≤ b.max then []
            else [.otpWrongLength])

/-- The verdict on a one-time password. -/
def check (b : Bounds) (otp : Option String) : Verdict := .ofErrors (errors b otp)

end IdentityService.Otp
