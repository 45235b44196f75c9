import IdentityService.Validation.Verdict
import IdentityService.Text.Blank
import IdentityService.Text.Digits

/-!
# Phone Numbers

A number is a plus sign followed by digits, the first of which is not zero, with a
bounded count.  Once the plus sign and something after it are there, every violated
clause is reported.
-/

namespace IdentityService.Phone

open Text

/-! ## §1 Verdicts -/

/-- The least and the greatest number of digits. -/
structure Bounds where
  min : Int
  max : Int
  deriving DecidableEq, Repr

/-- One to fifteen digits. -/
def Bounds.usual : Bounds := ⟨1, 15⟩

/-- The clauses that the text after the plus sign violates. -/
def clauseErrors (b : Bounds) (digits : List Char) : List ErrorCode :=
  (if digits.all isAsciiDigit then [] else [.phoneNonDigits])
    ++ (if digits.head? = some '0' then [.phoneLeadingZero] else [])
    ++ (if (digits.length : Int) < b.min then [.phoneTooShort] else [])
    ++ (if b.max < (digits.length : Int) then [.phoneTooLong] else [])

/-- The violated rules. -/
def errors (b : Bounds) : Option String → List ErrorCode
  | none => [.phoneNull]
  | some s =>
      match s.toList with
      | [] => [.phoneEmpty]
      | c :: digits =>
          if c != '+' then [.phonePlusMissing]
          else if digits.isEmpty then [.phoneEmpty]
          else clauseErrors b digits

/-- The verdict on a phone number. -/
def check (b : Bounds) (phone : Option String) : Verdict := .ofErrors (errors b phone)

/-! ## §2 Formatting -/

/-- The characters that formatting puts into a number. -/
def isFormatting (c : Char) : Bool :=
  isBlank c || c == '-' || c == '(' || c == ')' || c == '.'

/-- Removes formatting.  Nothing is added and the result is not checked. -/
def withoutFormatting (s : String) : String :=
  String.ofList (s.toList.filter fun c => !isFormatting c)

/-- The format in words. -/
def formatInfo (min max : String) : String :=
  "E.164 international phone number format: must start with '+', "
    ++ "followed by " ++ min ++ "-" ++ max ++ " digits, "
    ++ "the first of which is not 0, with no spaces or other formatting. "
    ++ "Examples: +14155552671, +442071838750"

end IdentityService.Phone
