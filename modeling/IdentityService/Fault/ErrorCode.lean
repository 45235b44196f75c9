/-!
# Error Codes

The closed vocabulary of classified failures.  Clients branch on the code; the
message is for people.
-/

namespace IdentityService

/-- A classified failure. -/
inductive ErrorCode
  | emailNull
  | emailEmpty
  | emailInvalid
  | passwordNull
  | passwordEmpty
  | passwordWhitespace
  | passwordTooShort
  | passwordUpperMissing
  | passwordLowerMissing
  | passwordDigitMissing
  | passwordSpecialMissing
  | phoneNull
  | phoneEmpty
  | phonePlusMissing
  | phoneNonDigits
  | phoneLeadingZero
  | phoneTooShort
  | phoneTooLong
  | otpBlank
  | otpNonDigits
  | otpWrongLength
  | dateFormat
  | underage
  | nameBlank
  | tokenMissing
  | tokenExpired
  | tokenInvalid
  | identityVerificationFailed
  | insufficientPermissions
  | identityEmailRequired
  | identityEmailTaken
  | identityPhoneTaken
  | identityNotFound
  deriving DecidableEq, Repr

namespace ErrorCode

/-! ## §1 Codes and messages -/

/-- Every code, in order. -/
def all : List ErrorCode :=
  [emailNull, emailEmpty, emailInvalid, passwordNull, passwordEmpty, passwordWhitespace,
    passwordTooShort, passwordUpperMissing, passwordLowerMissing, passwordDigitMissing,
    passwordSpecialMissing, phoneNull, phoneEmpty, phonePlusMissing, phoneNonDigits,
    phoneLeadingZero, phoneTooShort, phoneTooLong, otpBlank, otpNonDigits, otpWrongLength,
    dateFormat, underage, nameBlank, tokenMissing, tokenExpired, tokenInvalid,
    identityVerificationFailed, insufficientPermissions, identityEmailRequired,
    identityEmailTaken, identityPhoneTaken, identityNotFound]

/-- The name of a code, which is also its value on the wire. -/
def name : ErrorCode → String
  | emailNull => "EMAIL_NULL"
  | emailEmpty => "EMAIL_EMPTY"
  | emailInvalid => "EMAIL_INVALID"
  | passwordNull => "PASSWORD_NULL"
  | passwordEmpty => "PASSWORD_EMPTY"
  | passwordWhitespace => "PASSWORD_WHITESPACE"
  | passwordTooShort => "PASSWORD_TOO_SHORT"
  | passwordUpperMissing => "PASSWORD_UPPER_MISSING"
  | passwordLowerMissing => "PASSWORD_LOWER_MISSING"
  | passwordDigitMissing => "PASSWORD_DIGIT_MISSING"
  | passwordSpecialMissing => "PASSWORD_SPECIAL_MISSING"
  | phoneNull => "PHONE_NULL"
  | phoneEmpty => "PHONE_EMPTY"
  | phonePlusMissing => "PHONE_PLUS_MISSING"
  | phoneNonDigits => "PHONE_NON_DIGITS"
  | phoneLeadingZero => "PHONE_LEADING_ZERO"
  | phoneTooShort => "PHONE_TOO_SHORT"
  | phoneTooLong => "PHONE_TOO_LONG"
  | otpBlank => "OTP_BLANK"
  | otpNonDigits => "OTP_NON_DIGITS"
  | otpWrongLength => "OTP_WRONG_LENGTH"
  | dateFormat => "DATE_FORMAT"
  | underage => "UNDERAGE"
  | nameBlank => "NAME_BLANK"
  | tokenMissing => "TOKEN_MISSING"
  | tokenExpired => "TOKEN_EXPIRED"
  | tokenInvalid => "TOKEN_INVALID"
  | identityVerificationFailed => "IDENTITY_VERIFICATION_FAILED"
  | insufficientPermissions => "INSUFFICIENT_PERMISSIONS"
  | identityEmailRequired => "IDENTITY_EMAIL_REQUIRED"
  | identityEmailTaken => "IDENTITY_EMAIL_TAKEN"
  | identityPhoneTaken => "IDENTITY_PHONE_TAKEN"
  | identityNotFound => "IDENTITY_NOT_FOUND"

/-- The message of a code. -/
def message : ErrorCode → String
  | emailNull => "Email must not be null."
  | emailEmpty => "Email must not be empty."
  | emailInvalid => "Email is not a valid address."
  | passwordNull => "Password must not be null."
  | passwordEmpty => "Password must not be empty."
  | passwordWhitespace => "Password must not contain whitespace."
  | passwordTooShort => "Password is too short."
  | passwordUpperMissing => "Password is missing an uppercase letter."
  | passwordLowerMissing => "Password is missing a lowercase letter."
  | passwordDigitMissing => "Password is missing a digit."
  | passwordSpecialMissing => "Password is missing a special character."
  | phoneNull => "Phone number must not be null."
  | phoneEmpty => "Phone number must not be empty."
  | phonePlusMissing => "Phone number must start with '+'."
  | phoneNonDigits => "Phone number must contain only digits after '+'."
  | phoneLeadingZero => "Phone number must not start with 0 after '+'."
  | phoneTooShort => "Phone number has too few digits."
  | phoneTooLong => "Phone number has too many digits."
  | otpBlank => "OTP must not be blank."
  | otpNonDigits => "OTP must contain only digits."
  | otpWrongLength => "OTP has the wrong length."
  | dateFormat => "Birth date must use the YYYY-MM-DD format."
  | underage => "User is below the minimum age."
  | nameBlank => "Name must not be blank."
  | tokenMissing => "Authentication required."
  | tokenExpired => "Authentication token has expired."
  | tokenInvalid => "Invalid authentication token."
  | identityVerificationFailed => "Identity token verification failed."
  | insufficientPermissions => "Insufficient permissions."
  | identityEmailRequired => "Identity token must contain an email."
  | identityEmailTaken => "Email is already registered to another user."
  | identityPhoneTaken => "Phone number is already registered to another user."
  | identityNotFound => "Identity not found."

/-- Every code is listed. -/
theorem mem_all (c : ErrorCode) : c ∈ all := by
  cases c <;> simp [all]

/-- The code with a name. -/
def ofName? (s : String) : Option ErrorCode := all.find? (·.name == s)

end ErrorCode

end IdentityService
