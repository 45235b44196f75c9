import IdentityService.Validation.Rule
import IdentityService.Schema.Field

/-!
# Validation Policies

The tunable bounds of the field checks.
-/

namespace IdentityService

/-- The bounds of the field checks, all inclusive. -/
structure Policy where
  minAge : Int
  otp : Otp.Bounds
  phone : Phone.Bounds
  deriving DecidableEq, Repr

namespace Policy

/-- The usual policy. -/
def usual : Policy := ⟨Age.usualMinimum, .usual, .usual⟩

/-- Reads a policy from a record. -/
def read (fs : Fields) : Checked Policy :=
  (fun minAge otpMin otpMax phoneMin phoneMax => ⟨minAge, ⟨otpMin, otpMax⟩, ⟨phoneMin, phoneMax⟩⟩)
    <$> Schema.withDefault fs "min_age" usual.minAge Schema.integer
    <*> Schema.withDefault fs "otp_min_length" usual.otp.min Schema.integer
    <*> Schema.withDefault fs "otp_max_length" usual.otp.max Schema.integer
    <*> Schema.withDefault fs "phone_min_digits" usual.phone.min Schema.integer
    <*> Schema.withDefault fs "phone_max_digits" usual.phone.max Schema.integer

/-- A policy as a record. -/
def toJson (p : Policy) : Json :=
  .object [("min_age", .int p.minAge), ("otp_min_length", .int p.otp.min),
    ("otp_max_length", .int p.otp.max), ("phone_min_digits", .int p.phone.min),
    ("phone_max_digits", .int p.phone.max)]

end Policy

end IdentityService
