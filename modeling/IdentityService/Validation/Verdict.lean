import IdentityService.Fault.Fault
import IdentityService.Schema.Field

/-!
# Verdicts

The outcome of running validation rules: the codes of all violated rules, in the
order of the rules.
-/

namespace IdentityService

/-- The outcome of validation.  A verdict built from codes is valid iff there are none. -/
structure Verdict where
  valid : Bool
  errors : List ErrorCode
  deriving DecidableEq, Repr

namespace Verdict

/-- Nothing is violated. -/
def success : Verdict := ⟨true, []⟩

/-- Codes are violated. -/
def failure (codes : List ErrorCode) : Verdict := ⟨false, codes⟩

/-- The verdict on a list of violated codes. -/
def ofErrors (codes : List ErrorCode) : Verdict := ⟨codes.isEmpty, codes⟩

/-- The error that a verdict raises, if it is not valid. -/
def raised? (v : Verdict) : Option ServiceError :=
  if v.valid then none else some (.validation v.errors)

/-- Reads a verdict from a record. -/
def read (fs : Fields) : Checked Verdict :=
  mk <$> Schema.required fs "valid" Schema.flag
    <*> Schema.withDefault fs "errors" []
      (Schema.list (Schema.oneOf .notAMember (ErrorCode.all.map fun c => (c.name, c))))

/-- A verdict as a record. -/
def toJson (v : Verdict) : Json :=
  .object [("valid", .bool v.valid), ("errors", .ofTexts (v.errors.map (·.name)))]

theorem ofErrors_valid_iff (codes : List ErrorCode) :
    (ofErrors codes).valid = true ↔ codes = [] := by
  simp [ofErrors]

end Verdict

end IdentityService
