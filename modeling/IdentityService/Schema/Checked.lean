import IdentityService.Json.Value

/-!
# Checked Values

Checking a record reports every fault of every field, in the order in which the
fields are declared.  A checked value is therefore a value or a list of issues, and
combining two checked values joins their issues.  A value that is well formed and
cannot be represented ends the check without a report.
-/

namespace IdentityService

/-! ## §1 Issues -/

/-- A step on the way to a faulty value. -/
inductive Place
  | field (name : String)
  | item (index : Nat)
  deriving DecidableEq, Repr

/-- What is wrong with a value. -/
inductive IssueKind
  | missing
  | textExpected
  | textTooShort
  | textMalformed
  | listExpected
  | objectExpected
  | recordExpected
  | flagExpected
  | flagUnreadable
  | integerExpected
  | integerUnreadable
  | integerFractional
  | integerTooLong
  | numberNotFinite
  | fractionExpected
  | fractionUnreadable
  | fractionTooSmall
  | notAMember
  | notAnOption
  | durationExpected
  | durationUnreadable
  | momentExpected
  | momentUnreadable
  | momentOutOfRange
  | frozen
  deriving DecidableEq, Repr

/-- The name under which an issue is reported. -/
def IssueKind.label : IssueKind → String
  | missing => "missing"
  | textExpected => "string_type"
  | textTooShort => "string_too_short"
  | textMalformed => "string_unicode"
  | listExpected => "list_type"
  | objectExpected => "dict_type"
  | recordExpected => "model_type"
  | flagExpected => "bool_type"
  | flagUnreadable => "bool_parsing"
  | integerExpected => "int_type"
  | integerUnreadable => "int_parsing"
  | integerFractional => "int_from_float"
  | integerTooLong => "int_parsing_size"
  | numberNotFinite => "finite_number"
  | fractionExpected => "float_type"
  | fractionUnreadable => "float_parsing"
  | fractionTooSmall => "greater_than"
  | notAMember => "enum"
  | notAnOption => "literal_error"
  | durationExpected => "time_delta_type"
  | durationUnreadable => "time_delta_parsing"
  | momentExpected => "datetime_type"
  | momentUnreadable => "datetime_from_date_parsing"
  | momentOutOfRange => "datetime_parsing"
  | frozen => "frozen_instance"

/-- A fault at a place. -/
structure Issue where
  path : List Place
  kind : IssueKind
  deriving DecidableEq, Repr

/-- An issue seen from one step further out. -/
def Issue.within (place : Place) (i : Issue) : Issue := { i with path := place :: i.path }

/-! ## §2 Checked values -/

/-- A value, or the issues that prevent it, or a part that cannot be represented. -/
inductive Checked (α : Type) where
  | ok (value : α)
  | faulty (issues : List Issue)
  | overflow
  deriving Repr

namespace Checked

/-- Applies a checked function to a checked value; the issues of the function come first. -/
def apply {α β : Type} : Checked (α → β) → Checked α → Checked β
  | ok f, ok a => ok (f a)
  | ok _, faulty more => faulty more
  | faulty is, ok _ => faulty is
  | faulty is, faulty more => faulty (is ++ more)
  | overflow, _ => overflow
  | _, overflow => overflow

instance : Applicative Checked where
  pure := ok
  map f c := apply (ok f) c
  seq f c := apply f (c ())

/-- A value with one issue at the value itself. -/
def fail {α : Type} (kind : IssueKind) : Checked α := faulty [⟨[], kind⟩]

/-- The same, with every issue seen from one step further out. -/
def within {α : Type} (place : Place) : Checked α → Checked α
  | ok a => ok a
  | faulty is => faulty (is.map (·.within place))
  | overflow => overflow

/-- The value, if there is no issue. -/
def value? {α : Type} : Checked α → Option α
  | ok a => some a
  | _ => none

end Checked

end IdentityService
