import IdentityService.Bytes.Utf16

/-!
# Raw Texts

A string that comes from outside is a sequence of code units.  Most strings spell a text.  A
string with half of a surrogate pair spells none; it can still be stored, compared and sent on,
and only what must spell it in bytes fails.
-/

namespace IdentityService

/-- A string that spells no text: one of its code units is half of a pair without the other. -/
structure BrokenText where
  units : List UInt16
  isBroken : Utf16.joinPairs? units = none
  deriving DecidableEq, Repr

/-- A string, whether or not it spells a text. -/
inductive RawText
  | text (s : String)
  | broken (b : BrokenText)
  deriving DecidableEq, Repr

instance : Coe String RawText := ⟨RawText.text⟩

namespace RawText

/-- The string with these code units. -/
def ofUnits (us : List UInt16) : RawText :=
  match h : Utf16.joinPairs? us with
  | some cs => text (String.ofList cs)
  | none => broken ⟨us, h⟩

/-- The text that a string spells. -/
def text? : RawText → Option String
  | text s => some s
  | broken _ => none

/-- A string as people see it: the replacement character stands for every half without its
partner. -/
def shown : RawText → String
  | text s => s
  | broken b => String.ofList (Utf16.shown b.units)

/-- Whether a string has no code unit.  A broken string has at least one. -/
def isEmpty : RawText → Bool
  | text s => s.isEmpty
  | broken _ => false

theorem isEmpty_iff {r : RawText} : r.isEmpty = true ↔ r = text "" := by
  cases r <;> simp [isEmpty]

theorem isEmpty_eq_false_iff {r : RawText} : r.isEmpty = false ↔ r ≠ text "" := by
  rw [ne_eq, ← isEmpty_iff, Bool.not_eq_true]

end RawText

end IdentityService
