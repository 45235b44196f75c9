/-!
# Stretches of Code Points

Character properties and case mappings are given as short tables of stretches:
runs of code points at a constant stride.  A property is membership in one of
the stretches of its table; a mapping moves every code point of a stretch by
the same amount.
-/

namespace IdentityService.Text

/-! ## §1 Membership -/

/-- Every `stride`-th code point from `first` to `last`, both included. -/
structure Stretch where
  first : Nat
  last : Nat
  stride : Nat
  deriving DecidableEq, Repr

namespace Stretch

/-- Membership of a code point in a stretch. -/
def contains (s : Stretch) (n : Nat) : Bool :=
  decide (s.first ≤ n) && decide (n ≤ s.last) && decide ((n - s.first) % s.stride = 0)

theorem contains_iff (s : Stretch) (n : Nat) :
    s.contains n = true ↔ s.first ≤ n ∧ n ≤ s.last ∧ (n - s.first) % s.stride = 0 := by
  simp [contains, and_assoc]

/-- The code points of a stretch, in increasing order. -/
def codePoints (s : Stretch) : List Nat :=
  (List.range ((s.last - s.first) / s.stride + 1)).map fun k => s.first + k * s.stride

end Stretch

/-- A character has a property when some stretch of the property's table contains it. -/
def inTable (table : List Stretch) (c : Char) : Bool :=
  table.any (·.contains c.toNat)

/-! ## §2 Mappings -/

/-- A stretch whose first code point is sent to `target` and whose other members
keep their distance from it. -/
structure Shift where
  stretch : Stretch
  target : Nat
  deriving DecidableEq, Repr

namespace Shift

/-- The image of a member of the stretch. -/
def image (s : Shift) (n : Nat) : Nat := s.target + (n - s.stretch.first)

end Shift

/-- The image of a character under a table of shifts, if the table moves it. -/
def shifted? (table : List Shift) (c : Char) : Option Char :=
  (table.find? (·.stretch.contains c.toNat)).map fun s => Char.ofNat (s.image c.toNat)

/-- A one-to-many mapping: the expansions come first, then the shifts, and every
other character stays as it is. -/
def mapWith (expansions : List (Nat × List Nat)) (table : List Shift) (c : Char) : List Char :=
  match expansions.find? (·.1 == c.toNat) with
  | some entry => entry.2.map Char.ofNat
  | none => [(shifted? table c).getD c]

end IdentityService.Text
