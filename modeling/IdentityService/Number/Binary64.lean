/-!
# Double Precision Numbers

Fractional numbers are double precision values, kept as exact binary fractions so
that rounding, comparison and printing are integer arithmetic.

## Main definitions

- `Binary64.ofRatio`: the nearest value to a quotient, ties going to the even neighbour.
- `Binary64.truncated?`: the integer part of a finite value.
-/

namespace IdentityService

/-- A value is `± significand · 2 ^ exponent`, an infinity, or not a number.  A nonzero
finite value has a 53-bit significand unless its exponent is the least one, -1074. -/
inductive Binary64
  | finite (negative : Bool) (significand : Nat) (exponent : Int)
  | infinite (negative : Bool)
  | notANumber
  deriving DecidableEq, Repr

namespace Binary64

/-! ## §1 Rounding -/

/-- The least number of 53 bits. -/
def leastSignificand : Nat := 4503599627370496

/-- The quotient of two numbers rounded to the nearest integer, a tie going to the even one. -/
def roundedQuotient (num den : Nat) : Nat :=
  let q := num / den
  let twice := 2 * (num % den)
  if twice < den then q else if den < twice then q + 1 else if q % 2 = 0 then q else q + 1

/-- `⌊num / den / 2 ^ e⌋` for an exponent of either sign. -/
def scaledFloor (num den : Nat) (e : Int) : Nat :=
  if 0 ≤ e then num / (den * Nat.pow 2 e.toNat) else num * Nat.pow 2 (-e).toNat / den

/-- The exponent at which the quotient has a 53-bit significand, but not below the least one. -/
def targetExponent (num den : Nat) : Int :=
  let e := (Nat.log2 num : Int) - Nat.log2 den - 52
  let e := if scaledFloor num den e < leastSignificand then e - 1 else e
  max e (-1074)

/-- The nearest value to `± num / den`. -/
def ofRatio (negative : Bool) (num den : Nat) : Binary64 :=
  if num = 0 then .finite negative 0 (-1074)
  else
    let e := targetExponent num den
    let q := if 0 ≤ e then roundedQuotient num (den * Nat.pow 2 e.toNat)
      else roundedQuotient (num * Nat.pow 2 (-e).toNat) den
    let (q, e) := if q = 2 * leastSignificand then (leastSignificand, e + 1) else (q, e)
    if 971 < e then .infinite negative else .finite negative q e

/-- The nearest value to `± digits · 10 ^ exponent`.  A scale beyond every value is decided
without computing the power. -/
def ofDecimal (negative : Bool) (digits : Nat) (exponent : Int) : Binary64 :=
  if digits = 0 then .finite negative 0 (-1074)
  else if 400 < exponent then .infinite negative
  else if exponent + (Nat.log2 digits : Int) / 3 + 1 < -330 then .finite negative 0 (-1074)
  else if 0 ≤ exponent then ofRatio negative (digits * Nat.pow 10 exponent.toNat) 1
  else ofRatio negative digits (Nat.pow 10 (-exponent).toNat)

/-- The nearest value to an integer. -/
def ofInt (n : Int) : Binary64 := ofRatio (n < 0) n.natAbs 1

/-! ## §2 Inspection -/

/-- The magnitude as a quotient. -/
def ratio (significand : Nat) (exponent : Int) : Nat × Nat :=
  if 0 ≤ exponent then (significand * Nat.pow 2 exponent.toNat, 1)
  else (significand, Nat.pow 2 (-exponent).toNat)

/-- A value is zero when its significand is. -/
def isZero : Binary64 → Bool
  | .finite _ m _ => m == 0
  | _ => false

/-- A value is positive when it is above zero; not-a-number is not. -/
def isPositive : Binary64 → Bool
  | .finite negative m _ => !negative && m != 0
  | .infinite negative => !negative
  | .notANumber => false

/-- The integer part of a finite value, rounding toward zero. -/
def truncated? : Binary64 → Option Int
  | .finite negative m e =>
      let (num, den) := ratio m e
      let whole : Int := (num / den : Nat)
      some (if negative then -whole else whole)
  | _ => none

/-- The integer that a value is, if it is one. -/
def integer? : Binary64 → Option Int
  | .finite negative m e =>
      let (num, den) := ratio m e
      if num % den = 0 then some (if negative then -(num / den : Nat) else (num / den : Nat))
      else none
  | _ => none

end Binary64

end IdentityService
