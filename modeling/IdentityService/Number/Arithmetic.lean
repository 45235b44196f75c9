import IdentityService.Number.Binary64

/-!
# Arithmetic on Double Precision Numbers

Each operation is exact rational arithmetic followed by one rounding to the nearest
value.  Infinities and not-a-number follow the usual conventions; a zero carries the
sign that the operation gives it.

## Main definitions

- the operations `+`, `-`, `*` and `/`
- `Binary64.floor?`, `Binary64.rounded?`: the integers at and nearest to a value.
-/

namespace IdentityService.Binary64

/-! ## §1 Signs and magnitudes -/

/-- The same magnitude with the other sign. -/
def negated : Binary64 → Binary64
  | finite negative m e => finite (!negative) m e
  | infinite negative => infinite (!negative)
  | notANumber => notANumber

/-- The magnitude of a value. -/
def magnitude : Binary64 → Binary64
  | finite _ m e => finite false m e
  | infinite _ => infinite false
  | notANumber => notANumber

/-- A value is negative when it is below zero. -/
def isNegative : Binary64 → Bool
  | finite negative m _ => negative && m != 0
  | infinite negative => negative
  | notANumber => false

/-- Whether the magnitude of a value is above a number. -/
def isBeyond (bound : Nat) : Binary64 → Bool
  | finite _ m e =>
      let (num, den) := ratio m e
      decide (bound * den < num)
  | infinite _ => true
  | notANumber => false

/-- The exact value of a finite number, as a signed numerator over a denominator. -/
def exactRatio (negative : Bool) (m : Nat) (e : Int) : Int × Nat :=
  let (num, den) := ratio m e
  (if negative then -(num : Int) else num, den)

/-! ## §2 Operations -/

/-- The nearest value to a signed quotient; a quotient of zero is the zero with the sign given. -/
def nearest (negativeZero : Bool) (num : Int) (den : Nat) : Binary64 :=
  if num = 0 then finite negativeZero 0 (-1074) else ofRatio (num < 0) num.natAbs den

/-- The rounded sum.  Opposite infinities have none. -/
def sum : Binary64 → Binary64 → Binary64
  | finite s m e, finite t n f =>
      let (a, b) := exactRatio s m e
      let (c, d) := exactRatio t n f
      nearest (s && t) (a * d + c * b) (b * d)
  | infinite s, infinite t => if s = t then infinite s else notANumber
  | infinite s, finite _ _ _ => infinite s
  | finite _ _ _, infinite t => infinite t
  | _, _ => notANumber

/-- The rounded product.  An infinity times zero is none. -/
def product : Binary64 → Binary64 → Binary64
  | finite s m e, finite t n f =>
      let (a, b) := ratio m e
      let (c, d) := ratio n f
      ofRatio (s != t) (a * c) (b * d)
  | infinite s, infinite t => infinite (s != t)
  | infinite s, finite t n _ => if n = 0 then notANumber else infinite (s != t)
  | finite s m _, infinite t => if m = 0 then notANumber else infinite (s != t)
  | _, _ => notANumber

/-- The rounded quotient.  Zero by zero and infinity by infinity have none. -/
def quotient : Binary64 → Binary64 → Binary64
  | finite s m e, finite t n f =>
      let (a, b) := ratio m e
      let (c, d) := ratio n f
      if n = 0 then (if m = 0 then notANumber else infinite (s != t))
      else ofRatio (s != t) (a * d) (b * c)
  | infinite s, finite t _ _ => infinite (s != t)
  | finite s _ _, infinite t => finite (s != t) 0 (-1074)
  | _, _ => notANumber

instance : Neg Binary64 := ⟨negated⟩
instance : Add Binary64 := ⟨sum⟩
instance : Sub Binary64 := ⟨fun x y => sum x (negated y)⟩
instance : Mul Binary64 := ⟨product⟩
instance : Div Binary64 := ⟨quotient⟩

/-! ## §3 Integers -/

/-- The greatest integer that is not above a finite value. -/
def floor? : Binary64 → Option Int
  | finite negative m e =>
      let (num, den) := exactRatio negative m e
      some (num / den)
  | _ => none

/-- The integer nearest to a finite value, a tie going away from zero. -/
def rounded? : Binary64 → Option Int
  | finite negative m e =>
      let (num, den) := ratio m e
      let n : Int := ((2 * num + den) / (2 * den) : Nat)
      some (if negative then -n else n)
  | _ => none

end IdentityService.Binary64
