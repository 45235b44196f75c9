import IdentityService.Number.Binary64
import IdentityService.Text.Digits

/-!
# Shortest Decimal Text

The text of a double precision number has the fewest digits that read back as the
same number, and of those the digits nearest to it.  A second form has one fixed
decimal place.
-/

namespace IdentityService.Binary64

open IdentityService.Text

/-! ## §1 Shortest digits -/

/-- The interval of reals that round to a positive finite value, as numerators over the
common denominator `4 · den`: lower end, upper end, and whether the ends belong to it.  The
gap below a power of two is half as wide. -/
def roundingInterval (significand : Nat) (exponent : Int) : Nat × Nat × Nat × Nat × Bool :=
  let (num, den) := ratio significand exponent
  let unit := if 0 ≤ exponent then Nat.pow 2 exponent.toNat else 1
  let below := if significand = leastSignificand && exponent != -1074 then unit else 2 * unit
  (4 * num - below, 4 * num, 4 * num + 2 * unit, 4 * den, significand % 2 == 0)

/-- `⌊x / 10 ^ k⌋` for the quotient `x = num / den` and a scale of either sign. -/
def decimalFloor (num den : Nat) (k : Int) : Nat :=
  if 0 ≤ k then num / (den * Nat.pow 10 k.toNat) else num * Nat.pow 10 (-k).toNat / den

/-- Compares `d · 10 ^ k` with `num / den`. -/
def compareDecimal (d : Nat) (k : Int) (num den : Nat) : Ordering :=
  if 0 ≤ k then compare (d * Nat.pow 10 k.toNat * den) num
  else compare (d * den) (num * Nat.pow 10 (-k).toNat)

/-- Whether the decimal `d · 10 ^ k` lies in a rounding interval. -/
def insideInterval (d : Nat) (k : Int) (low high den : Nat) (closed : Bool) : Bool :=
  match compareDecimal d k low den, compareDecimal d k high den with
  | .gt, .lt => true
  | .eq, .lt => closed
  | .gt, .eq => closed
  | _, _ => false

/-- The candidates on the grid `10 ^ k`: the two neighbours of the value, the nearer first
and of two equally near the even one. -/
def gridNeighbours (num den : Nat) (k : Int) : List Nat :=
  let d := decimalFloor num den k
  -- twice the value against the midpoint of the two neighbours
  match compareDecimal (2 * d + 1) k (2 * num) den with
  | .gt => [d, d + 1]
  | .lt => [d + 1, d]
  | .eq => if d % 2 = 0 then [d, d + 1] else [d + 1, d]

/-- Searches grids of decreasing coarseness, at most `fuel` of them. -/
def shortestFrom (low num high den : Nat) (closed : Bool) : Nat → Int → Nat × Int
  | 0, k => (decimalFloor num den k, k)
  | fuel + 1, k =>
      match (gridNeighbours num den k).find? fun d =>
        d != 0 && insideInterval d k low high den closed with
      | some d => (d, k)
      | none => shortestFrom low num high den closed fuel (k - 1)

/-- The position of the leading decimal digit, at or one above the true one. -/
def leadingPlace (num den : Nat) : Int :=
  (((Nat.log2 num : Int) - Nat.log2 den + 1) * 30103) / 100000 + 1

/-- Removes the zeros at the end of a number, at most `fuel` of them. -/
def withoutTrailingZeros : Nat → Nat → Int → Nat × Int
  | 0, d, k => (d, k)
  | fuel + 1, d, k => if d % 10 = 0 then withoutTrailingZeros fuel (d / 10) (k + 1) else (d, k)

/-- The shortest decimal of a positive finite value, as digits and a power of ten. -/
def shortest (significand : Nat) (exponent : Int) : Nat × Int :=
  let (low, num, high, den, closed) := roundingInterval significand exponent
  let (d, k) := shortestFrom low num high den closed 20 (leadingPlace num den)
  withoutTrailingZeros 20 d k

/-! ## §2 Texts -/

/-- Positional notation from 0.0001 up to sixteen digits before the point, otherwise a power
of ten with at least two digits; a whole number keeps one zero after the point. -/
def layout (digits : List Char) (k : Int) : String :=
  let point : Int := digits.length + k
  if -4 < point && point ≤ 16 then
    if point ≤ 0 then
      String.ofList (['0', '.'] ++ List.replicate (-point).toNat '0' ++ digits)
    else if k < 0 then
      String.ofList (digits.take point.toNat ++ '.' :: digits.drop point.toNat)
    else String.ofList (digits ++ List.replicate k.toNat '0' ++ ['.', '0'])
  else
    let e := point - 1
    let power := (if e < 0 then "e-" else "e+") ++ padded 2 e.natAbs
    match digits with
    | [] => power
    | [d] => String.ofList [d] ++ power
    | d :: rest => String.ofList (d :: '.' :: rest) ++ power

/-- The text of a value. -/
def text : Binary64 → String
  | .notANumber => "nan"
  | .infinite negative => if negative then "-inf" else "inf"
  | .finite negative m e =>
      let body :=
        if m = 0 then "0.0"
        else
          let (d, k) := shortest m e
          layout (Nat.toDigits 10 d) k
      if negative then "-" ++ body else body

/-- The text with one decimal place, the exact value rounded with ties going to the even
neighbour. -/
def tenthsText : Binary64 → String
  | .notANumber => "nan"
  | .infinite negative => if negative then "-inf" else "inf"
  | .finite negative m e =>
      let (num, den) := ratio m e
      let tenths := roundedQuotient (10 * num) den
      let body := s!"{tenths / 10}.{tenths % 10}"
      if negative then "-" ++ body else body

end IdentityService.Binary64
