import IdentityService.Number.Binary64
import Mathlib.Tactic.Ring
import Mathlib.Tactic.SplitIfs

/-!
# Rounding a Number of Microseconds to Seconds

The integer part of a quotient that was first rounded to double precision.  Rounding
moves a quotient by at most half a unit of its last place, so the integer part exceeds
the exact one only where that unit is wide and the quotient lies just below an integer.

## Main statements

- `roundedQuotient_le`, `lt_roundedQuotient`: the nearest integer, by doubled bounds.
- `truncated?_ofRatio`: the integer part of a rounded quotient.
- `exists_truncated?`: a number of microseconds stays between the whole seconds around it.
-/

namespace IdentityService.Binary64

/-! ## §1 The nearest integer -/

/-- A quotient less than half above an integer is not rounded beyond this integer. -/
theorem roundedQuotient_le {num den k : Nat} (h : 2 * num < (2 * k + 1) * den) :
    roundedQuotient num den ≤ k := by
  have hden : 0 < den := Nat.pos_of_ne_zero fun h0 => by simp [h0] at h
  have hdiv := Nat.div_add_mod num den
  have hmod := Nat.mod_lt num hden
  have hq : num / den ≤ k := by
    by_contra hlt
    have hmul : den * (k + 1) ≤ den * (num / den) := Nat.mul_le_mul_left den (by omega)
    have hexpand : (2 * k + 1) * den + den = 2 * (den * (k + 1)) := by ring
    omega
  rw [roundedQuotient]
  rcases Nat.lt_or_eq_of_le hq with hlt | heq
  · split_ifs <;> omega
  · have hexpand : (2 * k + 1) * den = 2 * (den * (num / den)) + den := by rw [heq]; ring
    have hhalf : 2 * (num % den) < den := by omega
    simp only [if_pos hhalf]
    exact hq

/-- A quotient more than half above an integer is rounded beyond this integer. -/
theorem lt_roundedQuotient {num den k : Nat} (hden : 0 < den)
    (h : (2 * k + 1) * den < 2 * num) : k < roundedQuotient num den := by
  have hdiv := Nat.div_add_mod num den
  have hmod := Nat.mod_lt num hden
  have hq : k ≤ num / den := by
    by_contra hlt
    have hmul : den * (num / den + 1) ≤ den * k := Nat.mul_le_mul_left den (by omega)
    have hexpand : (2 * k + 1) * den = 2 * (den * k) + den := by ring
    have hsucc : den * (num / den + 1) = den * (num / den) + den := by ring
    omega
  rw [roundedQuotient]
  rcases Nat.lt_or_eq_of_le hq with hlt | heq
  · split_ifs <;> omega
  · have hexpand : (2 * k + 1) * den = 2 * (den * (num / den)) + den := by rw [heq]; ring
    have hhalf : den < 2 * (num % den) := by omega
    simp only [if_neg (Nat.not_lt.mpr hhalf.le), if_pos hhalf]
    omega

/-! ## §2 The integer part of a rounded quotient -/

/-- **Integer part.** With a negative exponent the integer part of a rounded quotient is
the rounded significand shifted to the right; carrying into the next binade changes
nothing. -/
theorem truncated?_ofRatio {negative : Bool} {num den shift : Nat} (hnum : num ≠ 0)
    (hshift : 1 < shift) (hexp : targetExponent num den = -(shift : Int)) :
    (ofRatio negative num den).truncated?
      = some (if negative then -((roundedQuotient (num * 2 ^ shift) den / 2 ^ shift : Nat) : Int)
          else ((roundedQuotient (num * 2 ^ shift) den / 2 ^ shift : Nat) : Int)) := by
  have hneg : ¬ (0 : Int) ≤ -(shift : Int) := by omega
  have htoNat : (- -(shift : Int)).toNat = shift := by omega
  simp only [ofRatio, if_neg hnum, hexp, if_neg hneg, htoNat, Nat.pow_eq]
  generalize roundedQuotient (num * 2 ^ shift) den = q
  by_cases hcarry : q = 2 * leastSignificand
  · -- the significand is halved and the exponent raised, which leaves the quotient as it is
    obtain ⟨pred, rfl⟩ : ∃ pred, shift = pred + 1 := ⟨shift - 1, by omega⟩
    have hexp' : ¬ (0 : Int) ≤ -((pred + 1 : Nat) : Int) + 1 := by omega
    have htoNat' : (-(-((pred + 1 : Nat) : Int) + 1)).toNat = pred := by omega
    have hhalf : 2 * leastSignificand / 2 ^ (pred + 1) = leastSignificand / 2 ^ pred := by
      rw [Nat.pow_succ', Nat.mul_div_mul_left _ _ (by decide)]
    rw [if_pos hcarry, if_neg (by omega), hcarry, hhalf]
    simp only [truncated?, ratio, if_neg hexp', htoNat', Nat.pow_eq]
  · rw [if_neg hcarry, if_neg (by omega)]
    simp only [truncated?, ratio, if_neg hneg, htoNat, Nat.pow_eq]

/-! ## §3 Microseconds -/

private theorem log2_million : Nat.log2 1000000 = 19 := by decide

/-- The exponent of a number of microseconds in seconds, within the years 1 to 9999. -/
theorem exists_targetExponent {num : Nat} (hpos : num ≠ 0) (h : num < 2 ^ 58) :
    ∃ shift : Nat, 1 < shift ∧ targetExponent num 1000000 = -(shift : Int) := by
  have hlog : Nat.log2 num < 58 := (Nat.log2_lt hpos).mpr h
  refine ⟨(-targetExponent num 1000000).toNat, ?_, ?_⟩
  all_goals
    rw [targetExponent, log2_million]
    split_ifs <;> omega

/-- The exponent in the last binade of the calendar. -/
theorem targetExponent_last {num : Nat} (hlow : 2 ^ 37 * 1000000 ≤ num)
    (hhigh : num < 2 ^ 38 * 1000000) : targetExponent num 1000000 = -((15 : Nat) : Int) := by
  have hpos : num ≠ 0 := by omega
  have hlog : Nat.log2 num < 58 := (Nat.log2_lt hpos).mpr (by omega)
  have hlog' : ¬ Nat.log2 num < 56 := fun hlt => by
    have := (Nat.log2_lt hpos).mp hlt
    omega
  have hscaled : ∀ shift : Nat, 0 < shift →
      scaledFloor num 1000000 (-(shift : Int)) = num * 2 ^ shift / 1000000 := by
    intro shift hshift
    rw [scaledFloor, if_neg (by omega), Nat.pow_eq]
    congr
    omega
  rw [targetExponent, log2_million]
  -- the binary logarithm of the numerator may fall short by one, and the estimate makes up for it
  rcases (by omega : Nat.log2 num = 56 ∨ Nat.log2 num = 57) with h56 | h57
  · have hexp : ((56 : Nat) : Int) - ((19 : Nat) : Int) - 52 = -((15 : Nat) : Int) := by decide
    simp only [h56, hexp, hscaled 15 (by decide), leastSignificand]
    rw [if_neg (by omega)]
    decide
  · have hexp : ((57 : Nat) : Int) - ((19 : Nat) : Int) - 52 = -((14 : Nat) : Int) := by decide
    simp only [h57, hexp, hscaled 14 (by decide), leastSignificand]
    rw [if_pos (by omega)]
    decide

/-- **Whole seconds.** Rounding neither leads beyond a whole number of seconds nor falls short of
one. -/
theorem exists_truncated? {num : Nat} (negative : Bool) (hpos : num ≠ 0) (h : num < 2 ^ 58) :
    ∃ t : Nat, (ofRatio negative num 1000000).truncated?
        = some (if negative then -(t : Int) else (t : Int)) ∧
      (∀ bound, num ≤ bound * 1000000 → t ≤ bound) ∧
      (∀ bound, bound * 1000000 ≤ num → bound ≤ t) := by
  obtain ⟨shift, hshift, hexp⟩ := exists_targetExponent hpos h
  have hstep : 0 < 2 ^ shift := Nat.two_pow_pos shift
  refine ⟨_, truncated?_ofRatio hpos hshift hexp, fun bound hbound => ?_, fun bound hbound => ?_⟩
  · have hscaled : num * 2 ^ shift ≤ bound * 1000000 * 2 ^ shift := Nat.mul_le_mul_right _ hbound
    have hexpand : bound * 1000000 * 2 ^ shift = 1000000 * (bound * 2 ^ shift) := by ring
    have hround : roundedQuotient (num * 2 ^ shift) 1000000 ≤ bound * 2 ^ shift :=
      roundedQuotient_le (by omega)
    exact Nat.div_le_of_le_mul (hround.trans_eq (Nat.mul_comm _ _))
  · rcases Nat.eq_zero_or_pos bound with rfl | hbound_pos
    · exact Nat.zero_le _
    have hsteps : 0 < bound * 2 ^ shift := Nat.mul_pos hbound_pos hstep
    have hscaled : bound * 1000000 * 2 ^ shift ≤ num * 2 ^ shift := Nat.mul_le_mul_right _ hbound
    have hexpand : bound * 1000000 * 2 ^ shift = bound * 2 ^ shift * 1000000 := by ring
    have hround : bound * 2 ^ shift - 1 < roundedQuotient (num * 2 ^ shift) 1000000 :=
      lt_roundedQuotient (by decide) (by omega)
    rw [Nat.le_div_iff_mul_le hstep]
    omega

/-- Less than a second is rounded to less than a second. -/
theorem truncated?_of_lt_second {num : Nat} (negative : Bool) (hpos : num ≠ 0)
    (h : num < 1000000) : (ofRatio negative num 1000000).truncated? = some 0 := by
  have hlog : Nat.log2 num < 20 := (Nat.log2_lt hpos).mpr (by omega)
  obtain ⟨shift, hshift, hexp⟩ :
      ∃ shift : Nat, 20 ≤ shift ∧ targetExponent num 1000000 = -(shift : Int) := by
    refine ⟨(-targetExponent num 1000000).toNat, ?_, ?_⟩
    all_goals
      rw [targetExponent, log2_million]
      split_ifs <;> omega
  -- a step is so small that none of them comes between the last microsecond and the second
  have hsteps : 2 ^ 20 ≤ 2 ^ shift := Nat.pow_le_pow_right (by decide) hshift
  have hscaled : num * 2 ^ shift ≤ 999999 * 2 ^ shift := Nat.mul_le_mul_right _ (by omega)
  have hround : roundedQuotient (num * 2 ^ shift) 1000000 ≤ 2 ^ shift - 1 :=
    roundedQuotient_le (by omega)
  rw [truncated?_ofRatio hpos (by omega) hexp, Nat.div_eq_of_lt (by omega)]
  simp

/-- In the last binade of the calendar a second has 32768 steps. -/
theorem truncated?_last {num : Nat} (negative : Bool) (hlow : 2 ^ 37 * 1000000 ≤ num)
    (hhigh : num < 2 ^ 38 * 1000000) :
    (ofRatio negative num 1000000).truncated?
      = some (if negative then -((roundedQuotient (num * 2 ^ 15) 1000000 / 2 ^ 15 : Nat) : Int)
          else ((roundedQuotient (num * 2 ^ 15) 1000000 / 2 ^ 15 : Nat) : Int)) :=
  truncated?_ofRatio (by omega) (by decide) (targetExponent_last hlow hhigh)

end IdentityService.Binary64
