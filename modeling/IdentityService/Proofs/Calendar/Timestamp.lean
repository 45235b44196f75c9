import IdentityService.Calendar.Moment
import IdentityService.Proofs.Number.Rounding

/-!
# Timestamps and Moments

A number of seconds since 1970 and the UTC moment it stands for.  A moment at a whole
second is recorded exactly.  Any other moment is rounded to double precision first, which
stays within the years 1 to 9999 up to the last fifteen microseconds: these are recorded
as the first second of year 10000, which is no moment.

## Main statements

- `ofTimestamp_eq_ok_iff`: which numbers of seconds are moments, and of what reading.
- `wholeSeconds_le`, `le_wholeSeconds`: recording respects whole seconds.
- `inRange_wholeSeconds`, `wholeSeconds_of_beyond`: what is recorded of a moment in range.
-/

namespace IdentityService

/-- The last reading that is recorded within year 9999. -/
def Moment.maxRecorded : Int := 253402300799999984

/-! ## §1 Recording a moment -/

namespace Duration

theorem wholeSeconds_of_dvd {d : Duration} (h : d.microseconds % 1000000 = 0) :
    d.wholeSeconds * 1000000 = d.microseconds := by
  rw [wholeSeconds, if_pos h]
  omega

private theorem wholeSeconds_of_not_dvd {n : Int} (h : ¬ n % 1000000 = 0) :
    wholeSeconds ⟨n⟩
      = ((Binary64.ofRatio (decide (n < 0)) n.natAbs 1000000).truncated?).getD 0 :=
  if_neg h

/-- The recorded number of seconds by its magnitude, which lies between the same whole numbers as
the exact one. -/
theorem exists_wholeSeconds {n : Int} (hrange : n.natAbs < 2 ^ 58) :
    ∃ t : Nat, wholeSeconds ⟨n⟩ = (if n < 0 then -(t : Int) else (t : Int)) ∧
      (∀ bound, n.natAbs ≤ bound * 1000000 → t ≤ bound) ∧
      (∀ bound, bound * 1000000 ≤ n.natAbs → bound ≤ t) := by
  by_cases hwhole : n % 1000000 = 0
  · have hexact : wholeSeconds ⟨n⟩ * 1000000 = n := wholeSeconds_of_dvd hwhole
    refine ⟨n.natAbs / 1000000, ?_, fun bound hbound => by omega, fun bound hbound => by omega⟩
    split <;> omega
  · obtain ⟨t, htrunc, hle, hge⟩ :=
      Binary64.exists_truncated? (decide (n < 0)) (by omega : n.natAbs ≠ 0) hrange
    refine ⟨t, ?_, hle, hge⟩
    rw [wholeSeconds_of_not_dvd hwhole, htrunc, Option.getD_some]
    simp only [decide_eq_true_eq]

/-- **Monotony.** A whole number of seconds that is not exceeded is not exceeded by the recorded
one either. -/
theorem wholeSeconds_le {n k : Int} (hrange : n.natAbs < 2 ^ 58) (h : n ≤ k * 1000000) :
    wholeSeconds ⟨n⟩ ≤ k := by
  obtain ⟨t, ht, hle, hge⟩ := exists_wholeSeconds hrange
  have habove := hle k.toNat
  have hbelow := hge (-k).toNat
  rw [ht]
  split <;> omega

/-- A whole number of seconds that is reached is reached by the recorded one too. -/
theorem le_wholeSeconds {n k : Int} (hrange : n.natAbs < 2 ^ 58) (h : k * 1000000 ≤ n) :
    k ≤ wholeSeconds ⟨n⟩ := by
  obtain ⟨t, ht, hle, hge⟩ := exists_wholeSeconds hrange
  have habove := hle (-k).toNat
  have hbelow := hge k.toNat
  rw [ht]
  split <;> omega

/-- Less than a second after 1970 is recorded as its start. -/
theorem wholeSeconds_of_lt_second {n : Int} (hpos : 0 < n) (h : n < 1000000) :
    wholeSeconds ⟨n⟩ = 0 := by
  have hwhole : ¬ n % 1000000 = 0 := by omega
  rw [wholeSeconds_of_not_dvd hwhole,
    Binary64.truncated?_of_lt_second _ (by omega) (by omega), Option.getD_some]

/-- A moment up to the last recorded one is recorded within the years 1 to 9999. -/
theorem inRange_wholeSeconds {n : Int} (hlow : Moment.minWall ≤ n)
    (hhigh : n ≤ Moment.maxRecorded) :
    Moment.inRange (wholeSeconds ⟨n⟩ * 1000000) = true := by
  rw [Moment.inRange, Bool.and_eq_true, decide_eq_true_iff, decide_eq_true_iff]
  rw [Moment.minWall] at hlow ⊢
  rw [Moment.maxRecorded] at hhigh
  rw [Moment.maxWall]
  have hrange : n.natAbs < 2 ^ 58 := by omega
  have hfirst : -62135596800 ≤ wholeSeconds ⟨n⟩ := le_wholeSeconds hrange (by omega)
  by_cases hearly : n ≤ 2 ^ 37 * 1000000
  · have hbound : wholeSeconds ⟨n⟩ ≤ 2 ^ 37 := wholeSeconds_le hrange hearly
    omega
  by_cases hwhole : n % 1000000 = 0
  · have hexact : wholeSeconds ⟨n⟩ * 1000000 = n := wholeSeconds_of_dvd hwhole
    omega
  · -- the last binade, where a step is about thirty microseconds
    have hneg : ¬ n < 0 := by omega
    rw [wholeSeconds_of_not_dvd hwhole, Binary64.truncated?_last _ (by omega) (by omega),
      Option.getD_some, if_neg (by simpa using hneg)]
    have hround : Binary64.roundedQuotient (n.natAbs * 2 ^ 15) 1000000
        ≤ 253402300799 * 2 ^ 15 + 32767 := Binary64.roundedQuotient_le (by omega)
    omega

/-- A moment in the last fifteen microseconds is recorded as the second after them. -/
theorem wholeSeconds_of_beyond {n : Int} (hlow : Moment.maxRecorded < n)
    (hhigh : n ≤ Moment.maxWall) : wholeSeconds ⟨n⟩ = 253402300800 := by
  rw [Moment.maxRecorded] at hlow
  rw [Moment.maxWall] at hhigh
  have hwhole : ¬ n % 1000000 = 0 := by omega
  have hneg : ¬ n < 0 := by omega
  rw [wholeSeconds_of_not_dvd hwhole, Binary64.truncated?_last _ (by omega) (by omega),
    Option.getD_some, if_neg (by simpa using hneg)]
  have hlt : 253402300799 * 2 ^ 15 + 32767
      < Binary64.roundedQuotient (n.natAbs * 2 ^ 15) 1000000 :=
    Binary64.lt_roundedQuotient (by decide) (by omega)
  have hle : Binary64.roundedQuotient (n.natAbs * 2 ^ 15) 1000000 ≤ 253402300800 * 2 ^ 15 :=
    Binary64.roundedQuotient_le (by omega)
  omega

end Duration

/-! ## §2 Reading a timestamp -/

namespace Moment

theorem inRange_iff {wall : Int} : inRange wall = true ↔ minWall ≤ wall ∧ wall ≤ maxWall := by
  rw [inRange, Bool.and_eq_true, decide_eq_true_iff, decide_eq_true_iff]

/-- The year of a day in range needs few bits. -/
private theorem year_bounds {n : Int} (hlow : -1000000 ≤ n) (hhigh : n ≤ 3000000) :
    -1000000 ≤ (Calendar.ofDayNumber n).1 ∧ (Calendar.ofDayNumber n).1 ≤ 1000000 := by
  simp only [Calendar.ofDayNumber, Int.fdiv_eq_ediv_of_nonneg _ (show (0 : Int) ≤ 146097 by decide)]
  split_ifs <;> omega

/-- **Timestamps.** A number of seconds is a moment exactly if this moment lies in the years
1 to 9999, and then it is the UTC reading. -/
theorem ofTimestamp_eq_ok_iff {seconds : Int} {m : Moment} :
    ofTimestamp seconds = .ok m ↔
      inRange (seconds * 1000000) = true ∧ m = ⟨seconds * 1000000, some 0⟩ := by
  constructor
  · intro h
    rw [ofTimestamp] at h
    split at h
    · exact absurd h (by simp)
    simp only at h
    split at h
    · exact absurd h (by simp)
    split at h
    · rename_i hrange
      exact ⟨hrange, (Except.ok.inj h).symm⟩
    · exact absurd h (by simp)
  · rintro ⟨hrange, rfl⟩
    have hbounds := inRange_iff.mp hrange
    rw [minWall, maxWall] at hbounds
    have hday : seconds.fdiv 86400 = seconds / 86400 :=
      Int.fdiv_eq_ediv_of_nonneg _ (by decide)
    have hyear := year_bounds (n := seconds.fdiv 86400) (by omega) (by omega)
    rw [ofTimestamp, if_neg (by omega)]
    simp only
    rw [if_neg (by omega), if_pos hrange]

/-- The first second of year 10000 is no moment. -/
theorem ofTimestamp_beyond : ofTimestamp 253402300800 = .error .yearOutOfRange := by
  decide

end Moment

end IdentityService
