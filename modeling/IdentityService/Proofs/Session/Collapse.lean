import IdentityService.Proofs.Session.Issue
import IdentityService.Session.Guard

/-!
# What the Guards Collapse

A guard turns every refusal of a token into one fault.  Refusals are all that can come out of the
checks of a token, unless the library lets the depth of a text through, but not all that can come
out of its moments: a recorded time outside the calendar ends the conversion with a fault of the
machinery, which no guard looks at.

## Main statements

- `SessionService.claimsAt_of_not_defeats`, `SessionService.claimsAt_of_defeats`: what becomes of
  a payload.
- `SessionGuard.collapse_exact`: which tokens get past the guards as a fault, and as which.
-/

namespace IdentityService

namespace SessionService

/-! ## §1 Moments of a payload -/

/-- The faults of the machinery that a recorded time or the clock can cause. -/
def IsMomentFault (f : Fault) : Prop :=
  f = .overflow ∨ f = .system ∨ f = .badValue none ∨ f = .wrongType

/-- The moments of a payload defeat its check: the expiry lies outside the calendar, or the clock
has no offset to compare it by, or the expiry has not passed and the time of issue lies outside
the calendar. -/
def Defeats (clock : Moment) (p : SessionPayload) : Prop :=
  Moment.inRange (p.exp * 1000000) = false ∨ clock.offset = none ∨
    clock.instant ≤ p.exp * 1000000 ∧ Moment.inRange (p.iat * 1000000) = false

theorem momentClaim_of_inRange {seconds : Int} (h : Moment.inRange (seconds * 1000000) = true) :
    momentClaim seconds = .ok ⟨seconds * 1000000, some 0⟩ :=
  momentClaim_eq_ok_iff.mpr ⟨h, rfl⟩

/-- **Conversion.** Seconds outside the calendar end in one of three faults. -/
theorem momentClaim_of_not_inRange {seconds : Int}
    (h : Moment.inRange (seconds * 1000000) = false) :
    ∃ f, momentClaim seconds = .error f ∧ IsMomentFault f := by
  unfold momentClaim
  split
  · rename_i m hm
    rw [Moment.ofTimestamp_eq_ok_iff, h] at hm
    exact absurd hm.1 Bool.false_ne_true
  · exact ⟨.overflow, rfl, .inl rfl⟩
  · exact ⟨.system, rfl, .inr (.inl rfl)⟩
  · exact ⟨.badValue none, rfl, .inr (.inr (.inl rfl))⟩

variable {clock : Moment} {p : SessionPayload}

theorem isAfter?_expiry (clock : Moment) (expiry : Int) :
    clock.isAfter? ⟨expiry, some 0⟩ =
      if clock.offset = none then none else some (decide (expiry < clock.instant)) := by
  have hinstant : (⟨expiry, some 0⟩ : Moment).instant = expiry := by
    simp [Moment.instant]
  unfold Moment.isAfter?
  rw [hinstant]
  cases clock.offset <;> rfl

/-- Once the expiry is a moment, the clock decides what comes next. -/
theorem claimsAt_of_expiry (hexp : Moment.inRange (p.exp * 1000000) = true) :
    claimsAt clock p =
      if clock.offset = none then .error .wrongType
      else if p.exp * 1000000 < clock.instant then .error (.service .tokenExpired)
      else
        momentClaim p.iat >>= fun issuedAt =>
          .ok ⟨p.sub, p.email, p.roles, issuedAt, ⟨p.exp * 1000000, some 0⟩, p.iss, p.aud⟩ := by
  unfold claimsAt
  rw [momentClaim_of_inRange hexp, ok_bind, isAfter?_expiry]
  by_cases hclock : clock.offset = none
  · rw [if_pos hclock, if_pos hclock]
  · rw [if_neg hclock, if_neg hclock]
    by_cases hexpired : p.exp * 1000000 < clock.instant
    · rw [if_pos hexpired, decide_eq_true hexpired]
    · rw [if_neg hexpired, decide_eq_false hexpired]

/-- **Sound moments.** A payload whose moments can be made is accepted or has expired. -/
theorem claimsAt_of_not_defeats (h : ¬ Defeats clock p) :
    (∃ k, claimsAt clock p = .ok k) ∨ claimsAt clock p = .error (.service .tokenExpired) := by
  simp only [Defeats, not_or, not_and, Bool.not_eq_false] at h
  obtain ⟨hexp, hclock, hiat⟩ := h
  rw [claimsAt_of_expiry hexp, if_neg hclock]
  by_cases hexpired : p.exp * 1000000 < clock.instant
  · rw [if_pos hexpired]
    exact .inr rfl
  · rw [if_neg hexpired, momentClaim_of_inRange (hiat (Int.not_lt.mp hexpired))]
    exact .inl ⟨_, rfl⟩

/-- **Defeat.** A payload whose moments cannot be made ends in a fault of the machinery. -/
theorem claimsAt_of_defeats (h : Defeats clock p) :
    ∃ f, claimsAt clock p = .error f ∧ IsMomentFault f := by
  -- the expiry is converted first, then compared, and the time of issue comes last
  by_cases hexp : Moment.inRange (p.exp * 1000000) = true
  · rw [claimsAt_of_expiry hexp]
    by_cases hclock : clock.offset = none
    · rw [if_pos hclock]
      exact ⟨.wrongType, rfl, .inr (.inr (.inr rfl))⟩
    · -- only the time of issue is left to defeat the check
      obtain ⟨hle, hiat⟩ : clock.instant ≤ p.exp * 1000000 ∧
          Moment.inRange (p.iat * 1000000) = false := by
        rcases h with hfalse | hnone | hiat
        · exact absurd hexp (by rw [hfalse]; exact Bool.false_ne_true)
        · exact absurd hnone hclock
        · exact hiat
      obtain ⟨f, hf, hfault⟩ := momentClaim_of_not_inRange hiat
      rw [if_neg hclock, if_neg (Int.not_lt.mpr hle), hf]
      exact ⟨f, rfl, hfault⟩
  · rw [Bool.not_eq_true] at hexp
    obtain ⟨f, hf, hfault⟩ := momentClaim_of_not_inRange hexp
    unfold claimsAt
    rw [hf, error_bind]
    exact ⟨f, rfl, hfault⟩

end SessionService

/-! ## §2 The guards -/

namespace SessionGuard

open SessionService (Defeats IsMomentFault MeetsDepth)

variable {s : SessionService} {clock : Moment} {machine : Machine} {token : String}

theorem collapse_refused {α : Type} (t : TokenFault) :
    collapse (.error (.service t.error) : Outcome α) = .error .unauthenticated := by
  cases t <;> rfl

/-- A token gets past the guards as a fault when its signature and its claims are in order and
its moments defeat the check, or when the library lets the depth of a text in it through. -/
inductive Escapes (s : SessionService) (key : List UInt8) (clock : Moment) (machine : Machine)
    (token : String) : Prop
  | moments (p : SessionPayload) (payload_eq : s.payloadOf machine token.toList = .ok p)
      (defeats : Defeats clock p)
  | depth (lets : machine.refusesDepth = false) (meets : MeetsDepth key token.toList)

/-- The faults with which a token escapes. -/
def IsEscape (f : Fault) : Prop := IsMomentFault f ∨ f = .tooDeep

theorem collapse_escape {α : Type} {f : Fault} (h : IsEscape f) :
    collapse (.error f : Outcome α) = .error f := by
  rcases h with (rfl | rfl | rfl | rfl) | rfl <;> rfl

theorem Escapes.ne_empty {key : List UInt8} (h : Escapes s key clock machine token) :
    token ≠ "" := by
  rintro rfl
  cases h with
  | moments _ hpayload =>
    obtain ⟨_, _, _, _, _, -, hsegs, -⟩ := SessionService.payloadOf_eq_ok_iff.mp hpayload
    exact absurd hsegs (by simp [Signed.segments])
  | depth _ hmeets =>
    cases hmeets with
    | header _ _ _ hsegs => exact absurd hsegs (by simp [Signed.segments])
    | payload _ _ _ hsegs => exact absurd hsegs (by simp [Signed.segments])

variable {key : List UInt8}

theorem decode_of_not_escapes (hkey : Secret.key s.settings.secret = .ok key)
    (h : ¬ Escapes s key clock machine token) :
    (∃ k, decode s clock machine token = .ok k) ∨
      decode s clock machine token = .error .unauthenticated := by
  unfold decode SessionService.verify
  by_cases hempty : token = ""
  · rw [if_pos (by simpa using hempty)]
    exact .inr rfl
  rw [if_neg (by simpa using hempty)]
  cases hpayload : s.payloadOf machine token.toList with
  | error f =>
    -- up to the payload there are refusals, and depth that is let through
    rcases SessionService.onlyFaults_payloadOf hkey machine _ f hpayload with ⟨t, rfl⟩ | rfl
    · exact .inr (collapse_refused t)
    · obtain ⟨hlets, hmeets⟩ := (SessionService.payloadOf_eq_tooDeep_iff hkey).mp hpayload
      exact absurd (.depth hlets hmeets) h
  | ok p =>
    have hsound : ¬ Defeats clock p := fun hdefeats => h (.moments p hpayload hdefeats)
    rw [ok_bind]
    rcases SessionService.claimsAt_of_not_defeats hsound with ⟨k, hk⟩ | hexpired
    · rw [hk]
      exact .inl ⟨k, rfl⟩
    · rw [hexpired]
      exact .inr rfl

theorem decode_of_escapes (hkey : Secret.key s.settings.secret = .ok key)
    (h : Escapes s key clock machine token) :
    ∃ f, IsEscape f ∧ decode s clock machine token = .error f := by
  have hne := h.ne_empty
  unfold decode SessionService.verify
  rw [if_neg (by simpa using hne)]
  cases h with
  | moments p hpayload hdefeats =>
    obtain ⟨f, hf, hfault⟩ := SessionService.claimsAt_of_defeats hdefeats
    rw [hpayload, ok_bind, hf]
    exact ⟨f, .inl hfault, collapse_escape (.inl hfault)⟩
  | depth hlets hmeets =>
    rw [(SessionService.payloadOf_eq_tooDeep_iff hkey).mpr ⟨hlets, hmeets⟩, error_bind]
    exact ⟨.tooDeep, .inr rfl, collapse_escape (.inr rfl)⟩

end SessionGuard

end IdentityService
