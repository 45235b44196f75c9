import IdentityService.Session.Token

/-!
# Session Guards

What stands between a bearer token and a route.  Every authentication failure becomes
one and the same fault; faults of other kinds pass through.
-/

namespace IdentityService.SessionGuard

/-- Collapses every authentication failure. -/
def collapse {α : Type} : Outcome α → Outcome α
  | .error (.service e) =>
      if e.kind.isA .authentication then .error .unauthenticated else .error (.service e)
  | r => r

/-- The claims of a token, or the uniform fault. -/
def decode (s : SessionService) (clock : Moment) (machine : Machine) (token : String) :
    Outcome SessionClaims :=
  collapse (s.verify clock machine token)

/-- The claims of the credentials, which must be there. -/
def current (s : SessionService) (clock : Moment) (machine : Machine) :
    Option String → Outcome SessionClaims
  | none => .error .unauthenticated
  | some token => decode s clock machine token

/-- The claims of the credentials, if they are there and in order. -/
def optional (s : SessionService) (clock : Moment) (machine : Machine) :
    Option String → Outcome (Option SessionClaims)
  | none => .ok none
  | some token =>
      match decode s clock machine token with
      | .ok claims => .ok (some claims)
      | .error .unauthenticated => .ok none
      | .error f => .error f

/-- Lets claims pass that carry a role. -/
def requireRole (r : Role) (claims : SessionClaims) : Outcome SessionClaims :=
  if claims.hasRole r then .ok claims
  else .error (.service (.insufficientPermissions r.text claims.roles))

/-- The claims of the credentials, which must be there and carry a role. -/
def access (s : SessionService) (clock : Moment) (machine : Machine) (r : Role)
    (credentials : Option String) : Outcome SessionClaims := do
  requireRole r (← current s clock machine credentials)

end IdentityService.SessionGuard
