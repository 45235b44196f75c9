import IdentityService.Directory.Synchronizer
import IdentityService.Http.Reply
import IdentityService.Provider.Verification
import IdentityService.Session.Guard

/-!
# Routes

What every route does.  The routes of identities take a provider token and keep the row of the
caller in step with it; the routes of users take a session token.  A route first obtains what
it depends on, in order, and an unavailable service ends it even when no token is sent.  The
reply is written last, when the store has done its part: a string in it that spells no text ends
the route then.

## Main definitions

- `Services`: what routes depend on.
- `Route`: the routes.
- `Route.run`: what a route does.
-/

namespace IdentityService

/-! ## §1 Services -/

/-- What routes depend on, over a store.  Each service may be unavailable. -/
structure Services (σ : Type) where
  version : String
  isProviderInitialized : Bool
  sessions : Outcome SessionService
  verifier : Outcome Verifier
  synchronizer : Outcome Synchronizer
  store : Store σ

/-- A request as a route sees it: the credentials, the clock of the service and the surroundings
in which tokens are opened. -/
structure Call where
  credentials : Option String
  clock : Moment
  machine : Machine

/-- What a successful route answers. -/
structure RouteReply where
  status : Nat
  body : Option Json

namespace RouteReply

/-- A reply with a body. -/
def ok (body : Json) : RouteReply := ⟨200, some body⟩

/-- A reply without a body. -/
def done : RouteReply := ⟨204, none⟩

/-- The reply with a body, which must be written in bytes. -/
def ofBody (body : Json) : Outcome RouteReply :=
  if body.spellsTexts then .ok (ok body) else .error .unwritable

end RouteReply

namespace Services

variable {σ : Type}

/-- The principal of a call. -/
def principal (sv : Services σ) (c : Call) : Outcome Principal := do
  (← sv.verifier).current c.credentials

/-- The claims of the session of a call. -/
def session (sv : Services σ) (c : Call) : Outcome SessionClaims := do
  SessionGuard.current (← sv.sessions) c.clock c.machine c.credentials

/-- The principal of a call and the synchronizer, obtained in this order. -/
def identity (sv : Services σ) (c : Call) : Outcome (Principal × Synchronizer) := do
  let p ← sv.principal c
  let s ← sv.synchronizer
  .ok (p, s)

/-- The row of a principal, who must have one. -/
def row (sv : Services σ) (p : Principal) : StoreStep σ IdentityRecord :=
  (sv.store.findById p.subject).andThen fun found =>
    match found with
    | some r => .ofOutcome (.ok r)
    | none => .ofOutcome (.error (.service (.identityNotFound p.subject)))

/-! ## §2 Identity routes -/

/-- Creates or updates the row of the caller. -/
def syncProfile (sv : Services σ) (c : Call) : StoreStep σ RouteReply :=
  (StoreStep.ofOutcome (sv.identity c)).andThen fun (p, s) =>
    (s.syncPrincipal sv.store c.clock p).andThen fun result =>
      (sv.store.touch p.subject c.clock).andThen fun _ =>
        .ofOutcome (RouteReply.ofBody (SyncReply.toJson
          ⟨.ofRecord result.record p.emailVerified, result.wasCreated⟩))

/-- The row of the caller. -/
def readIdentity (sv : Services σ) (c : Call) : StoreStep σ RouteReply :=
  (StoreStep.ofOutcome (sv.identity c)).andThen fun (p, _) =>
    (sv.row p).andThen fun r =>
      (sv.store.touch p.subject c.clock).andThen fun _ =>
        .ofOutcome (RouteReply.ofBody (IdentitySummary.ofRecord r p.emailVerified).toJson)

/-- Deletes the row of the caller. -/
def deleteAccount (sv : Services σ) (c : Call) : StoreStep σ RouteReply :=
  (StoreStep.ofOutcome (sv.identity c)).andThen fun (p, _) =>
    (sv.store.delete p.subject).andThen fun rows =>
      .ofOutcome (if rows = 0 then .error (.service (.identityNotFound p.subject)) else .ok .done)

/-- The session token for a row, and its description. -/
def sessionReply (sessions : SessionService) (clock : Moment) (r : IdentityRecord)
    (emailVerified : Bool) : Outcome RouteReply := do
  let subject ← (TokenSubject.ofParts r.id r.email TokenSubject.usualRoles).outcome
  let token ← sessions.issue clock subject
  RouteReply.ofBody (SessionReply.toJson
    ⟨token, SessionReply.bearer, sessions.expiresIn, .ofRecord r emailVerified⟩)

/-- Exchanges the provider token of the caller for a session token. -/
def createSession (sv : Services σ) (c : Call) : StoreStep σ RouteReply :=
  (StoreStep.ofOutcome (do
    let (p, _) ← sv.identity c
    let sessions ← sv.sessions
    .ok (p, sessions))).andThen fun (p, sessions) =>
      (sv.row p).andThen fun r =>
        .ofOutcome (sessionReply sessions c.clock r p.emailVerified)

/-! ## §3 User routes -/

/-- The caller as described by the session token. -/
def readUser (sv : Services σ) (c : Call) : Outcome RouteReply := do
  let claims ← sv.session c
  RouteReply.ofBody (SessionUser.ofClaims claims).toBody

/-- The same for callers with the admin role. -/
def readAdmin (sv : Services σ) (c : Call) : Outcome RouteReply := do
  let claims ← SessionGuard.requireRole .admin (← sv.session c)
  RouteReply.ofBody (SessionUser.ofClaims claims).toBody

end Services

/-! ## §4 The table of routes -/

/-- A route. -/
inductive Route
  | health
  | readiness
  | user
  | admin
  | syncProfile
  | identity
  | deleteAccount
  | session
  deriving DecidableEq, Repr

namespace Route

/-- Every route. -/
def all : List Route :=
  [health, readiness, user, admin, syncProfile, identity, deleteAccount, session]

/-- The path of a route. -/
def path : Route → String
  | health => "/api/health"
  | readiness => "/api/ready"
  | user => "/api/users/me"
  | admin => "/api/users/admin/me"
  | syncProfile => "/api/auth/sync-profile"
  | identity => "/api/auth/me"
  | deleteAccount => "/api/auth/delete-account"
  | session => "/api/auth/session"

/-- The method of a route. -/
def method : Route → String
  | syncProfile | session => "POST"
  | deleteAccount => "DELETE"
  | _ => "GET"

/-- What a route does. -/
def run {σ : Type} (sv : Services σ) (c : Call) : Route → StoreStep σ RouteReply
  | health => .ofOutcome (RouteReply.ofBody (HealthReply.healthy sv.version).toJson)
  | readiness =>
      .ofOutcome (RouteReply.ofBody (ReadinessReply.ofProvider sv.isProviderInitialized).toJson)
  | user => .ofOutcome (sv.readUser c)
  | admin => .ofOutcome (sv.readAdmin c)
  | syncProfile => sv.syncProfile c
  | identity => sv.readIdentity c
  | deleteAccount => sv.deleteAccount c
  | session => sv.createSession c

end Route

end IdentityService
