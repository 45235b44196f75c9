import IdentityService.Provider.Credential
import IdentityService.Provider.Settings

/-!
# Provider Accounts

The provider's own server checks a token and answers with the user to whom it belongs.
A user becomes a set of claims; every refusal and every failed call becomes one of the
two provider errors.

## Main definitions

- `AccountAccess.connect`: the access to the server of the configured project.
- `AccountUser.claims`: the claims of a user.
- `AccountReply.claims`: the claims that a reply of the server stands for.
-/

namespace IdentityService

/-! ## §1 Access -/

/-- The access to a server. -/
structure AccountAccess where
  url : String
  key : String
  deriving DecidableEq, Repr

/-- The access to the server of the configured project. -/
def AccountAccess.connect (files : Folder) (settings : ProviderSettings) :
    Outcome AccountAccess := do
  let key ← Credential.read files settings.credentialPath
  .ok ⟨"https://" ++ settings.projectId ++ ".supabase.co", key⟩

/-! ## §2 Users -/

/-- A user as the server describes one: some fields of its own, and the whole profile. -/
structure AccountUser where
  id : Json
  email : Json
  phone : Json
  emailConfirmedAt : Json
  profile : Fields

namespace AccountUser

/-- A phone number with a leading plus; the server keeps numbers without one. -/
def phoneClaim (phone : Json) : Outcome Json :=
  if phone.isEmptyValue then .ok .null
  else
    match phone with
    | .text s => .ok (.text (if s.startsWith "+" then s else "+" ++ s))
    | .brokenText b =>
        .ok (.raw (if b.units.head? = some 43 then .broken b else .ofUnits (43 :: b.units)))
    | _ => .error .absentMember

/-- The claims of a user: the profile, in which four claims are replaced. -/
def claims (u : AccountUser) : Outcome Fields := do
  let phone ← phoneClaim u.phone
  .ok (u.profile.update [("sub", u.id), ("email", u.email.orNull), ("phone_number", phone),
    ("email_verified", .bool (u.emailConfirmedAt != .null))])

end AccountUser

/-! ## §3 Replies -/

/-- What the server does about a token. -/
inductive AccountReply
  | user (u : AccountUser)
  | nobody
  | failed (f : Fault)

namespace AccountReply

/-- A failed call as a provider error; faults of other kinds pass through. -/
def classify : Fault → Fault
  | .providerClient .retryable message => .service (.providerUnavailable message [])
  | .providerClient _ message => .service (.providerTokenRejected message [])
  | .transport kind message =>
      .service (.providerUnavailable (Fault.transport kind message).summary [])
  | f => f

/-- The claims that a reply stands for. -/
def claims : AccountReply → Outcome Fields
  | user u => u.claims
  | nobody => .error (.service (.providerTokenRejected "Provider returned no user for token" []))
  | failed f => .error (classify f)

end AccountReply

end IdentityService
