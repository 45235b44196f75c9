import IdentityService.Proofs.Http.SessionExchange

/-!
# Emails Shown as Verified

Three routes tell the caller whether the email is verified.  What they tell is what the claims of
the caller were read as, whatever the store holds; and the claims are read as saying so whenever
the value of the claim is not empty.  So a text such as the word for no passes for a yes.  The
provider's own server always says yes or no, and is understood.

## Main definitions

- `Json.CountsAsTrue`: the values that pass for true and are not.
- `Principal.SaysVerified`, `Principal.PassesForVerified`: what claims say, and how they are read.
- `Http.Response.verified?`: what a response shows.

## Main statements

- `Principal.emailVerified_iff`: the claims that are read as a verified email.
- `Route.gives_flag`: the replies of the three routes show what the principal says.
- `Application.verified_email_exact`: what is shown, and when it is what the claims say.
-/

namespace IdentityService

open Http

/-! ## §1 Claims -/

namespace Json

/-- A value that is neither true nor empty, so that it passes for true. -/
inductive CountsAsTrue : Json → Prop
  | int {n : Int} (h : n ≠ 0) : CountsAsTrue (.int n)
  | fraction {x : Binary64} (h : x.isZero = false) : CountsAsTrue (.fraction x)
  | text {s : String} (h : s ≠ "") : CountsAsTrue (.text s)
  | brokenText (b : BrokenText) : CountsAsTrue (.brokenText b)
  | array {items : List Json} (h : items ≠ []) : CountsAsTrue (.array items)
  | object {fields : Fields} (h : fields ≠ []) : CountsAsTrue (.object fields)

theorem isEmptyValue_eq_false_iff {v : Json} :
    v.isEmptyValue = false ↔ v = .bool true ∨ v.CountsAsTrue := by
  constructor
  · intro h
    cases v with
    | null => exact absurd h (by simp [isEmptyValue])
    | bool b =>
      cases b with
      | true => exact .inl rfl
      | false => exact absurd h (by simp [isEmptyValue])
    | int n => exact .inr (.int (by simpa [isEmptyValue] using h))
    | fraction x => exact .inr (.fraction h)
    | text s => exact .inr (.text (by simpa [isEmptyValue] using h))
    | brokenText b => exact .inr (.brokenText b)
    | array items => exact .inr (.array (by simpa [isEmptyValue] using h))
    | object fields => exact .inr (.object (by simpa [isEmptyValue] using h))
  · rintro (rfl | h)
    · rfl
    · cases h with
      | brokenText => rfl
      | fraction h => exact h
      | _ h => simpa [isEmptyValue] using h

end Json

namespace Principal

variable {claims : Fields} {p : Principal}

/-- Claims say that the email is verified. -/
def SaysVerified (claims : Fields) : Prop := claims.get? "email_verified" = some (.bool true)

/-- Claims say something else that passes for a verified email. -/
def PassesForVerified (claims : Fields) : Prop :=
  ∃ v, claims.get? "email_verified" = some v ∧ v.CountsAsTrue

instance (claims : Fields) : Decidable (SaysVerified claims) := inferInstanceAs (Decidable (_ = _))

theorem SaysVerified.not_passes (h : SaysVerified claims) : ¬ PassesForVerified claims := by
  rintro ⟨v, hv, hcounts⟩
  obtain rfl := Option.some.inj (h.symm.trans hv)
  cases hcounts

/-- **Reading the claim.** The email is taken as verified when the claims say so, and when they pass
for saying so. -/
theorem emailVerified_iff (h : p.IsNamedBy claims) :
    p.emailVerified = true ↔ SaysVerified claims ∨ PassesForVerified claims := by
  rw [h.verified]
  simp only [Json.isEmptyValue_eq_false_iff, and_or_left, exists_or, exists_eq_right]
  rfl

/-- The email is taken as verified only when the claims say so, unless they pass for it. -/
theorem says_of_emailVerified_iff (h : p.IsNamedBy claims) :
    (p.emailVerified = true → SaysVerified claims) ↔ ¬ PassesForVerified claims := by
  rw [emailVerified_iff h]
  constructor
  · intro hsaid hpasses
    exact (hsaid (.inr hpasses)).not_passes hpasses
  · rintro hnot (hsaid | hpasses)
    · exact hsaid
    · exact absurd hpasses hnot

end Principal

/-- The provider's own server says yes or no, by whether there is a time of confirmation. -/
theorem AccountUser.verified_claim {u : AccountUser} {claims : Fields} (h : u.claims = .ok claims) :
    claims.get? "email_verified" = some (.bool (u.emailConfirmedAt != .null)) := by
  obtain ⟨phone, -, hclaims⟩ := bind_eq_ok_iff.mp h
  obtain rfl := Except.ok.inj hclaims
  simp only [Assoc.update, List.foldl_cons, List.foldl_nil, Assoc.get?_set, if_pos]

/-- The email of a user is taken as verified when its claims say so, and it has been confirmed. -/
theorem AccountUser.emailVerified_iff {u : AccountUser} {claims : Fields} {p : Principal}
    (h : u.claims = .ok claims) (hp : p.IsNamedBy claims) :
    (p.emailVerified = true ↔ Principal.SaysVerified claims) ∧
      (p.emailVerified = true ↔ u.emailConfirmedAt ≠ .null) := by
  have hclaim := verified_claim h
  have hflag : p.emailVerified = (u.emailConfirmedAt != .null) := by
    rw [Bool.eq_iff_iff, hp.verified, hclaim]
    simp [Json.isEmptyValue]
  rw [Principal.SaysVerified, hclaim, hflag]
  simp

/-! ## §2 What responses show -/

/-- What a response shows about the verification of the email, of the user if there is one. -/
def Http.Response.verified? (r : Response) : Option Json :=
  match r.body with
  | .json v => ((v.field? "user").getD v).field? "email_verified"
  | .text _ => none

theorem ServiceError.verified?_of_reply {e : ServiceError} {response : Response}
    (h : e.reply? = some response) : response.verified? = none := by
  rcases reply_cases h with ⟨-, rfl⟩ | ⟨codes, -, rfl⟩ | ⟨error, detail, code, rfl⟩ <;> rfl

/-- No fault is answered with anything about it. -/
theorem Fault.verified?_response (f : Fault) : f.response.verified? = none := by
  cases f with
  | service e =>
    show (e.reply?.getD breakdown).verified? = none
    cases hreply : e.reply? with
    | none => rfl
    | some response => exact ServiceError.verified?_of_reply hreply
  | _ => rfl

/-- The routes that show whether the email is verified. -/
def Route.showingFlag : List Route := [syncProfile, identity, session]

/-- A reply shows what the principal of a call says. -/
def Services.Shows {σ : Type} (sv : Services σ) (c : Call) (reply : RouteReply) : Prop :=
  ∃ p, sv.principal c = .ok p ∧ reply.status = 200 ∧
    (Application.responseOf (.ok reply)).verified? = some (.bool p.emailVerified)

/-- **Routes.** Whatever the store answers, the replies of the three routes show what the principal
of the caller says. -/
theorem Route.gives_flag {σ : Type} (sv : Services σ) (c : Call) {route : Route}
    (h : route ∈ showingFlag) : (route.plan sv c).Gives (sv.Shows c) := by
  cases route with
  | syncProfile =>
    apply Plan.Gives.given
    rintro ⟨p, s⟩ hidentity
    apply Plan.Gives.given
    rintro accepted - result n
    exact Plan.gives_ofBody ⟨p, Services.principal_of_identity hidentity, rfl, rfl⟩
  | identity =>
    apply Plan.Gives.given
    rintro ⟨p, s⟩ hidentity
    apply Plan.Gives.row
    intro r n
    exact Plan.gives_ofBody ⟨p, Services.principal_of_identity hidentity, rfl, rfl⟩
  | session =>
    apply Plan.Gives.given
    rintro ⟨p, sessions⟩ hdepends
    obtain ⟨⟨p', s⟩, hidentity, hsessions⟩ := bind_eq_ok_iff.mp hdepends
    obtain ⟨sessions', -, hpair⟩ := bind_eq_ok_iff.mp hsessions
    obtain ⟨rfl, -⟩ := Prod.mk.inj (Except.ok.inj hpair)
    apply Plan.Gives.row
    -- there is a reply only when a token has been issued
    intro r reply hreply
    obtain ⟨holder, token, -, -, -, -, rfl⟩ := Services.sessionReply_eq_ok hreply
    exact ⟨p', Services.principal_of_identity hidentity, rfl, rfl⟩
  | _ => exact absurd h (by decide)

namespace Application

variable {σ : Type} {r : Request} {route : Route}

/-- **Responses.** A response of one of the three routes without success shows nothing; every other
one shows what the claims were read as that the client returned for the token. -/
theorem verified?_respondWith (policy : CrossOriginPolicy) (sv : Services σ) (clock : Moment)
    (machine : Machine) (hroute : findRoute r = .ok route) (hshows : route ∈ Route.showingFlag)
    (state : σ) :
    let response := (respondWith policy sv clock machine r state).1.1
    (¬ IsSuccess response.status ∧ response.verified? = none) ∨
      ∃ v token claims p, sv.verifier = .ok v ∧ bearer? r = some token ∧
        v.client token = .claims (.object claims) ∧ Principal.ofClaims claims = .ok p ∧
        response.status = 200 ∧ response.verified? = some (.bool p.emailVerified) := by
  intro response
  obtain ⟨headers, hresponse, -⟩ := respondWith_eq policy sv clock machine hroute state
  obtain ⟨outcome, state', hrun⟩ : ∃ outcome state',
      runRoute sv clock machine route r state = (outcome, state') := ⟨_, _, rfl⟩
  have hresponse' : response = { responseOf outcome with headers := headers } := by
    rw [hrun] at hresponse
    exact hresponse
  rw [hresponse']
  cases outcome with
  | error f => exact .inl ⟨Fault.not_isSuccess f, f.verified?_response⟩
  | ok reply =>
    have hplan : (route.plan sv (callOf clock machine r)).run sv.store clock state =
        (.ok reply, state') :=
      (congrFun (Route.run_plan sv (callOf clock machine r) route) state).trans hrun
    obtain ⟨p, hprincipal, hstatus, hflag⟩ := (Route.gives_flag sv _ hshows).run hplan
    obtain ⟨v, hverifier, hcurrent⟩ := bind_eq_ok_iff.mp hprincipal
    obtain ⟨token, claims, htoken, hclient, hnamed⟩ := Verifier.exists_claims_of_current hcurrent
    exact .inr ⟨v, token, claims, p, hverifier, htoken, hclient,
      Principal.ofClaims_eq_ok_iff.mpr hnamed, hstatus, hflag⟩

/-- **Verified emails.** The email is taken as verified when the claims say so, and also when they
have a value in place of the claim that is neither true nor empty; this is the one exception to
taking it as verified only when the claims say so.  A response of the three routes to a token with
these claims shows what they were read as, or fails and shows nothing.  With the provider's own
server there is no exception. -/
theorem verified_email_exact (claims : Fields) :
    (∀ p, Principal.ofClaims claims = .ok p →
      (p.emailVerified = true ↔
        Principal.SaysVerified claims ∨ Principal.PassesForVerified claims) ∧
      ((p.emailVerified = true → Principal.SaysVerified claims) ↔
        ¬ Principal.PassesForVerified claims)) ∧
    (∀ (σ : Type) (policy : CrossOriginPolicy) (sv : Services σ) (clock : Moment)
        (machine : Machine) (r : Request) (route : Route) (state : σ) (v : Verifier)
        (token : String),
      findRoute r = .ok route → route ∈ Route.showingFlag → sv.verifier = .ok v →
      bearer? r = some token → v.client token = .claims (.object claims) →
      let response := (respondWith policy sv clock machine r state).1.1
      (¬ IsSuccess response.status ∧ response.verified? = none) ∨
        ∃ p, Principal.ofClaims claims = .ok p ∧ response.status = 200 ∧
          response.verified? = some (.bool p.emailVerified)) ∧
    (∀ (u : AccountUser) (p : Principal), u.claims = .ok claims →
      Principal.ofClaims claims = .ok p →
      (p.emailVerified = true ↔ Principal.SaysVerified claims) ∧
        (p.emailVerified = true ↔ u.emailConfirmedAt ≠ .null)) := by
  refine ⟨?_, ?_, ?_⟩
  · intro p hp
    have hnamed := Principal.ofClaims_eq_ok_iff.mp hp
    exact ⟨Principal.emailVerified_iff hnamed, Principal.says_of_emailVerified_iff hnamed⟩
  · intro σ policy sv clock machine r route state v token hroute hshows hverifier hbearer
      hclient
    rcases verified?_respondWith policy sv clock machine hroute hshows state with
      hfailed | ⟨v', token', claims', p, hverifier', hbearer', hclient', hp, hshown⟩
    · exact .inl hfailed
    · -- the verifier, the token and the claims are the given ones
      obtain rfl := Except.ok.inj (hverifier.symm.trans hverifier')
      obtain rfl := Option.some.inj (hbearer.symm.trans hbearer')
      rw [hclient] at hclient'
      cases hclient'
      exact .inr ⟨p, hp, hshown⟩
  · intro u p hclaims hp
    exact u.emailVerified_iff hclaims (Principal.ofClaims_eq_ok_iff.mp hp)

/-- **The word for no.** The claims deny that the email is verified, as a text.  The principal has a
verified email, and the routes show it. -/
theorem verified_email_denied :
    let claims : Fields := [("sub", .text "user-1"), ("email", .text "a@example.com"),
      ("email_verified", .text "false")]
    let services := Services.ofUser ⟨.usual "hunter2"⟩ claims
    let clock : Moment := ⟨0, some 0⟩
    ¬ Principal.SaysVerified claims ∧
      (∃ p, Principal.ofClaims claims = .ok p ∧ p.emailVerified = true) ∧
      ∀ route ∈ Route.showingFlag,
        ((Occasion.bearing services route clock "token").answer .first).1.verified? =
          some (.bool true) := by
  intro claims services clock
  refine ⟨by decide, ⟨_, rfl, rfl⟩, ?_⟩
  decide +kernel

end Application

end IdentityService
