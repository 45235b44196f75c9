import IdentityService.Proofs.Session.Collapse
import IdentityService.Proofs.Text.LowerCase
import IdentityService.Http.Route

/-!
# Access by Role

A route for a role lets a session pass when one of its role strings names the role.  A text names
a role by its name or by its text, whatever blanks surround it and whatever its case; every
other string counts for nothing.  The decision therefore depends on the set of roles that are
named, and on nothing else in the list.

## Main definitions

- `Role.Names`: a string names a role.
- `SessionService.TimesInCalendar`: the recorded times of a token lie in the calendar.

## Main statements

- `Role.parse?_eq_some_iff`, `Role.Names.unique`: the look-up finds the one role that is named.
- `SessionService.verify_cases`: how verification can end.
- `SessionGuard.role_access_exact`: who passes, who is turned away, and with which fault.
-/

namespace IdentityService

/-! ## §1 Texts that name a role -/

namespace Role

variable {r r' : Role} {s : String} {t : RawText} {strings : List RawText}

/-- A string names a role: it is a text that, trimmed and with its case folded, is the name or the
text of the role with its case folded. -/
def Names (r : Role) (t : RawText) : Prop :=
  ∃ s, t = .text s ∧ (Text.caseFold (Text.strip s) = Text.caseFold r.name ∨
    Text.caseFold (Text.strip s) = Text.caseFold r.text)

@[simp] theorem caseFold_name (r : Role) : Text.caseFold r.name = r.text := by
  cases r <;> decide

@[simp] theorem caseFold_text (r : Role) : Text.caseFold r.text = r.text := by
  cases r <;> decide

/-- The name and the text of a role fold to the same key, so there is one key for each role. -/
theorem names_text_iff : r.Names (.text s) ↔ Text.caseFold (Text.strip s) = r.text := by
  simp [Names]

theorem not_names_broken (r : Role) (b : BrokenText) : ¬ r.Names (.broken b) := by
  simp [Names]

theorem index_enumeration :
    Enumeration.index enumeration.distinct =
      [(admin.text, ⟨admin.name, .text admin.text⟩),
        (user.text, ⟨user.name, .text user.text⟩)] := by
  have hdistinct : enumeration.distinct = enumeration := rfl
  rw [hdistinct]
  simp [Enumeration.index, Enumeration.enter, Enumeration.lookup?, enumeration, all]

/-- **Look-up.** A text is read as the role that it names. -/
theorem parse?_eq_some_iff : parse? s = some r ↔ r.Names s := by
  have huser : all.find? (·.name == user.name) = some user := rfl
  have hadmin : all.find? (·.name == admin.name) = some admin := rfl
  rw [names_text_iff, parse?, Enumeration.parse?, index_enumeration]
  generalize Text.caseFold (Text.strip s) = key
  by_cases hkey : key = admin.text
  · subst hkey
    cases r <;> simp [Enumeration.lookup?, hadmin, text]
  · by_cases hkey' : key = user.text
    · subst hkey'
      cases r <;> simp [Enumeration.lookup?, huser, text]
    · have hnone : Enumeration.lookup? key
          [(admin.text, (⟨admin.name, .text admin.text⟩ : Member)),
            (user.text, ⟨user.name, .text user.text⟩)] = none := by
        simp [Enumeration.lookup?, Ne.symm hkey, Ne.symm hkey']
      rw [hnone]
      cases r <;> simp [hkey, hkey']

theorem isNamedBy_eq_true_iff : r.isNamedBy t = true ↔ r.Names t := by
  cases t with
  | text s => simp [isNamedBy, RawText.text?, parse?_eq_some_iff]
  | broken b => simp [isNamedBy, RawText.text?, not_names_broken]

/-- A string names at most one role. -/
theorem Names.unique (h : r.Names t) (h' : r'.Names t) : r = r' := by
  obtain ⟨s, rfl, -⟩ := id h
  rw [← parse?_eq_some_iff] at h h'
  rw [h, Option.some.injEq] at h'
  exact h'

/-- Nothing is left of a blank text, and no role has an empty name. -/
theorem not_names_of_isBlankText (h : Text.isBlankText s = true) (r : Role) : ¬ r.Names s := by
  rw [names_text_iff, Text.strip_of_isBlankText h]
  cases r <;> decide

/-- **Membership.** A role is among the strings that name it. -/
theorem isAmong_eq_true_iff : r.isAmong strings = true ↔ ∃ t ∈ strings, r.Names t := by
  simp only [isAmong, List.any_eq_true, isNamedBy_eq_true_iff]

theorem isAmong_eq_false_iff : r.isAmong strings = false ↔ ∀ t ∈ strings, ¬ r.Names t := by
  rw [← Bool.not_eq_true, isAmong_eq_true_iff]
  simp

/-- A free text is looked up as the role that it names, and as nothing else. -/
theorem isNamedAmong_eq_true_iff {name : String} :
    isNamedAmong name strings = true ↔ ∃ r : Role, r.Names name ∧ r.isAmong strings = true := by
  simp only [isNamedAmong, Option.any_eq_true, parse?_eq_some_iff]

end Role

/-! ## §2 How verification ends -/

namespace SessionService

variable {s : SessionService} {clock : Moment} {machine : Machine} {token : String}

/-- If the signature and the claims of a token are in order, its recorded times lie in the
calendar. -/
def TimesInCalendar (s : SessionService) (machine : Machine) (token : String) : Prop :=
  ∀ p, s.payloadOf machine token.toList = .ok p →
    Moment.inRange (p.iat * 1000000) = true ∧ Moment.inRange (p.exp * 1000000) = true

/-- A payload with times in the calendar is accepted or has expired, unless the clock has no
offset to compare them by. -/
theorem claimsAt_of_inRange (clock : Moment) {p : SessionPayload}
    (hiat : Moment.inRange (p.iat * 1000000) = true)
    (hexp : Moment.inRange (p.exp * 1000000) = true) :
    (∃ k, claimsAt clock p = .ok k) ∨ claimsAt clock p = .error (.service .tokenExpired) ∨
      clock.offset = none ∧ claimsAt clock p = .error .wrongType := by
  by_cases hclock : clock.offset = none
  · rw [claimsAt_of_expiry hexp, if_pos hclock]
    exact .inr (.inr ⟨hclock, rfl⟩)
  · have hsound : ¬ Defeats clock p := by
      simp [Defeats, hexp, hclock, hiat]
    rcases claimsAt_of_not_defeats hsound with haccepted | hexpired
    · exact .inl haccepted
    · exact .inr (.inl hexpired)

/-- A fault rejects a token: it is one of authentication. -/
def IsRejection (f : Fault) : Prop :=
  ∃ e : ServiceError, f = .service e ∧ e.kind.isA .authentication = true

theorem isRejection_of_tokenFault {f : Fault} (h : IsTokenFault f) : IsRejection f := by
  obtain ⟨t, rfl⟩ := h
  cases t <;> exact ⟨_, rfl, rfl⟩

/-- Why a token can fail without being rejected: the clock has no offset to compare its times by,
or the library lets the depth of a text in it through. -/
inductive Breaks (key : List UInt8) (clock : Moment) (machine : Machine) (token : String) :
    Fault → Prop
  | clock (no_offset : clock.offset = none) : Breaks key clock machine token .wrongType
  | depth (lets : machine.refusesDepth = false) (meets : MeetsDepth key token.toList) :
      Breaks key clock machine token .tooDeep

theorem Breaks.not_service {key : List UInt8} {f : Fault} (h : Breaks key clock machine token f)
    (e : ServiceError) : f ≠ .service e := by
  cases h <;> simp

theorem Breaks.ne_unauthenticated {key : List UInt8} {f : Fault}
    (h : Breaks key clock machine token f) : f ≠ .unauthenticated := by
  cases h <;> simp

/-- **How verification ends.** A token with times in the calendar is accepted or rejected, or its
check breaks. -/
theorem verify_cases {key : List UInt8} (hkey : Secret.key s.settings.secret = .ok key)
    (htimes : s.TimesInCalendar machine token) (clock : Moment) :
    (∃ k, s.verify clock machine token = .ok k) ∨
      ∃ f, s.verify clock machine token = .error f ∧
        (IsRejection f ∨ Breaks key clock machine token f) := by
  unfold verify
  by_cases hempty : token = ""
  · rw [if_pos (by simpa using hempty)]
    exact .inr ⟨_, rfl, .inl ⟨_, rfl, rfl⟩⟩
  rw [if_neg (by simpa using hempty)]
  cases hpayload : s.payloadOf machine token.toList with
  | error f =>
    -- up to the payload there are refusals, and depth that is let through
    rcases onlyFaults_payloadOf hkey machine _ f hpayload with hrefused | rfl
    · exact .inr ⟨f, rfl, .inl (isRejection_of_tokenFault hrefused)⟩
    · obtain ⟨hlets, hmeets⟩ := (payloadOf_eq_tooDeep_iff hkey).mp hpayload
      exact .inr ⟨_, rfl, .inr (.depth hlets hmeets)⟩
  | ok p =>
    obtain ⟨hiat, hexp⟩ := htimes p hpayload
    rw [ok_bind]
    rcases claimsAt_of_inRange clock hiat hexp with haccepted | hexpired | ⟨hclock, hwrong⟩
    · exact .inl haccepted
    · exact .inr ⟨_, hexpired, .inl ⟨_, rfl, rfl⟩⟩
    · exact .inr ⟨_, hwrong, .inr (.clock hclock)⟩

end SessionService

/-! ## §3 Access -/

namespace SessionGuard

open SessionService (IsRejection Breaks MeetsDepth)

variable {s : SessionService} {clock : Moment} {machine : Machine} {token : String}
  {r : Role} {k k' : SessionClaims}

/-- A route for administrators answers who passes the guard for administrators. -/
theorem readAdmin_eq {σ : Type} (sv : Services σ) (c : Call) :
    sv.readAdmin c = (sv.sessions >>= fun s =>
      access s c.clock c.machine .admin c.credentials) >>= fun claims =>
        RouteReply.ofBody (SessionUser.ofClaims claims).toBody := by
  unfold Services.readAdmin Services.session access
  simp only [bind_assoc]

theorem collapse_rejection {α : Type} {f : Fault} (h : IsRejection f) :
    collapse (.error f : Outcome α) = .error .unauthenticated := by
  obtain ⟨e, rfl, he⟩ := h
  rw [collapse, if_pos he]

theorem requireRole_of_named (h : ∃ t ∈ k.roles, r.Names t) : requireRole r k = .ok k := by
  rw [requireRole, SessionClaims.hasRole, if_pos (Role.isAmong_eq_true_iff.mpr h)]

theorem requireRole_of_not_named (h : ∀ t ∈ k.roles, ¬ r.Names t) :
    requireRole r k = .error (.service (.insufficientPermissions r.text k.roles)) := by
  rw [requireRole, SessionClaims.hasRole, Role.isAmong_eq_false_iff.mpr h]
  rfl

theorem access_of_accepted (h : s.verify clock machine token = .ok k) :
    access s clock machine r (some token) = requireRole r k := by
  rw [access, current, decode, h]
  rfl

theorem access_of_rejected {f : Fault} (h : s.verify clock machine token = .error f)
    (hf : IsRejection f) :
    access s clock machine r (some token) = .error .unauthenticated := by
  rw [access, current, decode, h, collapse_rejection hf]
  rfl

variable {key : List UInt8}

/-- What breaks the check of a token breaks the guarded call. -/
theorem access_of_breaks {f : Fault} (h : s.verify clock machine token = .error f)
    (hf : Breaks key clock machine token f) : access s clock machine r (some token) = .error f := by
  rw [access, current, decode, h]
  cases hf <;> rfl

/-- **How a guarded call ends.** The four ways exclude each other: the token names the role, it
names other roles only, it is rejected, or its check breaks. -/
theorem access_cases (hkey : Secret.key s.settings.secret = .ok key)
    (htimes : s.TimesInCalendar machine token) (clock : Moment) (r : Role) :
    (∃ k, s.verify clock machine token = .ok k ∧ (∃ t ∈ k.roles, r.Names t) ∧
      access s clock machine r (some token) = .ok k) ∨
    (∃ k, s.verify clock machine token = .ok k ∧ (∀ t ∈ k.roles, ¬ r.Names t) ∧
      access s clock machine r (some token) =
        .error (.service (.insufficientPermissions r.text k.roles))) ∨
    (∃ f, s.verify clock machine token = .error f ∧ IsRejection f ∧
      access s clock machine r (some token) = .error .unauthenticated) ∨
    (∃ f, s.verify clock machine token = .error f ∧ Breaks key clock machine token f ∧
      access s clock machine r (some token) = .error f) := by
  rcases SessionService.verify_cases hkey htimes clock with
    ⟨k, hk⟩ | ⟨f, hf, hrejection | hbreaks⟩
  · by_cases hnamed : ∃ t ∈ k.roles, r.Names t
    · have haccess := (access_of_accepted hk).trans (requireRole_of_named hnamed)
      exact .inl ⟨k, hk, hnamed, haccess⟩
    · have hnot : ∀ t ∈ k.roles, ¬ r.Names t := fun t ht hr => hnamed ⟨t, ht, hr⟩
      have haccess := (access_of_accepted hk).trans (requireRole_of_not_named hnot)
      exact .inr (.inl ⟨k, hk, hnot, haccess⟩)
  · exact .inr (.inr (.inl ⟨f, hf, hrejection, access_of_rejected hf hrejection⟩))
  · exact .inr (.inr (.inr ⟨f, hf, hbreaks, access_of_breaks hf hbreaks⟩))

theorem access_eq_ok_iff (hkey : Secret.key s.settings.secret = .ok key)
    (htimes : s.TimesInCalendar machine token) :
    access s clock machine r (some token) = .ok k ↔
      s.verify clock machine token = .ok k ∧ ∃ t ∈ k.roles, r.Names t := by
  rcases access_cases hkey htimes clock r with
    ⟨k', hk', hnamed, haccess⟩ | ⟨k', hk', hnot, haccess⟩ | ⟨f, hf, -, haccess⟩ |
      ⟨f, hf, -, haccess⟩
  · rw [haccess, hk', Except.ok.injEq]
    constructor
    · rintro rfl
      exact ⟨rfl, hnamed⟩
    · exact And.left
  · rw [haccess, hk', Except.ok.injEq]
    constructor
    · intro hfalse
      exact absurd hfalse (by simp)
    · rintro ⟨rfl, t, ht, hr⟩
      exact absurd hr (hnot t ht)
  · simp [haccess, hf]
  · simp [haccess, hf]

theorem access_eq_service_iff (hkey : Secret.key s.settings.secret = .ok key)
    (htimes : s.TimesInCalendar machine token) {e : ServiceError} :
    access s clock machine r (some token) = .error (.service e) ↔
      ∃ k, s.verify clock machine token = .ok k ∧ (∀ t ∈ k.roles, ¬ r.Names t) ∧
        e = .insufficientPermissions r.text k.roles := by
  rcases access_cases hkey htimes clock r with
    ⟨k', hk', ⟨t, ht, hr⟩, haccess⟩ | ⟨k', hk', hnot, haccess⟩ | ⟨f, hf, -, haccess⟩ |
      ⟨f, hf, hbreaks, haccess⟩
  · rw [haccess, hk']
    constructor
    · intro hfalse
      exact absurd hfalse (by simp)
    · rintro ⟨k, hk, hnot, -⟩
      rw [Except.ok.injEq] at hk
      subst hk
      exact absurd hr (hnot t ht)
  · rw [haccess, hk', Except.error.injEq, Fault.service.injEq]
    constructor
    · rintro rfl
      exact ⟨k', rfl, hnot, rfl⟩
    · rintro ⟨k, hk, -, rfl⟩
      rw [Except.ok.injEq] at hk
      rw [hk]
  · simp [haccess, hf]
  · simp [haccess, hf, hbreaks.not_service e]

theorem access_eq_unauthenticated_iff (hkey : Secret.key s.settings.secret = .ok key)
    (htimes : s.TimesInCalendar machine token) :
    access s clock machine r (some token) = .error .unauthenticated ↔
      ∃ f, s.verify clock machine token = .error f ∧ IsRejection f := by
  rcases access_cases hkey htimes clock r with
    ⟨k', hk', -, haccess⟩ | ⟨k', hk', -, haccess⟩ | ⟨f, hf, hrejection, haccess⟩ |
      ⟨f, hf, hbreaks, haccess⟩
  · simp [haccess, hk']
  · simp [haccess, hk']
  · rw [haccess, hf]
    exact ⟨fun _ => ⟨f, rfl, hrejection⟩, fun _ => rfl⟩
  · rw [haccess, hf, Except.error.injEq]
    constructor
    · intro hfalse
      exact absurd hfalse hbreaks.ne_unauthenticated
    · rintro ⟨f', hf', e, rfl, -⟩
      exact absurd (Except.error.inj hf') (hbreaks.not_service e)

/-- A token that is not accepted is rejected, or its check breaks, and the guarded call with it. -/
theorem access_of_not_accepted (hkey : Secret.key s.settings.secret = .ok key)
    (htimes : s.TimesInCalendar machine token) {f : Fault}
    (hf : s.verify clock machine token = .error f) :
    IsRejection f ∨ Breaks key clock machine token f ∧
      access s clock machine r (some token) = .error f := by
  rcases SessionService.verify_cases hkey htimes clock with
    ⟨k, hk⟩ | ⟨f', hf', hrejection | hbreaks⟩
  · rw [hk] at hf
    exact absurd hf (by simp)
  · rw [hf', Except.error.injEq] at hf
    exact .inl (hf ▸ hrejection)
  · rw [hf', Except.error.injEq] at hf
    subst hf
    exact .inr ⟨hbreaks, access_of_breaks hf' hbreaks⟩

/-- Who passes with some roles passes with any roles among which the same ones are named. -/
theorem access_mono {token' : String} (hk : s.verify clock machine token = .ok k)
    (hk' : s.verify clock machine token' = .ok k')
    (hsub : ∀ t ∈ k.roles, (∃ r : Role, r.Names t) → t ∈ k'.roles)
    (haccess : access s clock machine r (some token) = .ok k) :
    access s clock machine r (some token') = .ok k' := by
  rw [access_of_accepted hk] at haccess
  rw [access_of_accepted hk']
  by_cases hnamed : ∃ t ∈ k.roles, r.Names t
  · obtain ⟨t, ht, hr⟩ := hnamed
    exact requireRole_of_named ⟨t, hsub t ht ⟨r, hr⟩, hr⟩
  · have hnot : ∀ t ∈ k.roles, ¬ r.Names t := fun t ht hr => hnamed ⟨t, ht, hr⟩
    rw [requireRole_of_not_named hnot] at haccess
    exact absurd haccess (by simp)

theorem timesInCalendar_of_accepted (h : s.verify clock machine token = .ok k) :
    s.TimesInCalendar machine token := by
  obtain ⟨-, p, hp, hclaims⟩ := SessionService.verify_eq_ok_iff.mp h
  obtain ⟨hiat, hexp, -⟩ := SessionService.claimsAt_eq_ok_iff.mp hclaims
  intro p' hp'
  rw [hp, Except.ok.injEq] at hp'
  rw [← hp']
  exact ⟨hiat, hexp⟩

theorem roles_of_accepted (h : s.verify clock machine token = .ok k) :
    ∃ p, s.payloadOf machine token.toList = .ok p ∧ k.roles = p.roles := by
  obtain ⟨-, p, hp, hclaims⟩ := SessionService.verify_eq_ok_iff.mp h
  obtain ⟨-, -, -, -, rfl⟩ := SessionService.claimsAt_eq_ok_iff.mp hclaims
  exact ⟨p, hp, rfl⟩

/-- **Access by role is exact.** With a secret that may serve, and a token whose recorded times
lie in the calendar if its signature and its claims are in order: the session passes when the
token is accepted and one of the strings in its payload names the role; it is turned away for
its permissions when the token is accepted and none does; and it is unauthenticated when the
token is rejected.  Nothing else can happen unless the check breaks: the clock has no offset to
compare times by, or the library lets the depth of a text in the token through.

Strings that name no role, blank ones among them, and repetitions and the order of the strings
count for nothing, further strings never take a role away, and a name that names no role is carried
by no session, even one with the same string. -/
theorem role_access_exact (hkey : Secret.key s.settings.secret = .ok key)
    (htimes : s.TimesInCalendar machine token) (clock : Moment) (r : Role) :
    (∀ k, access s clock machine r (some token) = .ok k ↔
      s.verify clock machine token = .ok k ∧ ∃ t ∈ k.roles, r.Names t) ∧
    (∀ e, access s clock machine r (some token) = .error (.service e) ↔
      ∃ k, s.verify clock machine token = .ok k ∧ (∀ t ∈ k.roles, ¬ r.Names t) ∧
        e = .insufficientPermissions r.text k.roles) ∧
    (access s clock machine r (some token) = .error .unauthenticated ↔
      ∃ f, s.verify clock machine token = .error f ∧ IsRejection f) ∧
    (∀ f, s.verify clock machine token = .error f →
      IsRejection f ∨ Breaks key clock machine token f ∧
        access s clock machine r (some token) = .error f) ∧
    access s clock machine r none = .error .unauthenticated ∧
    (∀ k, s.verify clock machine token = .ok k →
      ∃ p, s.payloadOf machine token.toList = .ok p ∧ k.roles = p.roles) ∧
    (∀ token' k k', s.verify clock machine token = .ok k →
      s.verify clock machine token' = .ok k' →
      ((∀ t ∈ k.roles, (∃ r' : Role, r'.Names t) → t ∈ k'.roles) →
        access s clock machine r (some token) = .ok k →
          access s clock machine r (some token') = .ok k') ∧
      ((∀ t, (∃ r' : Role, r'.Names t) → (t ∈ k.roles ↔ t ∈ k'.roles)) →
        (access s clock machine r (some token) = .ok k ↔
          access s clock machine r (some token') = .ok k'))) ∧
    (∀ t, Text.isBlankText t = true → ∀ r' : Role, ¬ r'.Names t) ∧
    (∀ (k : SessionClaims) (name : String),
      (k.hasRoleNamed name = true ↔
        ∃ r' : Role, r'.Names name ∧ ∃ t ∈ k.roles, r'.Names t) ∧
      (Role.parse? name = none → k.hasRoleNamed name = false)) := by
  refine ⟨fun k => access_eq_ok_iff hkey htimes, fun e => access_eq_service_iff hkey htimes,
    access_eq_unauthenticated_iff hkey htimes, fun f => access_of_not_accepted hkey htimes, rfl,
    fun k => roles_of_accepted, fun token' k k' hk hk' => ⟨access_mono hk hk', fun hsame => ?_⟩,
    fun t => Role.not_names_of_isBlankText, fun k name => ⟨?_, fun hname => ?_⟩⟩
  · -- lists with the same names of roles are each other's extension
    constructor
    · exact access_mono hk hk' fun t ht hknown => (hsame t hknown).mp ht
    · exact access_mono hk' hk fun t ht hknown => (hsame t hknown).mpr ht
  · simp only [SessionClaims.hasRoleNamed, Role.isNamedAmong_eq_true_iff,
      Role.isAmong_eq_true_iff]
  · rw [SessionClaims.hasRoleNamed, Role.isNamedAmong, hname]
    rfl

/-- An empty text and an unknown one beside a name of the administrators, in capitals and with a
no-break space: the administrators' route opens and the users' route does not. -/
theorem role_access_exact_usual :
    let s : SessionService := ⟨.usual "hunter2"⟩
    let machine : Machine := ⟨0, true⟩
    let roles : List RawText := [.text "", .text "auditor", .text " ADMIN\u00A0", .text "ADMIN"]
    ∃ token k, Secret.key s.settings.secret = .ok (Utf8.ofString "hunter2") ∧
      s.TimesInCalendar machine token ∧ k.roles = roles ∧
      access s ⟨0, some 0⟩ machine .admin (some token) = .ok k ∧
      access s ⟨0, some 0⟩ machine .user (some token) =
        .error (.service (.insufficientPermissions "user" roles)) ∧
      k.hasRoleNamed "auditor" = false := by
  intro s machine roles
  have hkey : Secret.key s.settings.secret = .ok (Utf8.ofString "hunter2") :=
    Secret.key_eq_ok_iff.mpr ⟨by decide +kernel, by decide +kernel, rfl⟩
  have he : (Moment.truncated ⟨0, some 0⟩).add? s.settings.expiry =
      some ⟨604800000000, some 0⟩ := by
    decide
  have hzone : (⟨0, some 0⟩ : Moment).offset.isSome := rfl
  obtain ⟨token, hissue⟩ := SessionService.exists_issue he hkey
    ⟨"user-1", "a@example.com", roles, by decide⟩
  have hverify := SessionService.verify_issued_eq_ok (by decide) he hissue (by decide) (by decide)
    hzone (by decide) machine
  have htimes := timesInCalendar_of_accepted hverify
  obtain ⟨hpasses, -⟩ := role_access_exact hkey htimes ⟨0, some 0⟩ .admin
  obtain ⟨-, hturnedAway, -, -, -, -, -, -, hnamed⟩ :=
    role_access_exact hkey htimes ⟨0, some 0⟩ .user
  have hadmin : Role.admin.Names "ADMIN" := Role.names_text_iff.mpr (by decide)
  have huser : ∀ t ∈ roles, ¬ Role.user.Names t := by
    intro t ht
    rw [← Role.isNamedBy_eq_true_iff, Bool.not_eq_true]
    revert t
    decide
  have hauditor : Role.parse? "auditor" = none := by
    decide
  exact ⟨token, _, hkey, htimes, rfl, (hpasses _).mpr ⟨hverify, "ADMIN", by decide, hadmin⟩,
    (hturnedAway _).mpr ⟨_, hverify, huser, rfl⟩, (hnamed _ _).2 hauditor⟩

/-- **A clock without an offset.** A token that a clock with an offset accepts, and whose times lie
in the calendar, is neither accepted nor rejected once the clock has no offset: its check breaks,
and with it every guarded call. -/
theorem access_without_offset :
    let s : SessionService := ⟨.usual "test-secret-key-for-testing-only"⟩
    ∃ token key, Secret.key s.settings.secret = .ok key ∧
      s.issue ⟨1736942400000000, some 0⟩ ⟨"user-1", "a@example.com", ["user"], by decide⟩
        = .ok token ∧
      ∀ machine, s.TimesInCalendar machine token ∧
        (∃ k, s.verify ⟨1736942400000000, some 0⟩ machine token = .ok k) ∧
        s.verify ⟨1736942400000000, none⟩ machine token = .error .wrongType ∧
        ∀ r, access s ⟨1736942400000000, none⟩ machine r (some token) = .error .wrongType := by
  intro s
  have hkey : Secret.key s.settings.secret = .ok (Utf8.ofString s.settings.secret) :=
    Secret.key_eq_ok_iff.mpr ⟨by decide +kernel, by decide +kernel, rfl⟩
  have he : (Moment.truncated ⟨1736942400000000, some 0⟩).add? s.settings.expiry
      = some ⟨1737547200000000, some 0⟩ := by decide
  have hzone : (⟨1736942400000000, some 0⟩ : Moment).offset.isSome := rfl
  obtain ⟨token, hissue⟩ := SessionService.exists_issue he hkey
    ⟨"user-1", "a@example.com", ["user"], by decide⟩
  refine ⟨token, _, hkey, hissue, fun machine => ?_⟩
  have haccepted := SessionService.verify_issued_eq_ok (by decide) he hissue (by decide)
    (by decide) hzone (by decide) machine
  have hwrong : s.verify ⟨1736942400000000, none⟩ machine token = .error .wrongType := by
    rw [SessionService.verify_issued (by decide)
      (SessionService.payloadAt_eq_ok_iff.mpr ⟨_, he, rfl⟩) hissue,
      SessionService.claimsAt_of_expiry (by decide), if_pos rfl]
  have hbreaks : Breaks (Utf8.ofString s.settings.secret) ⟨1736942400000000, none⟩ machine token
      .wrongType := .clock rfl
  exact ⟨timesInCalendar_of_accepted haccepted, ⟨_, haccepted⟩, hwrong,
    fun r => access_of_breaks hwrong hbreaks⟩

end SessionGuard

end IdentityService
