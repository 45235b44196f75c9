import IdentityService.Fault.Construction
import IdentityService.Proofs.Http.Isolation

/-!
# The Treatment of Errors

An error of the service is answered like the nearest kind above it that has a treatment of its own.
The kinds form an open tree, and an error may also be made from several kinds at once; what counts
is the order in which the kinds above it are looked up, which always leads to the root.

The response depends on little else.  Errors of authentication all have one response.  Where a
request is not permitted or the service fails, the response shows the code; a conflict and a thing
that was not found show the message besides; a failed validation shows the list of its codes and
nothing more.  Details and reasons never reach a client.

What a response shows must be a text.  Where an error has something else in its place, the reply
breaks down, whatever its kind.

## Main definitions

- `LookupOrder`: an order in which the kinds above an error are looked up.
- `ServiceError.Shown`: what a treatment shows of an error is a text.
- `ServiceError.replyAlong`, `ServiceError.responseAlong`: the reply and the response to an error
  whose kinds are looked up in an order.
- `ServiceError.Carries`: a failed validation with its entries.
- `Application.Raises`: a route ends with an error.

## Main statements

- `LookupOrder.exists_nearest`: which kind decides.
- `ServiceError.reply_eq_along`: the orders of the tree.
- `ServiceError.reply_congr`: what a reply may depend on.
- `ServiceError.reply_isSome_iff`: the errors that have a reply.
- `LookupOrder.decides_response`: all of it, for every order and every pair of errors.
- `LookupOrder.response_of_unshown`: a conflict and a failed validation that break down.
-/

namespace IdentityService

/-! ## §1 The nearest kind -/

namespace ErrorKind

/-- Every kind leads to the root. -/
theorem service_mem_lineage (k : ErrorKind) : .service ∈ k.lineage := by
  induction k with
  | refinement name parent ih => exact List.mem_cons_of_mem _ ih
  | _ => decide

theorem exists_lineage_eq_cons (k : ErrorKind) : ∃ above, k.lineage = k :: above := by
  cases k <;> exact ⟨_, rfl⟩

end ErrorKind

namespace Treatment

theorem own?_eq_some_iff {k : ErrorKind} {t : Treatment} :
    own? k = some t ↔ (k, t) ∈ registered := by
  cases k with
  | refinement name parent => simp [own?, registered]
  | _ => cases t <;> decide

/-- A kind with a treatment of its own is treated by it. -/
theorem ofKind_of_own {k : ErrorKind} {t : Treatment} (h : own? k = some t) : ofKind k = t := by
  obtain ⟨above, habove⟩ := k.exists_lineage_eq_cons
  rw [ofKind, habove, List.findSome?_cons, h]
  rfl

end Treatment

/-- An order in which the kinds above an error are looked up; the root is among them. -/
structure LookupOrder where
  kinds : List ErrorKind
  rooted : .service ∈ kinds

/-- The order of a kind of the tree. -/
def ErrorKind.order (k : ErrorKind) : LookupOrder := ⟨k.lineage, k.service_mem_lineage⟩

namespace LookupOrder

/-- The first kind that has a treatment of its own. -/
def nearest (o : LookupOrder) : ErrorKind :=
  (o.kinds.find? fun k => (Treatment.own? k).isSome).getD .service

/-- **The nearest kind.** It has a treatment of its own, and no kind before it has one. -/
theorem exists_nearest (o : LookupOrder) :
    ∃ before after t, o.kinds = before ++ o.nearest :: after ∧
      (∀ k ∈ before, Treatment.own? k = none) ∧ Treatment.own? o.nearest = some t := by
  have hfound : (o.kinds.find? fun k => (Treatment.own? k).isSome).isSome = true :=
    List.find?_isSome.mpr ⟨.service, o.rooted, rfl⟩
  obtain ⟨k, hk⟩ := Option.isSome_iff_exists.mp hfound
  obtain ⟨hown, before, after, hkinds, hbefore⟩ := List.find?_eq_some_iff_append.mp hk
  obtain ⟨t, ht⟩ := Option.isSome_iff_exists.mp hown
  have hnearest : o.nearest = k := by rw [nearest, hk, Option.getD_some]
  rw [hnearest]
  refine ⟨before, after, t, hkinds, fun k' hk' => ?_, ht⟩
  simpa using hbefore k' hk'

/-- A kind of the tree is treated like the nearest kind. -/
theorem ofKind_nearest (k : ErrorKind) : Treatment.ofKind k.order.nearest = Treatment.ofKind k := by
  obtain ⟨before, after, t, hkinds, hbefore, hown⟩ := k.order.exists_nearest
  have hlineage : k.lineage = before ++ k.order.nearest :: after := hkinds
  have hnone : before.findSome? Treatment.own? = none := List.findSome?_eq_none_iff.mpr hbefore
  have hkind : Treatment.ofKind k = t := by
    rw [Treatment.ofKind, hlineage, List.findSome?_append, hnone, List.findSome?_cons, hown]
    rfl
  rw [Treatment.ofKind_of_own hown, hkind]

end LookupOrder

/-! ## §2 What a response shows -/

namespace ServiceError

/-- A value can stand in an error body: it is a text, or null for nothing. -/
def IsShown (v : Json) : Prop := v = .null ∨ ∃ s, v = .text s

/-- What a treatment shows of an error is a text: the code, the message where there is a conflict
or something was not found, and every code of a failed validation. -/
def Shown (e : ServiceError) : Treatment → Prop
  | .unauthenticated => True
  | .invalid => ∃ codes, e.details.get? "errors" = some (.ofTexts codes)
  | .forbidden | .internal => IsShown e.codeValue
  | .conflict | .notFound => IsShown e.codeValue ∧ IsShown e.messageValue

/-- The reply to an error whose kinds are looked up in an order: that to the same error of the
nearest kind. -/
def replyAlong (e : ServiceError) (o : LookupOrder) : Option Http.Response :=
  { e with kind := o.nearest }.reply?

/-- The response to such an error. -/
def responseAlong (e : ServiceError) (o : LookupOrder) : Http.Response :=
  { e with kind := o.nearest }.response

/-- A failed validation carries its entries, and its details are what reports them. -/
def Carries (e : ServiceError) (entries : List Reported) : Prop :=
  e.reported = some entries ∧
    e.details.get? "errors" = some (.array (entries.map (·.entry)))

variable {e e' : ServiceError} {entries : List Reported} {t : Treatment}

theorem shownPart?_isSome_iff {v : Json} : (shownPart? v).isSome = true ↔ IsShown v := by
  cases v <;> simp [shownPart?, IsShown]

theorem mapM_text?_eq_some_iff {items : List Json} {codes : List String} :
    items.mapM Json.text? = some codes ↔ items = codes.map .text := by
  induction items generalizing codes with
  | nil => cases codes <;> simp
  | cons v items ih =>
    constructor
    · intro h
      rw [List.mapM_cons] at h
      obtain ⟨code, hcode, h⟩ := Option.bind_eq_some_iff.mp h
      obtain ⟨rest, hrest, h⟩ := Option.bind_eq_some_iff.mp h
      obtain rfl := Option.some.inj h
      rw [ih.mp hrest]
      cases v <;> simp_all [Json.text?]
    · intro h
      cases codes with
      | nil => exact absurd h (by simp)
      | cons code codes =>
        obtain ⟨rfl, hitems⟩ := List.cons.inj h
        rw [List.mapM_cons, ih.mpr hitems]
        rfl

/-- The codes of a failed validation are the texts in its details. -/
theorem codes?_eq_some_iff {codes : List String} :
    e.codes? = some codes ↔ e.details.get? "errors" = some (.ofTexts codes) := by
  unfold codes?
  split
  · rename_i items hitems
    rw [mapM_text?_eq_some_iff, hitems, Option.some.injEq, Json.ofTexts, Json.array.injEq]
  · rename_i hother
    constructor
    · intro h
      exact absurd h (by simp)
    · intro h
      exact absurd h (hother _)

theorem bodyReply?_isSome_iff {error : String} {detail : Json} :
    (e.bodyReply? t error detail).isSome = true ↔ IsShown detail ∧ IsShown e.codeValue := by
  simp only [bodyReply?, ← shownPart?_isSome_iff]
  cases shownPart? detail <;> cases shownPart? e.codeValue <;> simp

/-- **Replies.** The errors that have one are those of which everything shown is a text. -/
theorem reply_isSome_iff (h : Treatment.ofKind e.kind = t) :
    e.reply?.isSome = true ↔ e.Shown t := by
  have hwords : ∀ words, IsShown (.text words) := fun words => .inr ⟨words, rfl⟩
  unfold reply?
  rw [h]
  cases t with
  | unauthenticated => simp [Shown]
  | forbidden => simp [bodyReply?_isSome_iff, Shown, hwords]
  | invalid => simp [Option.isSome_iff_exists, codes?_eq_some_iff, Shown]
  | conflict => simp [bodyReply?_isSome_iff, Shown, and_comm]
  | notFound => simp [bodyReply?_isSome_iff, Shown, and_comm]
  | internal => simp [bodyReply?_isSome_iff, Shown, hwords]

/-- **Trees.** An error of the tree is answered in the order of its kind. -/
theorem reply_eq_along (e : ServiceError) : e.reply? = e.replyAlong e.kind.order := by
  unfold replyAlong reply?
  simp only [LookupOrder.ofKind_nearest]
  rfl

theorem response_eq_along (e : ServiceError) : e.response = e.responseAlong e.kind.order := by
  rw [response, reply_eq_along]
  rfl

/-- **What a reply depends on.** The treatment and the code; the message where there is a conflict
or something was not found; the entries where a validation has failed. -/
theorem reply_congr (h : Treatment.ofKind e.kind = t) (h' : Treatment.ofKind e'.kind = t)
    (hcode : e.codeValue = e'.codeValue)
    (hmessage : t = .conflict ∨ t = .notFound → e.messageValue = e'.messageValue)
    (hcodes : t = .invalid → e.codes? = e'.codes?) : e.reply? = e'.reply? := by
  unfold reply?
  rw [h, h']
  cases t with
  | unauthenticated => rfl
  | forbidden => simp only [bodyReply?, hcode]
  | invalid => simp only [hcodes rfl]
  | conflict => simp only [bodyReply?, hcode, hmessage (.inl rfl)]
  | notFound => simp only [bodyReply?, hcode, hmessage (.inr rfl)]
  | internal => simp only [bodyReply?, hcode]

theorem response_of_unauthenticated (h : Treatment.ofKind e.kind = .unauthenticated) :
    e.response = Http.unauthenticated := by
  rw [response, reply?, h]
  rfl

theorem responseAlong_of_reply {o : LookupOrder} {response : Http.Response}
    (h : e.replyAlong o = some response) : e.responseAlong o = response :=
  congrArg (Option.getD · Http.breakdown) h

theorem responseAlong_of_none {o : LookupOrder} (h : e.replyAlong o = none) :
    e.responseAlong o = Http.breakdown :=
  congrArg (Option.getD · Http.breakdown) h

theorem codes?_congr_of_carries (h : e.Carries entries) (h' : e'.Carries entries) :
    e.codes? = e'.codes? := by
  unfold codes?
  rw [h.2, h'.2]

theorem response_of_invalid (h : Treatment.ofKind e.kind = .invalid) {codes : List String}
    (hcarries : e.Carries entries) (htexts : entries.map (·.entry) = codes.map .text) :
    e.response = Http.Response.plain 400 (.json (.object [
      ("error", .text "Validation Error"), ("code", .text "VALIDATION_FAILED"),
      ("errors", .ofTexts codes)])) := by
  have hcodes : e.codes? = some codes := by
    rw [codes?_eq_some_iff, hcarries.2, htexts]
    rfl
  simp only [response, reply?, h, hcodes]
  rfl

/-! ## §3 Errors that are built -/

theorem carries_validationOf (kind : ErrorKind) (entries : List Reported) (message : String) :
    (validationOf kind entries message).Carries entries := ⟨rfl, rfl⟩

/-- A kind below validation is built with its entries. -/
theorem exists_carries_build {own : ErrorKind} {args : Fields} {kind : ErrorKind}
    (h : .validation ∈ kind.lineage) : ∃ entries, (build own args kind).Carries entries := by
  induction kind with
  | refinement name parent ih =>
    have hparent : .validation ∈ parent.lineage := by simpa [ErrorKind.lineage] using h
    exact ih hparent
  | validation => exact ⟨_, carries_validationOf own _ _⟩
  | missingEmail => exact ⟨_, carries_validationOf .missingEmail _ _⟩
  | _ => exact absurd h (by decide)

/-- An error below validation carries its entries when it is built. -/
theorem exists_carries_of_construct? {kind : ErrorKind} {args : Fields}
    (h : construct? kind args = some e) (hbelow : .validation ∈ kind.lineage) :
    ∃ entries, e.Carries entries := by
  unfold construct? at h
  split at h
  · obtain rfl := Option.some.inj h
    exact exists_carries_build hbelow
  · exact absurd h (by simp)

end ServiceError

/-! ## §4 Errors that are raised -/

namespace Application

open Http

variable {σ : Type} {services : Services σ} {clock : Moment} {machine : Machine} {r : Request}
  {state : σ} {e : ServiceError}

/-- The route of a request ends with an error. -/
def Raises (services : Services σ) (clock : Moment) (machine : Machine) (r : Request) (state : σ)
    (e : ServiceError) : Prop :=
  ∃ route, findRoute r = .ok route ∧
    (runRoute services clock machine route r state).1 = .error (.service e)

/-- An error that a route ends with is answered as an announced response to the error, or breaks
down where there is no reply to it. -/
theorem respondWith_of_raises (policy : CrossOriginPolicy)
    (h : Raises services clock machine r state e) :
    (respondWith policy services clock machine r state).1.1 =
      if e.reply?.isSome then policy.announce r e.response else breakdown := by
  obtain ⟨route, hroute, hrun⟩ := h
  rcases houtcome : runRoute services clock machine route r state with ⟨outcome, state'⟩
  obtain rfl : outcome = .error (.service e) := by rw [← hrun, houtcome]
  rw [respondWith_of_fault policy hroute houtcome]
  show (if e.reply?.isSome = true then policy.announce r e.response else e.response) = _
  split
  · rfl
  · rename_i hnone
    rw [Option.not_isSome_iff_eq_none] at hnone
    rw [ServiceError.response, hnone]
    rfl

end Application

/-! ## §5 All orders and all errors -/

/-- **Errors keep their details.** In every order the kinds above an error are looked up in, the
nearest kind with a treatment of its own decides the status, for every error of which everything
that the treatment shows is a text; all others break down.  All errors of authentication are
answered alike; a failed validation is answered with its codes in order; and errors with one code
are answered alike when their messages are the same where there is a conflict or something was not
found, and their entries where a validation has failed, whatever else they say.

Errors of the tree follow the order of their kind, errors that are built carry their entries, and
what a route raises, over any services, is answered in just this way. -/
theorem LookupOrder.decides_response (o : LookupOrder) :
    ∃ before nearest after t, o.kinds = before ++ nearest :: after ∧
      (∀ k ∈ before, Treatment.own? k = none) ∧ (nearest, t) ∈ Treatment.registered ∧
      (∀ e : ServiceError, e.Shown t → (e.responseAlong o).status = t.status) ∧
      (∀ e : ServiceError, ¬ e.Shown t → e.responseAlong o = Http.breakdown) ∧
      (t = .unauthenticated → ∀ e, ServiceError.responseAlong e o = Http.unauthenticated) ∧
      (t = .invalid → ∀ e entries codes, ServiceError.Carries e entries →
        entries.map (·.entry) = codes.map .text →
          e.responseAlong o = Http.Response.plain 400 (.json (.object [
            ("error", .text "Validation Error"), ("code", .text "VALIDATION_FAILED"),
            ("errors", .ofTexts codes)]))) ∧
      (∀ e e' : ServiceError, e.codeValue = e'.codeValue →
        (t = .conflict ∨ t = .notFound → e.messageValue = e'.messageValue) →
        (t = .invalid → ∃ entries, e.Carries entries ∧ e'.Carries entries) →
        e.responseAlong o = e'.responseAlong o) ∧
      (t = .invalid → ∀ kind args e, ErrorKind.order kind = o →
        ServiceError.construct? kind args = some e → ∃ entries, e.Carries entries) ∧
      ∀ e : ServiceError, e.kind.order = o →
        ∀ (σ : Type) (policy : CrossOriginPolicy) (services : Services σ) (clock : Moment)
          (machine : Machine) (r : Http.Request) (state : σ),
          Application.Raises services clock machine r state e →
          (e.Shown t → (Application.respondWith policy services clock machine r state).1.1 =
            policy.announce r (e.responseAlong o)) ∧
          (¬ e.Shown t → (Application.respondWith policy services clock machine r state).1.1 =
            Http.breakdown) := by
  obtain ⟨before, after, t, hkinds, hbefore, hown⟩ := o.exists_nearest
  have htreatment : Treatment.ofKind o.nearest = t := Treatment.ofKind_of_own hown
  have hregistered := Treatment.own?_eq_some_iff.mp hown
  -- an error of the nearest kind shows what the error itself shows
  have hreply : ∀ e : ServiceError, (e.replyAlong o).isSome = true ↔ e.Shown t := fun e =>
    ServiceError.reply_isSome_iff (e := { e with kind := o.nearest }) htreatment
  refine ⟨before, o.nearest, after, t, hkinds, hbefore, hregistered, ?_, ?_, ?_, ?_, ?_, ?_, ?_⟩
  · intro e hshown
    obtain ⟨response, hresponse⟩ := Option.isSome_iff_exists.mp ((hreply e).mpr hshown)
    rw [ServiceError.responseAlong_of_reply hresponse, ← htreatment]
    exact ServiceError.status_of_reply (e := { e with kind := o.nearest }) hresponse
  · intro e hunshown
    exact ServiceError.responseAlong_of_none (by simpa using (hreply e).not.mpr hunshown)
  · rintro rfl e
    exact ServiceError.response_of_unauthenticated (e := { e with kind := o.nearest }) htreatment
  · rintro rfl e entries codes hcarries htexts
    exact ServiceError.response_of_invalid (e := { e with kind := o.nearest }) htreatment
      hcarries htexts
  · intro e e' hcode hmessage hentries
    have hsame : ({ e with kind := o.nearest } : ServiceError).reply? =
        ({ e' with kind := o.nearest } : ServiceError).reply? := by
      refine ServiceError.reply_congr htreatment htreatment hcode hmessage fun hinvalid => ?_
      obtain ⟨entries, hcarries, hcarries'⟩ := hentries hinvalid
      exact ServiceError.codes?_congr_of_carries hcarries hcarries'
    exact congrArg (Option.getD · Http.breakdown) hsame
  · rintro rfl kind args e rfl hbuilt
    -- validation is the one kind with this treatment
    have hnearest : kind.order.nearest = .validation := by
      simpa [Treatment.registered] using hregistered
    have hlineage : kind.lineage = before ++ kind.order.nearest :: after := hkinds
    refine ServiceError.exists_carries_of_construct? hbuilt ?_
    rw [hlineage, hnearest]
    exact List.mem_append_right _ List.mem_cons_self
  · rintro e rfl σ policy services clock machine r state hraises
    have hsome : e.reply?.isSome = true ↔ e.Shown t := by
      rw [e.reply_eq_along]
      exact hreply e
    rw [Application.respondWith_of_raises policy hraises, e.response_eq_along]
    exact ⟨fun hshown => if_pos (hsome.mpr hshown), fun hunshown => if_neg (hsome.not.mpr hunshown)⟩

/-- **Not in words.** A conflict whose message is a number, and a failed validation with a member
of another enumeration that has a number as its value, are answered as breakdowns. -/
theorem LookupOrder.response_of_unshown :
    (∃ e, ServiceError.construct? .conflict [("message", .int 5)] = some e ∧
      e.response = Http.breakdown ∧ Treatment.conflict.status = 409) ∧
    (ServiceError.validationOf .validation [.member (.int 7)] "").response = Http.breakdown ∧
      Treatment.invalid.status = 400 :=
  ⟨⟨_, rfl, rfl, rfl⟩, rfl, rfl⟩

-- An error of two kinds is answered like the one that is looked up first.
example : ((ServiceError.plain .notFound "gone" "" []).responseAlong
    ⟨[.refinement "Vanished" .notFound, .notFound, .conflict, .service], by decide⟩).status = 404 :=
  rfl

end IdentityService
