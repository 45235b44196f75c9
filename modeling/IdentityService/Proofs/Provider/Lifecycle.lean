import IdentityService.Proofs.Provider.SlotCalls

/-!
# The Life of the Provider Handle

Between two sections of a call those of any other calls may come, in any order.  A process is the
slot and the world with all calls on their way, and it keeps a log of the sections that have been
carried out.  The slot is what the log since the last reset has put into it.

## Main definitions

- `Lifecycle.Process`: the slot, the calls on their way, and a log of all sections.
- `Lifecycle.Process.run`: any calls, with their sections in any order.

## Main statements

- `Lifecycle.Process.undisturbed`: a call that no other interrupts does what the slot does.
- `Lifecycle.Process.recorded_run`: what the log tells.
- `Lifecycle.Process.initialized_once`: between two resets the slot is filled once, and no failed
  call leaves a trace in it.
-/

namespace IdentityService

namespace Lifecycle

variable {ω κ : Type}

/-! ## §1 Calls on their way -/

/-- The sections after the last one that has emptied the slot. -/
def sinceReset (log : List (Section ω κ)) : List (Section ω κ) :=
  (log.reverse.takeWhile fun sec => !sec.clears).reverse

theorem sinceReset_concat (log : List (Section ω κ)) (sec : Section ω κ) :
    sinceReset (log ++ [sec]) = if sec.clears then [] else sinceReset log ++ [sec] := by
  cases hclears : sec.clears <;> simp [sinceReset, hclears]

/-- A call on its way, with what is left of it. -/
structure Visit (ω κ : Type) where
  call : Call ω κ
  left : Stage ω κ

/-- The slot and the world, every call that has come in, and every section so far. -/
structure Process (ω κ : Type) where
  state : State ω κ
  visits : List (Visit ω κ)
  log : List (Section ω κ)

/-- What can happen next. -/
inductive Move (ω κ : Type)
  /-- A call comes in. -/
  | arrive (call : Call ω κ)
  /-- The next section of a call. -/
  | advance (visit : Nat)

namespace Process

/-- An empty slot, and no calls. -/
def start (world : ω) : Process ω κ := ⟨⟨.empty, world⟩, [], []⟩

/-- A call comes in. -/
def arrive (t : Process ω κ) (call : Call ω κ) : Process ω κ :=
  { t with visits := t.visits ++ [⟨call, call.stage⟩] }

/-- A section of a call has been carried out. -/
def perform (t : Process ω κ) (v : Visit ω κ) (sec : Section ω κ) : Process ω κ where
  state := sec.after
  visits := t.visits.set sec.visit { v with left := sec.left }
  log := t.log ++ [sec]

/-- What a move leaves.  A call that is not there, or has nothing left to do, does nothing. -/
def after (t : Process ω κ) : Move ω κ → Process ω κ
  | .arrive call => t.arrive call
  | .advance i =>
      match t.visits[i]? with
      | none => t
      | some v =>
          match h : v.left.step t.state with
          | none => t
          | some (left, m) =>
              t.perform v ⟨i, v.left, t.state, left, m, Stage.step_eq_some_iff.mp h⟩

/-- What a sequence of moves leaves. -/
def run (world : ω) (moves : List (Move ω κ)) : Process ω κ := moves.foldl after (start world)

/-- A call that has come in. -/
def call? (t : Process ω κ) (i : Nat) : Option (Call ω κ) := t.visits[i]?.map (·.call)

/-- The outcome of a call, once it is there. -/
def outcome? (t : Process ω κ) (i : Nat) : Option (Outcome (Answer κ)) :=
  t.visits[i]?.bind fun v =>
    match v.left with
    | .done r => some r
    | _ => none

variable {t : Process ω κ} {i : Nat} {v : Visit ω κ}

theorem after_advance {left : Stage ω κ} {m : State ω κ} (hv : t.visits[i]? = some v)
    (hsteps : v.left.Steps t.state left m) :
    t.after (.advance i) = t.perform v ⟨i, v.left, t.state, left, m, hsteps⟩ := by
  have hstep : v.left.step t.state = some (left, m) := Stage.step_eq_some_iff.mpr hsteps
  simp only [after, hv]
  split
  · rename_i hnone
    exact absurd (hstep.symm.trans hnone) (by simp)
  · rename_i left' m' hstep'
    obtain ⟨rfl, rfl⟩ := Prod.mk.inj (Option.some.inj (hstep.symm.trans hstep'))
    rfl

theorem after_advance_of_none (hv : t.visits[i]? = some v) (hstep : v.left.step t.state = none) :
    t.after (.advance i) = t := by
  simp only [after, hv]
  split
  · rfl
  · rename_i hsome
    exact absurd (hstep.symm.trans hsome) (by simp)

/-- What holds at the start, and is kept by calls that come in and by sections, holds always. -/
theorem run_induction {P : Process ω κ → Prop} {world : ω} (hstart : P (start world))
    (harrive : ∀ t call, P t → P (t.arrive call))
    (hperform : ∀ t v sec, t.visits[sec.visit]? = some v → sec.stage = v.left →
      sec.before = t.state → P t → P (t.perform v sec)) (moves : List (Move ω κ)) :
    P (run world moves) := by
  have hafter : ∀ t move, P t → P (t.after move) := by
    intro t move ht
    cases move with
    | arrive call => exact harrive t call ht
    | advance i =>
      cases hv : t.visits[i]? with
      | none => simpa only [after, hv] using ht
      | some v =>
        cases hstep : v.left.step t.state with
        | none =>
          rw [after_advance_of_none hv hstep]
          exact ht
        | some next =>
          rw [after_advance hv (Stage.step_eq_some_iff.mp hstep)]
          exact hperform t v _ hv rfl rfl ht
  have hfold : ∀ (moves : List (Move ω κ)) (t : Process ω κ), P t → P (moves.foldl after t) := by
    intro moves
    induction moves with
    | nil => exact fun t ht => ht
    | cons move moves ih => exact fun t ht => ih (t.after move) (hafter t move ht)
  exact hfold moves (start world) hstart

end Process

/-! ## §2 Undisturbed calls -/

/-- What a call does when no other interrupts it: its outcome, and what it leaves in the slot. -/
def Call.alone : Call ω κ → State ω κ → Outcome (Answer κ) × ProviderSlot κ
  | fill settings connect, m =>
      let filled := m.slot.fill settings fun settings => (connect settings m.world).1
      (filled.1.map fun h => .found (some h), filled.2)
  | get, m => (m.slot.handle.map fun h => .found (some h), m.slot)
  | isInitialized, m => (.ok (.flag m.slot.isInitialized), m.slot)
  | reset, m => (.ok .nothing, m.slot.reset)

namespace Process

/-- What some sections of a call leave when no other call interrupts them. -/
inductive Ends : Stage ω κ → State ω κ → Outcome (Answer κ) → State ω κ → Prop
  | done (r : Outcome (Answer κ)) (m : State ω κ) : Ends (.done r) m r m
  | step {p q : Stage ω κ} {m m' m'' : State ω κ} {r : Outcome (Answer κ)}
      (hstep : p.Steps m q m') (hrest : Ends q m' r m'') : Ends p m r m''

theorem Ends.exists_moves {p : Stage ω κ} {m m' : State ω κ} {r : Outcome (Answer κ)}
    (h : Ends p m r m') (i : Nat) :
    ∀ (t : Process ω κ) (v : Visit ω κ), t.visits[i]? = some v → v.left = p → t.state = m →
      ∃ n, let t' := (List.replicate n (Move.advance i)).foldl after t
        t'.outcome? i = some r ∧ t'.state = m' := by
  induction h with
  | done r m =>
    intro t v hv hleft hstate
    refine ⟨0, ?_, hstate⟩
    show t.outcome? i = _
    simp only [outcome?, hv, Option.bind_some, hleft]
  | step hstep _ ih =>
    rintro t v hv rfl rfl
    have hi : i < t.visits.length := (List.getElem?_eq_some_iff.mp hv).1
    obtain ⟨n, houtcome, hstate⟩ := ih (t.perform v ⟨i, v.left, t.state, _, _, hstep⟩) _
      (List.getElem?_set_self hi) rfl rfl
    refine ⟨n + 1, ?_⟩
    rw [List.replicate_succ, List.foldl_cons, after_advance hv hstep]
    exact ⟨houtcome, hstate⟩

/-- From its first stage a call ends as it does alone. -/
theorem ends_alone (c : Call ω κ) (m : State ω κ) :
    ∃ m', Ends c.stage m (c.alone m).1 m' ∧ m'.slot = (c.alone m).2 := by
  cases c with
  | fill settings connect =>
    rw [Call.alone]
    cases hcheck : ProjectId.check settings.projectId with
    | error f =>
      rw [ProviderSlot.fill_of_refused hcheck]
      exact ⟨m, .step (.refused hcheck) (.done _ m), rfl⟩
    | ok projectId =>
      cases hslot : m.slot with
      | some h =>
        rw [ProviderSlot.fill_of_filled hcheck rfl]
        exact ⟨m, .step (.accepted hcheck) (.step (.occupied hslot) (.done _ m)), hslot⟩
      | none =>
        rcases hconnect : connect settings m.world with ⟨f | client, world⟩
        · rw [ProviderSlot.fill_of_error hcheck rfl (congrArg Prod.fst hconnect)]
          exact ⟨_, .step (.accepted hcheck) (.step (.failed hslot hconnect) (.done _ _)), rfl⟩
        · rw [ProviderSlot.fill_of_ok hcheck rfl (congrArg Prod.fst hconnect)]
          exact ⟨_, .step (.accepted hcheck)
            (.step (.built hslot hconnect) (.step .handed (.done _ _))), rfl⟩
  | get =>
    rw [Call.alone]
    cases hslot : m.slot with
    | none => exact ⟨m, .step (.missed hslot) (.done _ m), hslot⟩
    | some h =>
      have hfound : (ProviderSlot.handle (some h)).map (fun h => Answer.found (some h)) =
          .ok (.found m.slot) := by
        rw [hslot]
        rfl
      rw [hfound]
      exact ⟨m, .step (.seen hslot) (.step .handed (.done _ m)), hslot⟩
  | isInitialized => exact ⟨m, .step .tested (.done _ m), rfl⟩
  | reset => exact ⟨_, .step .cleared (.done _ _), rfl⟩

/-- **Undisturbed calls.** A call that comes in, and whose sections no other call interrupts, ends
as it does alone, and leaves in the slot what it leaves there alone. -/
theorem undisturbed (t : Process ω κ) (c : Call ω κ) :
    ∃ n, let t' := (List.replicate n (Move.advance t.visits.length)).foldl after (t.arrive c)
      t'.outcome? t.visits.length = some (c.alone t.state).1 ∧
        t'.state.slot = (c.alone t.state).2 := by
  obtain ⟨m', hends, hslot⟩ := ends_alone c t.state
  have hv : (t.arrive c).visits[t.visits.length]? = some ⟨c, c.stage⟩ :=
    List.getElem?_concat_length
  obtain ⟨n, houtcome, hstate⟩ := hends.exists_moves t.visits.length (t.arrive c) _ hv rfl rfl
  exact ⟨n, houtcome, (congrArg State.slot hstate).trans hslot⟩

end Process

/-! ## §3 What the log tells -/

namespace Process

/-- The log tells what has happened from the first state on: each section starts where the one
before it ended, since the slot was emptied last it has been filled with what is in it, every call
has come from its first stage to the one it is at, and the sections of a call lie on its way. -/
structure Recorded (world : ω) (t : Process ω κ) : Prop where
  chain : ⟨.empty, world⟩ :: t.log.map (·.after) = t.log.map (·.before) ++ [t.state]
  slot_eq : t.state.slot.toList = (sinceReset t.log).filterMap Section.built?
  visited : ∀ (i : Nat) (v : Visit ω κ), t.visits[i]? = some v →
    v.call.stage.Leads v.left ∧
      (v.left = v.call.stage ∨ ∃ sec ∈ t.log, sec.visit = i ∧ sec.left = v.left)
  onTheWay : ∀ sec ∈ t.log, ∃ v, t.visits[sec.visit]? = some v ∧
    v.call.stage.Leads sec.stage ∧ sec.left.Leads v.left

theorem recorded_start (world : ω) : (start world : Process ω κ).Recorded world where
  chain := rfl
  slot_eq := rfl
  visited := by simp [start]
  onTheWay := by simp [start]

variable {t : Process ω κ} {world : ω}

theorem Recorded.arrive (h : t.Recorded world) (call : Call ω κ) :
    (t.arrive call).Recorded world where
  chain := h.chain
  slot_eq := h.slot_eq
  visited := by
    intro i v hv
    rw [Process.arrive, List.getElem?_append] at hv
    split at hv
    · exact h.visited i v hv
    · obtain rfl := List.mem_singleton.mp (List.mem_of_getElem? hv)
      exact ⟨.stay _, .inl rfl⟩
  onTheWay := by
    intro sec hsec
    obtain ⟨v, hv, hway⟩ := h.onTheWay sec hsec
    have hi : sec.visit < t.visits.length := (List.getElem?_eq_some_iff.mp hv).1
    refine ⟨v, ?_, hway⟩
    rw [Process.arrive, List.getElem?_append_left hi]
    exact hv

theorem Recorded.perform (h : t.Recorded world) {v : Visit ω κ} {sec : Section ω κ}
    (hv : t.visits[sec.visit]? = some v) (hstage : sec.stage = v.left)
    (hbefore : sec.before = t.state) : (t.perform v sec).Recorded world where
  chain := by
    have hchain := congrArg (· ++ [sec.after]) h.chain
    simpa [Process.perform, hbefore] using hchain
  slot_eq := by
    show sec.after.slot.toList = (sinceReset (t.log ++ [sec])).filterMap Section.built?
    have hslot := h.slot_eq
    rw [← hbefore] at hslot
    rw [sinceReset_concat]
    rcases sec.slot_cases with
      ⟨hsame, hbuilt, hclears⟩ | ⟨handle, hempty, hfilled, hbuilt, hclears, -⟩ |
        ⟨hempty, -, hclears, -⟩
    · simp [hclears, hbuilt, hsame, hslot]
    · rw [hempty, Option.toList_none] at hslot
      simp [hclears, hbuilt, hfilled, ← hslot]
    · simp [hclears, hempty]
  visited := by
    intro i w hw
    rw [Process.perform, List.getElem?_set] at hw
    by_cases hi : sec.visit = i
    · -- the call itself has gone one section on
      rw [if_pos hi] at hw
      split at hw
      · obtain rfl := Option.some.inj hw
        refine ⟨?_, .inr ⟨sec, List.mem_append_right _ (List.mem_singleton_self sec), hi, rfl⟩⟩
        have hstep : v.left.Steps sec.before sec.left sec.after := hstage ▸ sec.isStep
        exact .step (h.visited _ v hv).1 hstep
      · exact absurd hw (by simp)
    · rw [if_neg hi] at hw
      obtain ⟨hleads, hleft⟩ := h.visited i w hw
      refine ⟨hleads, hleft.imp_right ?_⟩
      rintro ⟨sec', hsec', hvisit⟩
      exact ⟨sec', List.mem_append_left _ hsec', hvisit⟩
  onTheWay := by
    have hlength : sec.visit < t.visits.length := (List.getElem?_eq_some_iff.mp hv).1
    have hnew : (t.perform v sec).visits[sec.visit]? = some { v with left := sec.left } :=
      List.getElem?_set_self hlength
    intro sec' hsec'
    rcases List.mem_append.mp hsec' with hold | hlast
    · obtain ⟨w, hw, hstage', hleft⟩ := h.onTheWay sec' hold
      by_cases hi : sec.visit = sec'.visit
      · obtain rfl := Option.some.inj (hv.symm.trans (hi ▸ hw))
        have hstep : v.left.Steps sec.before sec.left sec.after := hstage ▸ sec.isStep
        rw [← hi]
        exact ⟨_, hnew, hstage', .step hleft hstep⟩
      · refine ⟨w, ?_, hstage', hleft⟩
        rw [Process.perform, List.getElem?_set, if_neg hi]
        exact hw
    · obtain rfl := List.mem_singleton.mp hlast
      refine ⟨_, hnew, ?_, .stay _⟩
      show v.call.stage.Leads sec'.stage
      rw [hstage]
      exact (h.visited _ v hv).1

/-- **The log.** Whatever comes in whatever order, the log tells it. -/
theorem recorded_run (world : ω) (moves : List (Move ω κ)) :
    (run world moves).Recorded world :=
  run_induction (recorded_start world) (fun _ call h => h.arrive call)
    (fun _ _ _ hv hstage hbefore h => h.perform hv hstage hbefore) moves

theorem call?_eq_some_iff {i : Nat} {c : Call ω κ} :
    t.call? i = some c ↔ ∃ v, t.visits[i]? = some v ∧ v.call = c := by
  simp only [call?, Option.map_eq_some_iff]

theorem outcome?_eq_some_iff {i : Nat} {r : Outcome (Answer κ)} :
    t.outcome? i = some r ↔ ∃ v, t.visits[i]? = some v ∧ v.left = .done r := by
  simp only [outcome?, Option.bind_eq_some_iff]
  constructor
  · rintro ⟨v, hv, hleft⟩
    refine ⟨v, hv, ?_⟩
    split at hleft
    · rename_i r' hdone
      rw [hdone, Option.some.inj hleft]
    · exact absurd hleft (by simp)
  · rintro ⟨v, hv, hleft⟩
    refine ⟨v, hv, ?_⟩
    rw [hleft]

/-! ## §4 Failures leave no trace -/

variable {i : Nat} {sec : Section ω κ} {f : Fault} {settings : ProviderSettings}
  {connect : ProviderSettings → StoreStep ω κ}

/-- A call whose section has settled it has that outcome. -/
theorem Recorded.outcome?_of_done (h : t.Recorded world) (hsec : sec ∈ t.log)
    {r : Outcome (Answer κ)} (hleft : sec.left = .done r) : t.outcome? sec.visit = some r := by
  obtain ⟨v, hv, -, hleads⟩ := h.onTheWay sec hsec
  rw [hleft] at hleads
  exact outcome?_eq_some_iff.mpr ⟨v, hv, Stage.leads_done hleads⟩

/-- A call that has filled the slot does not fail any more. -/
theorem Recorded.outcome?_of_hand (h : t.Recorded world) (hsec : sec ∈ t.log)
    (hleft : sec.left = .hand) (f : Fault) : t.outcome? sec.visit ≠ some (.error f) := by
  intro houtcome
  obtain ⟨v, hv, -, hleads⟩ := h.onTheWay sec hsec
  obtain ⟨v', hv', hdone⟩ := outcome?_eq_some_iff.mp houtcome
  obtain rfl := Option.some.inj (hv.symm.trans hv')
  rw [hleft] at hleads
  rcases Stage.leads_hand hleads with hhand | ⟨slot, hfound⟩
  · exact absurd (hdone.symm.trans hhand) (by simp)
  · exact absurd (hdone.symm.trans hfound) (by simp)

/-- **Failures.** Every section of a call that ends in a fault leaves the slot as it is. -/
theorem Recorded.slot_of_error (h : t.Recorded world) (houtcome : t.outcome? i = some (.error f))
    (hsec : sec ∈ t.log) (hvisit : sec.visit = i) : sec.after.slot = sec.before.slot := by
  subst hvisit
  rcases sec.slot_cases with ⟨hsame, -⟩ | ⟨_, -, -, -, -, hleft⟩ | ⟨-, -, -, hleft⟩
  · exact hsame
  · exact absurd houtcome (h.outcome?_of_hand hsec hleft f)
  · rw [h.outcome?_of_done hsec hleft] at houtcome
    exact absurd houtcome (by simp)

theorem Recorded.exists_visit (h : t.Recorded world) {c : Call ω κ} (hcall : t.call? i = some c) :
    ∃ v, t.visits[i]? = some v ∧ v.call = c ∧ c.stage.Leads v.left ∧
      (v.left = c.stage ∨ ∃ sec ∈ t.log, sec.visit = i ∧ sec.left = v.left) := by
  obtain ⟨v, hv, rfl⟩ := call?_eq_some_iff.mp hcall
  obtain ⟨hleads, hleft⟩ := h.visited i v hv
  exact ⟨v, hv, rfl, hleads, hleft⟩

/-- The sections of a call lie on the way from its first stage. -/
theorem Recorded.leads_stage (h : t.Recorded world) {c : Call ω κ} (hcall : t.call? i = some c)
    (hsec : sec ∈ t.log) (hvisit : sec.visit = i) : c.stage.Leads sec.stage := by
  subst hvisit
  obtain ⟨v, hv, rfl⟩ := call?_eq_some_iff.mp hcall
  obtain ⟨v', hv', hleads, -⟩ := h.onTheWay sec hsec
  obtain rfl := Option.some.inj (hv.symm.trans hv')
  exact hleads

/-- **Refused identifiers.** A call with a refused identifier changes nothing at all, and fails
with its first section. -/
theorem Recorded.of_refused (h : t.Recorded world)
    (hcall : t.call? i = some (.fill settings connect))
    (hcheck : ProjectId.check settings.projectId = .error f) :
    (∀ sec ∈ t.log, sec.visit = i → sec.after = sec.before) ∧
      (t.outcome? i = none ∨ t.outcome? i = some (.error f)) ∧
      (t.after (.advance i)).outcome? i = some (.error f) := by
  obtain ⟨v, hv, -, hleads, -⟩ := h.exists_visit hcall
  refine ⟨?_, ?_⟩
  · intro sec hsec hvisit
    have hstep := sec.isStep
    rcases Stage.leads_check_of_refused hcheck (h.leads_stage hcall hsec hvisit) with
      hstage | hstage
    · rw [hstage] at hstep
      exact (hstep.unique (.refused hcheck)).2
    · rw [hstage] at hstep
      exact absurd hstep Stage.not_steps_of_done
  · rcases Stage.leads_check_of_refused hcheck hleads with hleft | hleft
    · -- the check is still to come
      have hsteps : v.left.Steps t.state (.done (.error f)) t.state := by
        rw [hleft]
        exact .refused hcheck
      have hi : i < t.visits.length := (List.getElem?_eq_some_iff.mp hv).1
      refine ⟨.inl ?_, ?_⟩
      · rw [outcome?, hv, Option.bind_some, hleft]
      · rw [after_advance hv hsteps]
        exact outcome?_eq_some_iff.mpr ⟨_, List.getElem?_set_self hi, rfl⟩
    · -- nothing is left to do
      have houtcome : t.outcome? i = some (.error f) := outcome?_eq_some_iff.mpr ⟨v, hv, hleft⟩
      have hnone : v.left.step t.state = none := by
        rw [hleft]
        rfl
      rw [after_advance_of_none hv hnone]
      exact ⟨.inr houtcome, houtcome⟩

/-- **Locked sections.** Where there is a handle, the call fails and nothing changes; where there
is none, it fails as the making of the client fails, or the slot holds the new client. -/
theorem Recorded.of_locked (h : t.Recorded world) {projectId : String} (hsec : sec ∈ t.log)
    (hstage : sec.stage = .install projectId settings connect) :
    (∀ handle, sec.before.slot = some handle → sec.after = sec.before ∧
      t.outcome? sec.visit = some (.error (.service .alreadyInitialized))) ∧
    (sec.before.slot = none → ∀ f world', connect settings sec.before.world = (.error f, world') →
      sec.after = ⟨none, world'⟩ ∧ t.outcome? sec.visit = some (.error f)) ∧
    (sec.before.slot = none → ∀ client world',
      connect settings sec.before.world = (.ok client, world') →
        sec.after = ⟨some ⟨projectId, client, settings.timeout⟩, world'⟩ ∧
          ∀ f, t.outcome? sec.visit ≠ some (.error f)) := by
  have hdone := fun r => h.outcome?_of_done (r := r) hsec
  have hhand := h.outcome?_of_hand hsec
  have hstep := sec.isStep
  rw [hstage] at hstep
  refine ⟨fun handle hslot => ?_, fun hslot f world' hconnect => ?_,
    fun hslot client world' hconnect => ?_⟩
  · obtain ⟨hleft, hafter⟩ := hstep.unique (.occupied hslot)
    exact ⟨hafter, hdone _ hleft⟩
  · obtain ⟨hleft, hafter⟩ := hstep.unique (.failed hslot hconnect)
    exact ⟨hafter, hdone _ hleft⟩
  · obtain ⟨hleft, hafter⟩ := hstep.unique (.built hslot hconnect)
    exact ⟨hafter, hhand hleft⟩

/-- A call with an acceptable identifier fails in its locked section or not at all. -/
theorem Recorded.exists_locked_of_error (h : t.Recorded world)
    (hcall : t.call? i = some (.fill settings connect)) {projectId : String}
    (hcheck : ProjectId.check settings.projectId = .ok projectId)
    (houtcome : t.outcome? i = some (.error f)) :
    ∃ sec ∈ t.log, sec.visit = i ∧ sec.stage = .install projectId settings connect := by
  obtain ⟨v, hv, -, -, hleft⟩ := h.exists_visit hcall
  obtain ⟨v', hv', hdone⟩ := outcome?_eq_some_iff.mp houtcome
  obtain rfl := Option.some.inj (hv.symm.trans hv')
  rcases hleft with hleft | ⟨sec, hsec, hvisit, hleft⟩
  · exact absurd (hdone.symm.trans hleft) (by simp [Call.stage])
  · refine ⟨sec, hsec, hvisit, ?_⟩
    have hstep := sec.isStep
    rw [hleft, hdone] at hstep
    rcases Stage.leads_check_of_accepted hcheck (h.leads_stage hcall hsec hvisit) with
      hstage | hstage | hstage | ⟨r, hstage⟩
    · -- the check lets the call go on
      rw [hstage] at hstep
      exact absurd (hstep.unique (.accepted hcheck)).1 (by simp)
    · exact hstage
    · rw [hstage] at hstep
      exact absurd hstep Stage.not_error_of_hand
    · rw [hstage] at hstep
      exact absurd hstep Stage.not_steps_of_done

/-- **Look-ups.** A look-up fails exactly when it has found the slot empty. -/
theorem Recorded.get_fails_iff (h : t.Recorded world) (hcall : t.call? i = some .get) :
    t.outcome? i = some (.error f) ↔
      f = .service .providerNotInitialized ∧
        ∃ sec ∈ t.log, sec.visit = i ∧ sec.stage = .look ∧ sec.before.slot = none := by
  constructor
  · intro houtcome
    obtain ⟨v, hv, -, -, hleft⟩ := h.exists_visit hcall
    obtain ⟨v', hv', hdone⟩ := outcome?_eq_some_iff.mp houtcome
    obtain rfl := Option.some.inj (hv.symm.trans hv')
    rcases hleft with hleft | ⟨sec, hsec, hvisit, hleft⟩
    · exact absurd (hdone.symm.trans hleft) (by simp [Call.stage])
    · have hstep := sec.isStep
      rw [hleft, hdone] at hstep
      rcases Stage.leads_look (h.leads_stage hcall hsec hvisit) with hstage | hstage | ⟨r, hstage⟩
      · rw [hstage] at hstep
        obtain ⟨hslot, rfl⟩ := Stage.empty_of_look hstep
        exact ⟨rfl, sec, hsec, hvisit, hstage, hslot⟩
      · rw [hstage] at hstep
        exact absurd hstep Stage.not_error_of_hand
      · rw [hstage] at hstep
        exact absurd hstep Stage.not_steps_of_done
  · rintro ⟨rfl, sec, hsec, rfl, hstage, hslot⟩
    have hstep := sec.isStep
    rw [hstage] at hstep
    exact h.outcome?_of_done hsec (hstep.unique (.missed hslot)).1

/-- **Initialized once.** Calls come in, and their sections are carried out, in any order and with
any settings and any ways to make a client.  The sections follow on each other from the empty slot
to the one that is there.  Between two resets one section at most fills the slot, and what is in
the slot is the handle that it has built; a handle stays until a section empties the slot; and no
client is made except for an acceptable identifier and an empty slot.

A call with a blank identifier or a placeholder fails with a fault of the configuration and
changes neither slot nor world.  A call with an acceptable one fails, without making a client,
when it finds a handle; fails as the making of its client fails; and otherwise fills the slot.  A
call that fails has left the slot as it was with each of its sections, and a look-up fails exactly
when it finds the slot empty.  A call that no other interrupts does what the slot does. -/
theorem initialized_once (world : ω) (moves : List (Move ω κ)) :
    let t := run world moves
    ⟨.empty, world⟩ :: t.log.map (·.after) = t.log.map (·.before) ++ [t.state] ∧
    t.state.slot.toList = (sinceReset t.log).filterMap Section.built? ∧
    (∀ sec ∈ t.log,
      (∀ h, sec.before.slot = some h → sec.after.slot = some h ∨ sec.clears = true) ∧
      (sec.after.world = sec.before.world ∨
        sec.before.slot = none ∧ ∃ projectId settings connect,
          sec.stage = .install projectId settings connect ∧
            sec.after.world = (connect settings sec.before.world).2)) ∧
    (∀ i settings connect, t.call? i = some (.fill settings connect) →
      (ProjectId.IsRefused settings.projectId →
        ∃ message, let refusal := Except.error (.service (.config message))
          (∀ sec ∈ t.log, sec.visit = i → sec.after = sec.before) ∧
          (t.outcome? i = none ∨ t.outcome? i = some refusal) ∧
          (t.after (.advance i)).outcome? i = some refusal) ∧
      (¬ ProjectId.IsRefused settings.projectId →
        let locked := Stage.install (Text.strip settings.projectId) settings connect
        (∀ f, t.outcome? i = some (.error f) →
          ∃ sec ∈ t.log, sec.visit = i ∧ sec.stage = locked) ∧
        ∀ sec ∈ t.log, sec.visit = i → sec.stage = locked →
          (∀ h, sec.before.slot = some h → sec.after = sec.before ∧
            t.outcome? i = some (.error (.service .alreadyInitialized))) ∧
          (sec.before.slot = none → ∀ f world',
            connect settings sec.before.world = (.error f, world') →
              sec.after = ⟨none, world'⟩ ∧ t.outcome? i = some (.error f)) ∧
          (sec.before.slot = none → ∀ client world',
            connect settings sec.before.world = (.ok client, world') →
              sec.after =
                ⟨some ⟨Text.strip settings.projectId, client, settings.timeout⟩, world'⟩ ∧
              ∀ f, t.outcome? i ≠ some (.error f)))) ∧
    (∀ i f, t.outcome? i = some (.error f) →
      ∀ sec ∈ t.log, sec.visit = i → sec.after.slot = sec.before.slot) ∧
    (∀ i, t.call? i = some .get → ∀ f, t.outcome? i = some (.error f) ↔
      f = .service .providerNotInitialized ∧
        ∃ sec ∈ t.log, sec.visit = i ∧ sec.stage = .look ∧ sec.before.slot = none) ∧
    (∀ c : Call ω κ, ∃ n,
      let t' := (List.replicate n (Move.advance t.visits.length)).foldl after (t.arrive c)
      t'.outcome? t.visits.length = some (c.alone t.state).1 ∧
        t'.state.slot = (c.alone t.state).2) := by
  intro t
  have h : t.Recorded world := recorded_run world moves
  refine ⟨h.chain, h.slot_eq, fun sec hsec => ⟨fun handle hslot => ?_, sec.world_cases⟩,
    fun i settings connect hcall => ⟨fun hrefused => ?_, fun haccepted => ?_⟩,
    fun i f houtcome sec hsec => h.slot_of_error houtcome hsec,
    fun i hcall f => h.get_fails_iff hcall, fun c => undisturbed t c⟩
  · -- a section that changes a filled slot empties it
    rcases sec.slot_cases with ⟨hsame, -⟩ | ⟨_, hempty, -⟩ | ⟨-, -, hclears, -⟩
    · exact .inl (hsame.trans hslot)
    · exact absurd (hslot.symm.trans hempty) (by simp)
    · exact .inr hclears
  · obtain ⟨message, hcheck⟩ := ProjectId.check_of_isRefused hrefused
    exact ⟨message, h.of_refused hcall hcheck⟩
  · have hcheck := ProjectId.check_of_not_isRefused haccepted
    refine ⟨fun f houtcome => h.exists_locked_of_error hcall hcheck houtcome, ?_⟩
    rintro sec hsec rfl hstage
    exact h.of_locked hsec hstage

-- Two initializations race, and a reset comes before the first one answers.
example :
    let settings : ProviderSettings := ⟨"", " acme ", ProviderSettings.usualTimeout⟩
    let connect : ProviderSettings → StoreStep Nat Unit := fun _ calls => (.ok (), calls + 1)
    let t := run 0 [.arrive (.fill settings connect), .arrive (.fill settings connect),
      .arrive .reset, .advance 1, .advance 0, .advance 0, .advance 1, .advance 2, .advance 0]
    t.outcome? 0 = some (.ok (.found none)) ∧
      t.outcome? 1 = some (.error (.service .alreadyInitialized)) ∧ t.state.world = 1 :=
  ⟨rfl, rfl, rfl⟩

end Process

end Lifecycle

end IdentityService
