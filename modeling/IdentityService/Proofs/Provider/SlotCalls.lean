import IdentityService.Directory.Store
import IdentityService.Proofs.Schema.Checked
import IdentityService.Provider.Handle

/-!
# Calls on the Provider Slot

Initializations, look-ups and resets may come from anywhere and at the same time.  What a call does
falls into sections that nothing interrupts: an initialization checks its identifier, then holds
the lock while it looks at the slot, makes the client and fills the slot, and reads the slot again
when it has let go of the lock.  A read that comes while the lock is held finds the slot as it was
before the section, which fills the slot last of all.

The client is made by a function that may fail and that acts on a world of its own, about which
nothing is assumed: where the world is as it was found, the function has not been called.

## Main definitions

- `Lifecycle.Call`: the calls.
- `Lifecycle.Stage.step`: one section of a call.
- `Lifecycle.Section`: a section that has been carried out.

## Main statements

- `Lifecycle.Stage.step_eq_some_iff`: all that a section can do.
- `Lifecycle.Section.slot_cases`, `Lifecycle.Section.world_cases`: what it does to the slot and to
  the world.
-/

namespace IdentityService

/-! ## §1 Project identifiers -/

namespace ProjectId

/-- An identifier is refused when it is blank, or a placeholder whatever its case and the blanks
around it. -/
def IsRefused (projectId : String) : Prop :=
  Text.strip projectId = "" ∨ Text.lower (Text.strip projectId) ∈ placeholders

variable {projectId : String}

theorem check_of_isRefused (h : IsRefused projectId) :
    ∃ message, check projectId = .error (.service (.config message)) := by
  unfold check
  by_cases hempty : Text.strip projectId = ""
  · exact ⟨_, if_pos (by simpa using hempty)⟩
  · have hplaceholder : placeholders.contains (Text.lower (Text.strip projectId)) = true :=
      List.contains_iff_mem.mpr (h.resolve_left hempty)
    exact ⟨_, (if_neg (by simpa using hempty)).trans (if_pos hplaceholder)⟩

theorem check_of_not_isRefused (h : ¬ IsRefused projectId) :
    check projectId = .ok (Text.strip projectId) := by
  obtain ⟨hempty, hplaceholder⟩ := not_or.mp h
  unfold check
  rw [if_neg (by simpa using hempty), if_neg (by simpa using hplaceholder)]

end ProjectId

/-! ## §2 Filling a slot -/

namespace ProviderSlot

variable {κ : Type} {slot : ProviderSlot κ} {settings : ProviderSettings}
  {connect : ProviderSettings → Outcome κ} {projectId : String} {f : Fault}

theorem fill_of_refused (hcheck : ProjectId.check settings.projectId = .error f) :
    slot.fill settings connect = (.error f, slot) := by
  rw [fill, prepare, hcheck, error_bind]

theorem fill_of_filled {h : ProviderHandle κ}
    (hcheck : ProjectId.check settings.projectId = .ok projectId) (hslot : slot = some h) :
    slot.fill settings connect = (.error (.service .alreadyInitialized), slot) := by
  rw [fill, prepare, hcheck, ok_bind, if_pos (by rw [hslot]; rfl)]

theorem fill_of_ok {client : κ} (hcheck : ProjectId.check settings.projectId = .ok projectId)
    (hslot : slot = none) (hconnect : connect settings = .ok client) :
    slot.fill settings connect =
      (.ok ⟨projectId, client, settings.timeout⟩, some ⟨projectId, client, settings.timeout⟩) := by
  rw [fill, prepare, hcheck, ok_bind, if_neg (by simp [hslot, isInitialized]), hconnect, ok_bind]

theorem fill_of_error (hcheck : ProjectId.check settings.projectId = .ok projectId)
    (hslot : slot = none) (hconnect : connect settings = .error f) :
    slot.fill settings connect = (.error f, none) := by
  rw [fill, prepare, hcheck, ok_bind, if_neg (by simp [hslot, isInitialized]), hconnect,
    error_bind, hslot]

end ProviderSlot

namespace Lifecycle

variable {ω κ : Type}

/-! ## §3 Calls and their sections -/

/-- A call. -/
inductive Call (ω κ : Type)
  | fill (settings : ProviderSettings) (connect : ProviderSettings → StoreStep ω κ)
  | get
  | isInitialized
  | reset

/-- What a call answers: the slot as it was read last, a flag, or nothing. -/
inductive Answer (κ : Type)
  | found (slot : ProviderSlot κ)
  | flag (b : Bool)
  | nothing

/-- The slot, and the world in which clients are made. -/
structure State (ω κ : Type) where
  slot : ProviderSlot κ
  world : ω

/-- What comes next in a call. -/
inductive Stage (ω κ : Type)
  /-- The identifier is checked. -/
  | check (settings : ProviderSettings) (connect : ProviderSettings → StoreStep ω κ)
  /-- Under the lock, the slot is filled. -/
  | install (projectId : String) (settings : ProviderSettings)
      (connect : ProviderSettings → StoreStep ω κ)
  /-- The slot is read for the answer. -/
  | hand
  /-- The slot must be filled. -/
  | look
  /-- The answer is whether the slot is filled. -/
  | test
  /-- Under the lock, the slot is emptied. -/
  | clear
  /-- Nothing is left to do. -/
  | done (r : Outcome (Answer κ))

/-- What a call starts with. -/
def Call.stage : Call ω κ → Stage ω κ
  | fill settings connect => .check settings connect
  | get => .look
  | isInitialized => .test
  | reset => .clear

/-- Fills an empty slot with a client that is made for it. -/
def install (projectId : String) (settings : ProviderSettings)
    (connect : ProviderSettings → StoreStep ω κ) (m : State ω κ) : Stage ω κ × State ω κ :=
  if m.slot.isInitialized then (.done (.error (.service .alreadyInitialized)), m)
  else
    match connect settings m.world with
    | (.ok client, world) => (.hand, ⟨some ⟨projectId, client, settings.timeout⟩, world⟩)
    | (.error f, world) => (.done (.error f), ⟨m.slot, world⟩)

/-- One section of a call. -/
def Stage.step : Stage ω κ → State ω κ → Option (Stage ω κ × State ω κ)
  | check settings connect, m =>
      match ProjectId.check settings.projectId with
      | .ok projectId => some (.install projectId settings connect, m)
      | .error f => some (.done (.error f), m)
  | install projectId settings connect, m => some (Lifecycle.install projectId settings connect m)
  | hand, m => some (.done (.ok (.found m.slot)), m)
  | look, m =>
      match m.slot.handle with
      | .ok _ => some (.hand, m)
      | .error f => some (.done (.error f), m)
  | test, m => some (.done (.ok (.flag m.slot.isInitialized)), m)
  | clear, m => some (.done (.ok .nothing), ⟨m.slot.reset, m.world⟩)
  | done _, _ => none

section
variable {projectId : String} {settings : ProviderSettings}
  {connect : ProviderSettings → StoreStep ω κ} {m : State ω κ}

theorem install_of_filled {h : ProviderHandle κ} (hslot : m.slot = some h) :
    install projectId settings connect m = (.done (.error (.service .alreadyInitialized)), m) := by
  rw [install, if_pos (by rw [hslot]; rfl)]

theorem install_of_ok {client : κ} {world : ω} (hslot : m.slot = none)
    (hconnect : connect settings m.world = (.ok client, world)) :
    install projectId settings connect m =
      (.hand, ⟨some ⟨projectId, client, settings.timeout⟩, world⟩) := by
  have hempty : ¬ m.slot.isInitialized = true := by simp [hslot, ProviderSlot.isInitialized]
  rw [install, if_neg hempty, hconnect]

theorem install_of_error {f : Fault} {world : ω} (hslot : m.slot = none)
    (hconnect : connect settings m.world = (.error f, world)) :
    install projectId settings connect m = (.done (.error f), ⟨none, world⟩) := by
  have hempty : ¬ m.slot.isInitialized = true := by simp [hslot, ProviderSlot.isInitialized]
  rw [install, if_neg hempty, hconnect, hslot]

end

/-- What each section can do: the stage and the state before it, and those after it. -/
inductive Stage.Steps : Stage ω κ → State ω κ → Stage ω κ → State ω κ → Prop
  | refused {settings : ProviderSettings} {connect : ProviderSettings → StoreStep ω κ}
      {m : State ω κ} {f : Fault} (hcheck : ProjectId.check settings.projectId = .error f) :
      Steps (.check settings connect) m (.done (.error f)) m
  | accepted {settings : ProviderSettings} {connect : ProviderSettings → StoreStep ω κ}
      {m : State ω κ} {projectId : String}
      (hcheck : ProjectId.check settings.projectId = .ok projectId) :
      Steps (.check settings connect) m (.install projectId settings connect) m
  | occupied {projectId : String} {settings : ProviderSettings}
      {connect : ProviderSettings → StoreStep ω κ} {m : State ω κ} {h : ProviderHandle κ}
      (hslot : m.slot = some h) :
      Steps (.install projectId settings connect) m
        (.done (.error (.service .alreadyInitialized))) m
  | built {projectId : String} {settings : ProviderSettings}
      {connect : ProviderSettings → StoreStep ω κ} {m : State ω κ} {client : κ} {world : ω}
      (hslot : m.slot = none) (hconnect : connect settings m.world = (.ok client, world)) :
      Steps (.install projectId settings connect) m .hand
        ⟨some ⟨projectId, client, settings.timeout⟩, world⟩
  | failed {projectId : String} {settings : ProviderSettings}
      {connect : ProviderSettings → StoreStep ω κ} {m : State ω κ} {f : Fault} {world : ω}
      (hslot : m.slot = none) (hconnect : connect settings m.world = (.error f, world)) :
      Steps (.install projectId settings connect) m (.done (.error f)) ⟨none, world⟩
  | handed {m : State ω κ} : Steps .hand m (.done (.ok (.found m.slot))) m
  | seen {m : State ω κ} {h : ProviderHandle κ} (hslot : m.slot = some h) : Steps .look m .hand m
  | missed {m : State ω κ} (hslot : m.slot = none) :
      Steps .look m (.done (.error (.service .providerNotInitialized))) m
  | tested {m : State ω κ} : Steps .test m (.done (.ok (.flag m.slot.isInitialized))) m
  | cleared {m : State ω κ} : Steps .clear m (.done (.ok .nothing)) ⟨none, m.world⟩

/-- **One section.** A stage takes the steps of its kind and no others. -/
theorem Stage.step_eq_some_iff {p q : Stage ω κ} {m m' : State ω κ} :
    p.step m = some (q, m') ↔ p.Steps m q m' := by
  constructor
  · intro hstep
    cases p with
    | check settings connect =>
      cases hcheck : ProjectId.check settings.projectId with
      | ok projectId =>
        simp only [step, hcheck, Option.some.injEq, Prod.mk.injEq] at hstep
        obtain ⟨rfl, rfl⟩ := hstep
        exact .accepted hcheck
      | error f =>
        simp only [step, hcheck, Option.some.injEq, Prod.mk.injEq] at hstep
        obtain ⟨rfl, rfl⟩ := hstep
        exact .refused hcheck
    | install projectId settings connect =>
      rw [step, Option.some.injEq] at hstep
      cases hslot : m.slot with
      | some h =>
        rw [install_of_filled hslot] at hstep
        obtain ⟨rfl, rfl⟩ := Prod.mk.inj hstep
        exact .occupied hslot
      | none =>
        rcases hconnect : connect settings m.world with ⟨f | client, world⟩
        · rw [install_of_error hslot hconnect] at hstep
          obtain ⟨rfl, rfl⟩ := Prod.mk.inj hstep
          exact .failed hslot hconnect
        · rw [install_of_ok hslot hconnect] at hstep
          obtain ⟨rfl, rfl⟩ := Prod.mk.inj hstep
          exact .built hslot hconnect
    | hand =>
      obtain ⟨rfl, rfl⟩ := Prod.mk.inj (Option.some.inj hstep)
      exact .handed
    | look =>
      cases hslot : m.slot with
      | some h =>
        simp only [step, hslot, ProviderSlot.handle, Option.some.injEq, Prod.mk.injEq] at hstep
        obtain ⟨rfl, rfl⟩ := hstep
        exact .seen hslot
      | none =>
        simp only [step, hslot, ProviderSlot.handle, Option.some.injEq, Prod.mk.injEq] at hstep
        obtain ⟨rfl, rfl⟩ := hstep
        exact .missed hslot
    | test =>
      obtain ⟨rfl, rfl⟩ := Prod.mk.inj (Option.some.inj hstep)
      exact .tested
    | clear =>
      obtain ⟨rfl, rfl⟩ := Prod.mk.inj (Option.some.inj hstep)
      exact .cleared
    | done r => exact absurd hstep (by simp [step])
  · intro hsteps
    cases hsteps with
    | refused hcheck => simp only [step, hcheck]
    | accepted hcheck => simp only [step, hcheck]
    | occupied hslot => rw [step, install_of_filled hslot]
    | built hslot hconnect => rw [step, install_of_ok hslot hconnect]
    | failed hslot hconnect => rw [step, install_of_error hslot hconnect]
    | handed => rfl
    | seen hslot => simp only [step, hslot, ProviderSlot.handle]
    | missed hslot => simp only [step, hslot, ProviderSlot.handle]
    | tested => rfl
    | cleared => rfl

/-- From one state a stage takes one step. -/
theorem Stage.Steps.unique {p q q' : Stage ω κ} {m m' m'' : State ω κ} (h : p.Steps m q m')
    (h' : p.Steps m q' m'') : q = q' ∧ m' = m'' := by
  have hsame := (step_eq_some_iff.mpr h).symm.trans (step_eq_some_iff.mpr h')
  exact Prod.mk.inj (Option.some.inj hsame)

/-! ## §4 Where a call can be -/

namespace Stage

/-- Some sections lead from one stage to another.  Between two of them other calls may have changed
the slot and the world. -/
inductive Leads : Stage ω κ → Stage ω κ → Prop
  | stay (p : Stage ω κ) : Leads p p
  | step {p q r : Stage ω κ} {m m' : State ω κ} (h : Leads p q) (hstep : q.Steps m r m') :
      Leads p r

variable {p q : Stage ω κ} {settings : ProviderSettings}
  {connect : ProviderSettings → StoreStep ω κ}

theorem leads_done {r : Outcome (Answer κ)} (h : Leads (.done r : Stage ω κ) q) : q = .done r := by
  induction h with
  | stay => rfl
  | step _ hstep ih =>
    subst ih
    cases hstep

theorem leads_hand (h : Leads (.hand : Stage ω κ) q) :
    q = .hand ∨ ∃ slot, q = .done (.ok (.found slot)) := by
  induction h with
  | stay => exact .inl rfl
  | step _ hstep ih =>
    rcases ih with rfl | ⟨slot, rfl⟩
    · cases hstep
      exact .inr ⟨_, rfl⟩
    · cases hstep

/-- A refused identifier ends the call at once. -/
theorem leads_check_of_refused {f : Fault} (hcheck : ProjectId.check settings.projectId = .error f)
    (h : Leads (check settings connect) q) : q = check settings connect ∨ q = .done (.error f) := by
  induction h with
  | stay => exact .inl rfl
  | step _ hstep ih =>
    rcases ih with rfl | rfl
    · cases hstep with
      | refused hcheck' =>
        obtain rfl := Except.error.inj (hcheck.symm.trans hcheck')
        exact .inr rfl
      | accepted hcheck' => exact absurd (hcheck.symm.trans hcheck') (by simp)
    · cases hstep

/-- With an acceptable identifier a call goes on to fill the slot. -/
theorem leads_check_of_accepted {projectId : String}
    (hcheck : ProjectId.check settings.projectId = .ok projectId)
    (h : Leads (check settings connect) q) :
    q = check settings connect ∨ q = install projectId settings connect ∨ q = .hand ∨
      ∃ r, q = .done r := by
  induction h with
  | stay => exact .inl rfl
  | step _ hstep ih =>
    rcases ih with rfl | rfl | rfl | ⟨r, rfl⟩
    · cases hstep with
      | refused hcheck' => exact absurd (hcheck.symm.trans hcheck') (by simp)
      | accepted hcheck' =>
        obtain rfl := Except.ok.inj (hcheck.symm.trans hcheck')
        exact .inr (.inl rfl)
    · cases hstep with
      | occupied hslot => exact .inr (.inr (.inr ⟨_, rfl⟩))
      | built hslot hconnect => exact .inr (.inr (.inl rfl))
      | failed hslot hconnect => exact .inr (.inr (.inr ⟨_, rfl⟩))
    · cases hstep
      exact .inr (.inr (.inr ⟨_, rfl⟩))
    · cases hstep

theorem leads_look (h : Leads (.look : Stage ω κ) q) :
    q = .look ∨ q = .hand ∨ ∃ r, q = .done r := by
  induction h with
  | stay => exact .inl rfl
  | step _ hstep ih =>
    rcases ih with rfl | rfl | ⟨r, rfl⟩
    · cases hstep with
      | seen hslot => exact .inr (.inl rfl)
      | missed hslot => exact .inr (.inr ⟨_, rfl⟩)
    · cases hstep
      exact .inr (.inr ⟨_, rfl⟩)
    · cases hstep

theorem not_steps_of_done {m m' : State ω κ} {r : Outcome (Answer κ)} :
    ¬ (done r : Stage ω κ).Steps m q m' := by
  intro h
  cases h

theorem not_error_of_hand {m m' : State ω κ} {f : Fault} :
    ¬ (hand : Stage ω κ).Steps m (.done (.error f)) m' := by
  intro h
  cases h

theorem empty_of_look {m m' : State ω κ} {f : Fault}
    (h : (look : Stage ω κ).Steps m (.done (.error f)) m') :
    m.slot = none ∧ f = .service .providerNotInitialized := by
  cases h with
  | missed hslot => exact ⟨hslot, rfl⟩

end Stage

/-! ## §5 What one section does -/

/-- One section that has been carried out. -/
structure Section (ω κ : Type) where
  visit : Nat
  stage : Stage ω κ
  before : State ω κ
  left : Stage ω κ
  after : State ω κ
  isStep : stage.Steps before left after

/-- The handle that a section has put into the slot. -/
def Section.built? (sec : Section ω κ) : Option (ProviderHandle κ) :=
  match sec.stage, sec.left with
  | .install _ _ _, .hand => sec.after.slot
  | _, _ => none

/-- Whether a section has emptied the slot. -/
def Section.clears (sec : Section ω κ) : Bool :=
  match sec.stage with
  | .clear => true
  | _ => false

namespace Section

/-- **What a section does to the slot.** It leaves the slot as it is, or it fills an empty slot and
its call goes on to answer, or it empties the slot. -/
theorem slot_cases (sec : Section ω κ) :
    (sec.after.slot = sec.before.slot ∧ sec.built? = none ∧ sec.clears = false) ∨
    (∃ h, sec.before.slot = none ∧ sec.after.slot = some h ∧ sec.built? = some h ∧
      sec.clears = false ∧ sec.left = .hand) ∨
    (sec.after.slot = none ∧ sec.built? = none ∧ sec.clears = true ∧
      sec.left = .done (.ok .nothing)) := by
  obtain ⟨i, stage, before, left, after, hsteps⟩ := sec
  cases hsteps with
  | refused hcheck => exact .inl ⟨rfl, rfl, rfl⟩
  | accepted hcheck => exact .inl ⟨rfl, rfl, rfl⟩
  | occupied hslot => exact .inl ⟨rfl, rfl, rfl⟩
  | built hslot hconnect => exact .inr (.inl ⟨_, hslot, rfl, rfl, rfl, rfl⟩)
  | failed hslot hconnect => exact .inl ⟨hslot.symm, rfl, rfl⟩
  | handed => exact .inl ⟨rfl, rfl, rfl⟩
  | seen hslot => exact .inl ⟨rfl, rfl, rfl⟩
  | missed hslot => exact .inl ⟨rfl, rfl, rfl⟩
  | tested => exact .inl ⟨rfl, rfl, rfl⟩
  | cleared => exact .inr (.inr ⟨rfl, rfl, rfl, rfl⟩)

/-- **What a section does to the world.** Nothing, unless it makes a client for an empty slot. -/
theorem world_cases (sec : Section ω κ) :
    sec.after.world = sec.before.world ∨
      sec.before.slot = none ∧ ∃ projectId settings connect,
        sec.stage = .install projectId settings connect ∧
          sec.after.world = (connect settings sec.before.world).2 := by
  obtain ⟨i, stage, before, left, after, hsteps⟩ := sec
  cases hsteps with
  | built hslot hconnect =>
    exact .inr ⟨hslot, _, _, _, rfl, (congrArg Prod.snd hconnect).symm⟩
  | failed hslot hconnect =>
    exact .inr ⟨hslot, _, _, _, rfl, (congrArg Prod.snd hconnect).symm⟩
  | _ => exact .inl rfl

end Section

end Lifecycle

end IdentityService
