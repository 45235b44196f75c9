import IdentityService.Schema.Field

/-!
# When Checks Succeed

A sequence of outcomes succeeds when each of its steps does, and a combination of
checked values when each of its parts does.  For every kind of field that stands in a
token, the values that pass are named.

## Main statements

- `bind_eq_ok_iff`, `OnlyFaults.bind`: success and faults of one outcome after another.
- `Checked.seq_eq_ok_iff`: success of a combination.
- `Schema.required_eq_ok_iff`, `Schema.withDefault_eq_ok_iff`: success of a field.
- `Schema.text_eq_ok_iff`, `Schema.plainText_eq_ok_iff`, `Schema.list_text_eq_ok_iff`: the values
  that are strings, texts and lists of strings.
- `Checked.IsReported.seq`: a combination comes with a report when each of its parts does.
-/

namespace IdentityService

/-! ## §1 Outcomes in sequence -/

theorem ok_bind {ε α β : Type} (a : α) (f : α → Except ε β) :
    ((.ok a : Except ε α) >>= f) = f a := rfl

theorem error_bind {ε α β : Type} (e : ε) (f : α → Except ε β) :
    ((.error e : Except ε α) >>= f) = .error e := rfl

theorem bind_eq_ok_iff {ε α β : Type} {r : Except ε α} {f : α → Except ε β} {b : β} :
    (r >>= f) = .ok b ↔ ∃ a, r = .ok a ∧ f a = .ok b := by
  cases r with
  | error e => simp [bind, Except.bind]
  | ok a => simp [bind, Except.bind]

theorem bind_eq_error_iff {ε α β : Type} {r : Except ε α} {f : α → Except ε β} {e : ε} :
    (r >>= f) = .error e ↔ r = .error e ∨ ∃ a, r = .ok a ∧ f a = .error e := by
  cases r with
  | error e' => simp [bind, Except.bind]
  | ok a => simp [bind, Except.bind]

theorem fmap_eq_ok_iff {ε α β : Type} {r : Except ε α} {f : α → β} {b : β} :
    (f <$> r) = .ok b ↔ ∃ a, r = .ok a ∧ b = f a := by
  cases r with
  | error e => simp [Functor.map, Except.map]
  | ok a => simp [Functor.map, Except.map, eq_comm]

/-- Whatever fault an outcome ends with has a property. -/
def OnlyFaults {ε α : Type} (P : ε → Prop) (r : Except ε α) : Prop := ∀ e, r = .error e → P e

theorem onlyFaults_ok {ε α : Type} {P : ε → Prop} (a : α) :
    OnlyFaults P (.ok a : Except ε α) := by
  intro e he
  cases he

theorem onlyFaults_error {ε α : Type} {P : ε → Prop} {e : ε} (h : P e) :
    OnlyFaults P (.error e : Except ε α) := by
  intro e' he
  obtain rfl := Except.error.inj he
  exact h

/-- A sequence ends with a fault of its first step or of the next one. -/
theorem OnlyFaults.bind {ε α β : Type} {P : ε → Prop} {r : Except ε α} {next : α → Except ε β}
    (h : OnlyFaults P r) (hnext : ∀ a, OnlyFaults P (next a)) : OnlyFaults P (r >>= next) := by
  cases r with
  | ok a => exact hnext a
  | error e => exact onlyFaults_error (h e rfl)

theorem OnlyFaults.map {ε α β : Type} {P : ε → Prop} {r : Except ε α} (h : OnlyFaults P r)
    (f : α → β) : OnlyFaults P (f <$> r) :=
  h.bind fun a => onlyFaults_ok (f a)

/-! ## §2 Checked values -/

namespace Checked

variable {α β : Type}

theorem apply_eq_ok_iff {cf : Checked (α → β)} {ca : Checked α} {b : β} :
    apply cf ca = ok b ↔ ∃ f a, cf = ok f ∧ ca = ok a ∧ f a = b := by
  cases cf <;> cases ca <;> simp [apply]

/-- **Combining.** A combination succeeds when both of its parts do. -/
theorem seq_eq_ok_iff {cf : Checked (α → β)} {ca : Checked α} {b : β} :
    (cf <*> ca) = ok b ↔ ∃ f a, cf = ok f ∧ ca = ok a ∧ f a = b :=
  apply_eq_ok_iff

theorem map_eq_ok_iff {f : α → β} {ca : Checked α} {b : β} :
    (f <$> ca) = ok b ↔ ∃ a, ca = ok a ∧ f a = b := by
  have happly : apply (ok f) ca = ok b ↔ _ := apply_eq_ok_iff
  refine happly.trans ?_
  simp

theorem within_eq_ok_iff {place : Place} {ca : Checked α} {a : α} :
    ca.within place = ok a ↔ ca = ok a := by
  cases ca <;> simp [within]

/-- A checked value is a value or comes with a report. -/
def IsReported (c : Checked α) : Prop := c ≠ .overflow

theorem isReported_ok (a : α) : IsReported (ok a) := by
  intro h
  cases h

theorem isReported_faulty (issues : List Issue) : IsReported (faulty issues : Checked α) := by
  intro h
  cases h

theorem IsReported.apply {cf : Checked (α → β)} {ca : Checked α} (hf : cf.IsReported)
    (ha : ca.IsReported) : (Checked.apply cf ca).IsReported := by
  cases cf with
  | overflow => exact absurd rfl hf
  | ok f =>
    cases ca with
    | overflow => exact absurd rfl ha
    | ok a => exact isReported_ok _
    | faulty issues => exact isReported_faulty _
  | faulty issues =>
    cases ca with
    | overflow => exact absurd rfl ha
    | ok a => exact isReported_faulty _
    | faulty more => exact isReported_faulty _

theorem IsReported.seq {cf : Checked (α → β)} {ca : Checked α} (hf : cf.IsReported)
    (ha : ca.IsReported) : (cf <*> ca).IsReported :=
  hf.apply ha

theorem IsReported.map {ca : Checked α} (ha : ca.IsReported) (f : α → β) :
    (f <$> ca).IsReported :=
  (isReported_ok f).apply ha

theorem IsReported.within {ca : Checked α} (ha : ca.IsReported) (place : Place) :
    (ca.within place).IsReported := by
  cases ca with
  | overflow => exact absurd rfl ha
  | ok a => exact isReported_ok _
  | faulty issues => exact isReported_faulty _

end Checked

namespace Schema

open Checked

variable {α : Type}

/-! ## §3 Fields -/

theorem required_eq_ok_iff {fs : Fields} {name : String} {check : Check α} {a : α} :
    required fs name check = ok a ↔ ∃ v, fs.get? name = some v ∧ check v = ok a := by
  rw [required]
  cases fs.get? name with
  | none => simp
  | some v => simp [within_eq_ok_iff]

theorem withDefault_eq_ok_iff {fs : Fields} {name : String} {default : α} {check : Check α}
    {a : α} :
    withDefault fs name default check = ok a ↔
      (∃ v, fs.get? name = some v ∧ check v = ok a) ∨ fs.get? name = none ∧ a = default := by
  rw [withDefault]
  cases fs.get? name with
  | none => simp [eq_comm]
  | some v => simp [within_eq_ok_iff]

/-! ## §4 Texts -/

theorem text_eq_ok_iff {v : Json} {s : RawText} : text v = ok s ↔ v = .raw s := by
  cases v <;> cases s <;> simp [text, fail, Json.raw]

theorem plainText_eq_ok_iff {v : Json} {s : String} : plainText v = ok s ↔ v = .text s := by
  cases v <;> simp [plainText, fail]

theorem nonEmptyText_eq_ok_iff {v : Json} {s : String} :
    nonEmptyText v = ok s ↔ v = .text s ∧ s ≠ "" := by
  cases v with
  | text t =>
    by_cases ht : t = ""
    · subst ht
      simp [nonEmptyText, fail]
    · simp only [nonEmptyText, String.isEmpty_iff, if_neg ht, ok.injEq, Json.text.injEq]
      exact ⟨fun h => ⟨h, h ▸ ht⟩, fun h => h.1⟩
  | _ => simp [nonEmptyText, fail]

/-- A string that may be left out is a string or null. -/
theorem optional_text_eq_ok_iff {v : Json} {s : Option RawText} :
    optional text v = ok s ↔ v = .ofRaw? s := by
  cases v with
  | null => rcases s with _ | _ | _ <;> simp [optional, Json.ofRaw?, Json.raw]
  | _ => rcases s with _ | _ | _ <;>
    simp [optional, map_eq_ok_iff, text_eq_ok_iff, Json.ofRaw?, Json.raw]

/-- A text that may be left out is a text or null. -/
theorem optional_plainText_eq_ok_iff {v : Json} {s : Option String} :
    optional plainText v = ok s ↔ v = .ofText? s := by
  cases v with
  | null => cases s <;> simp [optional, Json.ofText?]
  | _ => cases s <;> simp [optional, map_eq_ok_iff, plainText_eq_ok_iff, Json.ofText?]

private theorem itemsFrom_text_eq_ok_iff {i : Nat} {items : List Json} {ss : List RawText} :
    itemsFrom text i items = ok ss ↔ items = ss.map .raw := by
  induction items generalizing i ss with
  | nil => cases ss <;> simp [itemsFrom]
  | cons v rest ih =>
    rw [itemsFrom, seq_eq_ok_iff]
    simp only [map_eq_ok_iff, within_eq_ok_iff, text_eq_ok_iff, ih]
    constructor
    · rintro ⟨_, more, ⟨s, rfl, rfl⟩, rfl, rfl⟩
      rfl
    · intro h
      cases ss with
      | nil => exact absurd h (by simp)
      | cons s more =>
        rw [List.map_cons, List.cons.injEq] at h
        exact ⟨List.cons s, more, ⟨s, h.1, rfl⟩, h.2, rfl⟩

/-- **Lists of strings.** They are read without change, in their order. -/
theorem list_text_eq_ok_iff {v : Json} {ss : List RawText} :
    list text v = ok ss ↔ v = .ofRaws ss := by
  cases v <;> simp [list, fail, Json.ofRaws, itemsFrom_text_eq_ok_iff]

theorem integer_int (n : Int) : integer (.int n) = ok n := rfl

/-! ## §5 Reports -/

theorem isReported_text (v : Json) : (text v).IsReported := by
  cases v
  case text s => exact isReported_ok _
  case brokenText b => exact isReported_ok _
  all_goals exact isReported_faulty _

theorem isReported_plainText (v : Json) : (plainText v).IsReported := by
  cases v
  case text s => exact isReported_ok s
  all_goals exact isReported_faulty _

theorem isReported_optional {check : Check α} (hcheck : ∀ v, (check v).IsReported) (v : Json) :
    (optional check v).IsReported := by
  cases v
  case null => exact isReported_ok none
  all_goals exact (hcheck _).map _

theorem isReported_ofMomentRead (r : Except Moment.ReadFault Moment) :
    (ofMomentRead r).IsReported := by
  rcases r with (_ | _) | m
  · exact isReported_faulty _
  · exact isReported_faulty _
  · exact isReported_ok m

theorem isReported_moment (v : Json) : (moment v).IsReported := by
  unfold moment
  split
  · exact isReported_ofMomentRead _
  · exact isReported_faulty _
  · split
    · exact isReported_ofMomentRead _
    · split
      · exact isReported_ofMomentRead _
      · exact isReported_faulty _
  · exact isReported_ofMomentRead _
  · exact isReported_faulty _

theorem isReported_required {check : Check α} (hcheck : ∀ v, (check v).IsReported) (fs : Fields)
    (name : String) : (required fs name check).IsReported := by
  unfold required
  split
  · exact (hcheck _).within _
  · exact isReported_faulty _

theorem isReported_withDefault {check : Check α} (hcheck : ∀ v, (check v).IsReported) (fs : Fields)
    (name : String) (default : α) : (withDefault fs name default check).IsReported := by
  unfold withDefault
  split
  · exact (hcheck _).within _
  · exact isReported_ok _

end Schema

end IdentityService
