/-!
# Association Lists

Finite maps from keys to values; the keys are texts unless another type is named.  A key
is set in place when it is there and at the end when it is not, so that the keys keep the
order of their first appearance.

Main statements: what a look-up finds after a key has been set or erased, and that neither
makes a key appear twice.
-/

namespace IdentityService

/-- Keys with their values, in order. -/
abbrev Assoc (α : Type) (κ : Type := String) := List (κ × α)

namespace Assoc

variable {α κ : Type} [DecidableEq κ]

/-! ## §1 Operations -/

/-- The value of a key. -/
def get? (m : Assoc α κ) (key : κ) : Option α :=
  (m.find? (·.1 == key)).map (·.2)

/-- Sets a key, in place if it is there and at the end if not. -/
def set : Assoc α κ → κ → α → Assoc α κ
  | [], key, v => [(key, v)]
  | (k, w) :: rest, key, v => if k == key then (k, v) :: rest else (k, w) :: set rest key v

/-- Removes a key. -/
def erase (m : Assoc α κ) (key : κ) : Assoc α κ := m.filter (·.1 != key)

/-- Sets several keys from left to right. -/
def update (m more : Assoc α κ) : Assoc α κ := more.foldl (fun acc f => acc.set f.1 f.2) m

/-- Whether a key is present. -/
def has (m : Assoc α κ) (key : κ) : Bool := (m.get? key).isSome

/-! ## §2 Look-up laws -/

theorem get?_nil (key : κ) : get? ([] : Assoc α κ) key = none := rfl

theorem get?_cons (k : κ) (w : α) (rest : Assoc α κ) (key : κ) :
    Assoc.get? ((k, w) :: rest) key = if k = key then some w else Assoc.get? rest key := by
  by_cases h : k = key <;> simp [get?, h]

/-- **Setting a key.** The key has the new value and every other key keeps its own. -/
theorem get?_set (m : Assoc α κ) (key other : κ) (v : α) :
    (m.set key v).get? other = if key = other then some v else m.get? other := by
  induction m with
  | nil => simp [set, get?_cons, get?_nil]
  | cons f rest ih =>
    obtain ⟨k, w⟩ := f
    by_cases hk : k = key
    · subst hk
      by_cases ho : k = other <;> simp [set, get?_cons, ho]
    · by_cases ho : k = other
      · subst ho
        simp [set, get?_cons, hk, Ne.symm hk]
      · simp [set, get?_cons, hk, ho, ih]

/-- **Erasing a key.** The key has no value and every other key keeps its own. -/
theorem get?_erase (m : Assoc α κ) (key other : κ) :
    (m.erase key).get? other = if key = other then none else m.get? other := by
  induction m with
  | nil => simp [erase, get?_nil]
  | cons f rest ih =>
    obtain ⟨k, w⟩ := f
    have ih' : Assoc.get? (List.filter (fun x => x.1 != key) rest) other
        = if key = other then none else Assoc.get? rest other := ih
    by_cases hk : k = key
    · subst hk
      by_cases ho : k = other
      · subst ho
        simp [erase, ih']
      · simp [erase, get?_cons, ho, ih']
    · by_cases ho : k = other
      · subst ho
        simp [erase, get?_cons, hk, Ne.symm hk]
      · simp [erase, get?_cons, hk, ho, ih']

/-! ## §3 Keys -/

/-- The keys, in order. -/
def keys (m : Assoc α κ) : List κ := m.map (·.1)

theorem mem_keys_iff {m : Assoc α κ} {key : κ} : key ∈ m.keys ↔ ∃ v, m.get? key = some v := by
  induction m with
  | nil => simp [keys, get?_nil]
  | cons f rest ih =>
    obtain ⟨k, w⟩ := f
    rw [get?_cons, keys, List.map_cons, List.mem_cons]
    by_cases hk : k = key
    · simp [hk]
    · rw [if_neg hk, ← ih]
      simp [keys, Ne.symm hk]

/-- A key that is not there is set at the end. -/
theorem set_of_notMem {m : Assoc α κ} {key : κ} (v : α) (h : key ∉ m.keys) :
    m.set key v = m ++ [(key, v)] := by
  induction m with
  | nil => rfl
  | cons f rest ih =>
    obtain ⟨k, w⟩ := f
    simp only [keys, List.map_cons, List.mem_cons, not_or] at h
    have hk : (k == key) = false := beq_eq_false_iff_ne.mpr (Ne.symm h.1)
    rw [set, hk, ih h.2]
    rfl

/-- A key that is there keeps its place. -/
theorem keys_set_of_mem {m : Assoc α κ} {key : κ} (v : α) (h : key ∈ m.keys) :
    (m.set key v).keys = m.keys := by
  induction m with
  | nil => exact absurd h (by simp [keys])
  | cons f rest ih =>
    obtain ⟨k, w⟩ := f
    by_cases hk : k = key
    · simp [set, keys, hk]
    · have hrest : key ∈ keys rest := by
        simpa [keys, Ne.symm hk] using h
      have hset : (set rest key v).map (·.1) = rest.map (·.1) := ih hrest
      simp [set, keys, hk, hset]

/-- Setting a key makes no key appear twice. -/
theorem nodup_set {m : Assoc α κ} (key : κ) (v : α) (h : m.keys.Nodup) :
    (m.set key v).keys.Nodup := by
  by_cases hmem : key ∈ m.keys
  · rw [keys_set_of_mem v hmem]
    exact h
  · rw [set_of_notMem v hmem, keys, List.map_append, List.nodup_append]
    refine ⟨h, by simp, ?_⟩
    intro a ha b hb hab
    rw [List.map_cons, List.map_nil, List.mem_singleton] at hb
    rw [hab, hb] at ha
    exact hmem ha

/-- Erasing a key makes no key appear twice. -/
theorem nodup_erase {m : Assoc α κ} (key : κ) (h : m.keys.Nodup) :
    (m.erase key).keys.Nodup :=
  h.sublist (List.filter_sublist.map _)

/-- When no key appears twice, the entries are what look-ups find. -/
theorem mem_iff_get? {m : Assoc α κ} (h : m.keys.Nodup) {key : κ} {v : α} :
    (key, v) ∈ m ↔ m.get? key = some v := by
  induction m with
  | nil => simp [get?_nil]
  | cons f rest ih =>
    obtain ⟨k, w⟩ := f
    rw [keys, List.map_cons, List.nodup_cons] at h
    rw [get?_cons, List.mem_cons, ih h.2, Prod.mk.injEq]
    by_cases hk : k = key
    · subst hk
      have hnone : ¬ Assoc.get? rest k = some v := fun hsome => h.1 (mem_keys_iff.mpr ⟨v, hsome⟩)
      simp [hnone, eq_comm]
    · simp [hk, Ne.symm hk]

end Assoc

end IdentityService
