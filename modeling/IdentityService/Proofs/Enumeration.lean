import IdentityService.Enumeration
import IdentityService.Proofs.Text.CaseFold
import Mathlib.Data.List.Induction

/-!
# What a Free Text Stands For

The index of an enumeration is built in one pass over its members.  The name of a member replaces
what its key stood for, and a value replaces nothing; so in the end a key stands for the last
member of this name, or else for the first member of this value, whatever the order in which the
names and the values of different members meet.

## Main definitions

- `Enumeration.Means`: the member that a key stands for, if any.
- `Enumeration.IsAlias`: a definition that names a member once more.

## Main statements

- `Enumeration.Means.enter`: what a key stands for once there is one more member.
- `Enumeration.means_lookup?`: the index holds what a key stands for.
- `Enumeration.distinct_concat`: the members once there is one more definition.
- `Enumeration.parse?_exact`: the look-up of free texts.
-/

namespace IdentityService

open Text

/-! ## §1 Names and values -/

namespace Member

/-- The name of a member folds to a key. -/
def IsNamed (m : Member) (key : String) : Prop := caseFold m.name = key

/-- The value of a member is a text, and it folds to a key. -/
def HasValue (m : Member) (key : String) : Prop := ∃ s, m.value = .text s ∧ caseFold s = key

instance (m : Member) (key : String) : Decidable (m.IsNamed key) :=
  inferInstanceAs (Decidable (_ = _))

instance (m : Member) (key : String) : Decidable (m.HasValue key) :=
  decidable_of_iff (m.value.text?.map caseFold = some key) (by
    unfold HasValue Json.text?
    cases m.value <;> simp)

end Member

namespace Enumeration

variable {members e : Enumeration} {m x : Member} {key text : String} {r r' : Option Member}

/-- The member that a key stands for: the last one of this name; where there is none, the first one
of this value; and where there is none either, no member. -/
inductive Means (members : Enumeration) (key : String) : Option Member → Prop
  | named {before after : Enumeration} {m : Member} (hmembers : members = before ++ m :: after)
      (hname : m.IsNamed key) (hlast : ∀ x ∈ after, ¬ x.IsNamed key) :
      Means members key (some m)
  | valued {before after : Enumeration} {m : Member} (hnames : ∀ x ∈ members, ¬ x.IsNamed key)
      (hmembers : members = before ++ m :: after) (hvalue : m.HasValue key)
      (hfirst : ∀ x ∈ before, ¬ x.HasValue key) : Means members key (some m)
  | nothing (hnames : ∀ x ∈ members, ¬ x.IsNamed key)
      (hvalues : ∀ x ∈ members, ¬ x.HasValue key) : Means members key none

/-! ## §2 The index -/

/-- What a key stands for once there is one more member: the name of the member counts before all,
and its value after all. -/
def meaningWith (key : String) (r : Option Member) (m : Member) : Option Member :=
  if m.IsNamed key then some m else if m.HasValue key then r.or (some m) else r

theorem forall_mem_concat {P : Member → Prop} (h : ∀ x ∈ members, P x) (hm : P m) :
    ∀ x ∈ members ++ [m], P x :=
  List.forall_mem_append.mpr ⟨h, List.forall_mem_singleton.mpr hm⟩

/-- **One more member.** -/
theorem Means.enter (h : Means members key r) (m : Member) :
    Means (members ++ [m]) key (meaningWith key r m) := by
  unfold meaningWith
  by_cases hname : m.IsNamed key
  · rw [if_pos hname]
    exact .named rfl hname (List.forall_mem_nil _)
  · rw [if_neg hname]
    cases h with
    | @named before after m' hmembers hname' hlast =>
      -- a name that is there already stays the last one
      have hsame : (if m.HasValue key then (some m').or (some m) else some m') = some m' := by
        split <;> rfl
      rw [hsame]
      have hmembers' : members ++ [m] = before ++ m' :: (after ++ [m]) := by
        rw [hmembers, List.append_assoc, List.cons_append]
      exact .named hmembers' hname' (forall_mem_concat hlast hname)
    | @valued before after m' hnames hmembers hvalue hfirst =>
      have hsame : (if m.HasValue key then (some m').or (some m) else some m') = some m' := by
        split <;> rfl
      rw [hsame]
      have hmembers' : members ++ [m] = before ++ m' :: (after ++ [m]) := by
        rw [hmembers, List.append_assoc, List.cons_append]
      exact .valued (forall_mem_concat hnames hname) hmembers' hvalue hfirst
    | nothing hnames hvalues =>
      split
      case isTrue hvalue => exact .valued (forall_mem_concat hnames hname) rfl hvalue hvalues
      case isFalse hvalue =>
        exact .nothing (forall_mem_concat hnames hname) (forall_mem_concat hvalues hvalue)

theorem lookup?_cons {α : Type} (k : String) (v : α) (entries : List (String × α)) :
    lookup? key ((k, v) :: entries) = if k = key then some v else lookup? key entries :=
  Assoc.get?_cons k v entries key

theorem lookup?_concat {α : Type} (k : String) (v : α) (entries : List (String × α)) :
    lookup? key (entries ++ [(k, v)]) =
      (lookup? key entries).or (if k = key then some v else none) := by
  unfold lookup?
  rw [List.find?_append]
  cases entries.find? (·.1 == key) with
  | some found => rfl
  | none => by_cases h : k = key <;> simp [h]

/-- **Entering a member** changes what a key stands for as one more member does. -/
theorem lookup?_enter (index : List (String × Member)) (m : Member) :
    lookup? key (enter index m) = meaningWith key (lookup? key index) m := by
  have hnamed : lookup? key ((caseFold m.name, m) :: index) =
      if m.IsNamed key then some m else lookup? key index := lookup?_cons _ _ _
  unfold meaningWith
  cases hvalue : m.value with
  | text s =>
    have hhas : m.HasValue key ↔ caseFold s = key := by simp [Member.HasValue, hvalue]
    simp only [enter, hvalue, hhas]
    split
    case isTrue hfound =>
      -- the value has an entry, so it replaces nothing
      rw [hnamed]
      by_cases hkey : caseFold s = key
      · rw [hkey, hnamed] at hfound
        rw [if_pos hkey]
        split
        · rfl
        · rename_i hname
          rw [if_neg hname] at hfound
          rw [Option.or_of_isSome hfound]
      · rw [if_neg hkey]
    case isFalse hfree =>
      rw [lookup?_concat, hnamed]
      by_cases hkey : caseFold s = key
      · simp only [if_pos hkey]
        split <;> rfl
      · simp only [if_neg hkey, Option.or_none]
  | _ =>
    have hhas : ¬ m.HasValue key := by simp [Member.HasValue, hvalue]
    simp only [enter, hvalue, hhas, if_false]
    exact hnamed

/-- **The index** holds what a key stands for. -/
theorem means_lookup? (members : Enumeration) (key : String) :
    Means members key (lookup? key (index members)) := by
  -- the index is built from the first member on, so the members are taken off from the end
  induction members using List.reverseRecOn with
  | nil => exact .nothing (List.forall_mem_nil _) (List.forall_mem_nil _)
  | append_singleton members m ih =>
    rw [index, List.foldl_append]
    show Means _ _ (lookup? key (Enumeration.enter (index members) m))
    rw [lookup?_enter]
    exact ih.enter m

/-- The member as a search finds it: from the end by name, then from the start by value. -/
theorem Means.eq_find (h : Means members key r) :
    r = (members.reverse.find? (·.IsNamed key)).or (members.find? (·.HasValue key)) := by
  -- a search by name from the end finds nothing when nobody has the name
  have hnone (hnames : ∀ x ∈ members, ¬ x.IsNamed key) :
      members.reverse.find? (·.IsNamed key) = none := by
    simpa using hnames
  cases h with
  | @named before after m hmembers hname hlast =>
    have hfind : members.reverse.find? (·.IsNamed key) = some m := by
      rw [hmembers, List.reverse_append, List.reverse_cons, List.find?_append, List.find?_append]
      have hafter : after.reverse.find? (·.IsNamed key) = none := by simpa using hlast
      simp [hafter, hname]
    rw [hfind, Option.some_or]
  | @valued before after m hnames hmembers hvalue hfirst =>
    have hfind : members.find? (·.HasValue key) = some m := by
      have hbefore : before.find? (·.HasValue key) = none := by simpa using hfirst
      rw [hmembers, List.find?_append, hbefore, Option.none_or]
      exact List.find?_cons_of_pos (by simpa using hvalue)
    rw [hnone hnames, Option.none_or, hfind]
  | nothing hnames hvalues =>
    have hfind : members.find? (·.HasValue key) = none := by simpa using hvalues
    rw [hnone hnames, Option.none_or, hfind]

/-- A key stands for one member at most. -/
theorem Means.unique (h : Means members key r) (h' : Means members key r') : r = r' :=
  h.eq_find.trans h'.eq_find.symm

/-! ## §3 The members of an enumeration -/

/-- A definition before `m` has an equal value, so that `m` is no member. -/
def IsAlias (e : Enumeration) (m : Member) : Prop := ∃ x ∈ e, sameValue m.value x.value = true

instance (e : Enumeration) (m : Member) : Decidable (e.IsAlias m) :=
  inferInstanceAs (Decidable (∃ x ∈ e, _))

theorem sameValue_trans {a b c : Json} (h : sameValue a b = true) (h' : sameValue b c = true) :
    sameValue a c = true := by
  simp only [sameValue, beq_iff_eq] at h h' ⊢
  exact h.trans h'

theorem isAlias_cons : IsAlias (x :: e) m ↔ sameValue m.value x.value = true ∨ IsAlias e m := by
  simp [IsAlias]

/-- One more definition, where the values in `seen` are there already. -/
theorem distinctFrom_concat (seen : List Json) (e : Enumeration) (m : Member) :
    distinctFrom seen (e ++ [m]) =
      if seen.any (sameValue m.value) ∨ IsAlias e m then distinctFrom seen e
      else distinctFrom seen e ++ [m] := by
  induction e generalizing seen with
  | nil =>
    have hnone : ¬ IsAlias [] m := by simp [IsAlias]
    simp only [List.nil_append, distinctFrom, hnone, or_false]
  | cons x rest ih =>
    rw [List.cons_append, distinctFrom, distinctFrom]
    simp only [isAlias_cons]
    split
    case isTrue hx =>
      -- a value equal to that of `x` is equal to the one in `seen` that keeps `x` out
      have hseen : sameValue m.value x.value = true → seen.any (sameValue m.value) = true := by
        intro hmx
        obtain ⟨v, hv, hxv⟩ := List.any_eq_true.mp hx
        exact List.any_eq_true.mpr ⟨v, hv, sameValue_trans hmx hxv⟩
      have hcond : (seen.any (sameValue m.value) = true ∨ sameValue m.value x.value = true ∨
          IsAlias rest m) ↔ (seen.any (sameValue m.value) = true ∨ IsAlias rest m) := by
        tauto
      simp only [ih, hcond]
    case isFalse hx =>
      have hcond : ((x.value :: seen).any (sameValue m.value) = true ∨ IsAlias rest m) ↔
          (seen.any (sameValue m.value) = true ∨ sameValue m.value x.value = true ∨
            IsAlias rest m) := by
        rw [List.any_cons, Bool.or_eq_true]
        tauto
      simp only [ih, hcond]
      split <;> rfl

/-- **One more definition** is one more member, unless its value is there already. -/
theorem distinct_concat (e : Enumeration) (m : Member) :
    distinct (e ++ [m]) = if IsAlias e m then e.distinct else e.distinct ++ [m] := by
  have hconcat := distinctFrom_concat [] e m
  simp only [List.any_nil, Bool.false_eq_true, false_or] at hconcat
  exact hconcat

/-! ## §4 Free texts -/

theorem parse?_eq_iff :
    parse? e text = r ↔ Means e.distinct (caseFold (strip text)) r := by
  have hindex := means_lookup? e.distinct (caseFold (strip text))
  constructor
  · rintro rfl
    exact hindex
  · intro h
    exact hindex.unique h

/-- Where a member has the name, the key stands for a member of this name. -/
theorem Means.exists_named (h : Means members key r) (hm : m ∈ members) (hname : m.IsNamed key) :
    ∃ x, r = some x ∧ x ∈ members ∧ x.IsNamed key := by
  cases h with
  | @named before after x hmembers hx hlast => exact ⟨x, rfl, by simp [hmembers], hx⟩
  | valued hnames => exact absurd hname (hnames m hm)
  | nothing hnames => exact absurd hname (hnames m hm)

/-- The key of a text that spells a name, with blanks around it. -/
theorem caseFold_strip_of_spells {before w after : List Char} {name : String}
    (hbefore : ∀ c ∈ before, isBlank c = true) (hafter : ∀ c ∈ after, isBlank c = true)
    (hw : caseFold (String.ofList w) = caseFold name)
    (hname : strip (caseFold name) = caseFold name) :
    caseFold (strip (String.ofList (before ++ w ++ after))) = caseFold name := by
  have hwords : w.flatMap foldChar = (caseFold name).toList := by
    rw [← hw, caseFold, String.toList_ofList, String.toList_ofList]
  have htrimmed : Trimmed (caseFold name).toList := by
    rw [← hname, strip, String.toList_ofList]
    exact trimmed_trim _
  rw [caseFold_strip, caseFold, String.toList_ofList, List.flatMap_append, List.flatMap_append,
    flatMap_foldChar_of_isBlank hbefore, flatMap_foldChar_of_isBlank hafter, hwords, strip,
    String.toList_ofList, trim_of_blanks_around hbefore hafter htrimmed, String.ofList_toList]

/-- **Free texts.** Without its blanks and its case, a text stands for the last member of this name;
where there is none, for the first member whose value is this text; and else for no member.  The
members are the definitions but for those of a value that is there already.  So names come before
values, and a member whose name is its own, with no blanks around it, is found from every text that
spells the name. -/
theorem parse?_exact (e : Enumeration) :
    (∀ text r, parse? e text = r ↔ Means e.distinct (caseFold (strip text)) r) ∧
      (distinct [] = [] ∧ ∀ before m, distinct (before ++ [m]) =
        if IsAlias before m then before.distinct else before.distinct ++ [m]) ∧
      (∀ text, ∀ m ∈ e.distinct, m.IsNamed (caseFold (strip text)) →
        ∃ x, parse? e text = some x ∧ x ∈ e.distinct ∧ x.IsNamed (caseFold (strip text))) ∧
      (∀ m ∈ e.distinct, (∀ x ∈ e.distinct, caseFold x.name = caseFold m.name → x = m) →
        strip (caseFold m.name) = caseFold m.name →
        ∀ before w after : List Char, (∀ c ∈ before, isBlank c = true) →
          (∀ c ∈ after, isBlank c = true) → caseFold (String.ofList w) = caseFold m.name →
          parse? e (String.ofList (before ++ w ++ after)) = some m) := by
  refine ⟨fun text r => parse?_eq_iff, ⟨rfl, distinct_concat⟩, ?_, ?_⟩
  · intro text m hm hname
    exact (parse?_eq_iff.mp rfl).exists_named hm hname
  · -- the text has the key of the name, and nobody else has this name
    intro m hm hown htrimmed before w after hbefore hafter hw
    have hkey := caseFold_strip_of_spells hbefore hafter hw htrimmed
    have hmeans := parse?_eq_iff.mp (Eq.refl (parse? e (String.ofList (before ++ w ++ after))))
    rw [hkey] at hmeans
    obtain ⟨x, hx, hmem, hnamed⟩ := hmeans.exists_named hm rfl
    rw [hx, hown x hmem hnamed]

-- a name comes before a value, though the value was defined first
example : (parse? [⟨"FIRST", .text "Second"⟩, ⟨"Second", .int 2⟩] " second\t").map (·.name) =
    some "Second" := by
  decide +kernel

end Enumeration

end IdentityService
