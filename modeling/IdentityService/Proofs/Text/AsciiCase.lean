import IdentityService.Proofs.Text.LowerCase

/-!
# Lower Case in ASCII

Which texts have a lower case that is written in ASCII: those that are written in ASCII
themselves, and those that hold Kelvin signs besides, since the Kelvin sign is the one
character outside ASCII whose lower case lies in it.

## Main statements

- `lowerTable_ascii`: the two shifts that reach ASCII.
- `lowerChars_ascii_iff`: the texts whose lower case is in ASCII.
- `lowerChars_eq_map`: their lower case, letter by letter.
- `sameButCase_iff_of_eq`: when texts with the same lower case differ in case only.
-/

namespace IdentityService.Text

/-! ## §1 The shifts into ASCII -/

/-- The Kelvin sign, whose lower case is the small k. -/
def kelvin : Char := '\u212a'

/-- A Kelvin sign is read as the small k, and any other character as itself. -/
def readKelvin (c : Char) : Char := if c = kelvin then 'k' else c

theorem readKelvin_of_ne {c : Char} (h : c ≠ kelvin) : readKelvin c = c := if_neg h

/-- What is read as a character outside ASCII is no Kelvin sign. -/
theorem ne_kelvin_of_le {c : Char} (h : 128 ≤ (readKelvin c).toNat) : c ≠ kelvin := by
  rintro rfl
  exact absurd h (by decide)

/-- **The table.** Only the capital letters of ASCII and the Kelvin sign are moved into ASCII. -/
theorem lowerTable_ascii :
    (lowerTable.all fun s => Nat.blt 127 s.target || s == ⟨⟨65, 90, 1⟩, 97⟩ ||
      s == ⟨⟨8490, 8490, 1⟩, 107⟩) = true := by
  decide +kernel

/-- A character that is neither in ASCII nor the Kelvin sign is moved outside ASCII, if at all. -/
theorem le_toNat_of_shifted {c d : Char} (hc : 128 ≤ (readKelvin c).toNat)
    (h : shifted? lowerTable c = some d) : 128 ≤ d.toNat := by
  obtain ⟨s, hs, hcontains, rfl⟩ := exists_shift h
  obtain ⟨hfirst, hlast, -⟩ := (Stretch.contains_iff _ _).mp hcontains
  have hrow := List.all_eq_true.mp lowerTable_ascii s hs
  rw [Bool.or_eq_true, Bool.or_eq_true, Nat.blt_eq, beq_iff_eq, beq_iff_eq] at hrow
  rw [toNat_image hs hcontains, Shift.image]
  rcases hrow with (htarget | rfl) | rfl
  · omega
  · -- the capital letters of ASCII
    rw [readKelvin_of_ne (ne_kelvin_of_le hc)] at hc
    have hcapital : c.toNat ≤ 90 := hlast
    omega
  · -- the Kelvin sign
    have hcode : c.toNat = kelvin.toNat := Nat.le_antisymm hlast hfirst
    exact absurd (Char.toNat_inj.mp hcode) (ne_kelvin_of_le hc)

/-! ## §2 One character -/

/-- What holds of the first characters, tried one by one, holds of every character of ASCII. -/
theorem forall_ascii {P : Char → Prop} (h : ∀ n ∈ List.range 128, P (Char.ofNat n)) {c : Char}
    (hc : c.toNat < 128) : P c := by
  have hchar := h c.toNat (List.mem_range.mpr hc)
  rwa [Char.ofNat_toNat] at hchar

theorem lowerChar_of_ascii {c : Char} (h : c.toNat < 128) : lowerChar c = [c.toLower] :=
  forall_ascii (P := fun c => lowerChar c = [c.toLower]) (by decide +kernel) h

theorem toNat_toLower_lt {c : Char} (h : c.toNat < 128) : c.toLower.toNat < 128 :=
  forall_ascii (P := fun c => c.toLower.toNat < 128) (by decide +kernel) h

theorem toLower_of_le {c : Char} (h : 128 ≤ c.toNat) : c.toLower = c := by
  unfold Char.toLower
  rw [dif_neg]
  rintro ⟨-, hlast⟩
  have hcapital : c.toNat ≤ 90 := hlast
  omega

theorem toUpper_of_le {c : Char} (h : 128 ≤ c.toNat) : c.toUpper = c := by
  unfold Char.toUpper
  rw [dif_neg]
  rintro ⟨-, hlast⟩
  have hsmall : c.toNat ≤ 122 := hlast
  omega

/-- A function that moves nothing outside ASCII is judged by what it does in ASCII. -/
theorem rel_of_ascii {f : Char → Char} (hf : ∀ c, 128 ≤ c.toNat → f c = c)
    {R : Char → Char → Prop} (hrefl : ∀ c, R c c)
    (hascii : ∀ n ∈ List.range 128, R (f (Char.ofNat n)) (Char.ofNat n)) (c : Char) :
    R (f c) c := by
  by_cases hc : c.toNat < 128
  · exact forall_ascii (P := fun c => R (f c) c) hascii hc
  · rw [hf c (Nat.not_lt.mp hc)]
    exact hrefl c

/-- What lower-casing puts in the place of a character of ASCII, or of a Kelvin sign. -/
theorem lowerStep_of_ascii {c : Char} (final : Bool) (h : (readKelvin c).toNat < 128) :
    (if c = 'Σ' then [if final then 'ς' else 'σ'] else lowerChar c) =
      [(readKelvin c).toLower] := by
  have hsigma : c ≠ 'Σ' := by
    rintro rfl
    exact absurd h (by decide)
  rw [if_neg hsigma]
  by_cases hc : c = kelvin
  · subst hc
    decide +kernel
  · rw [readKelvin_of_ne hc] at h ⊢
    exact lowerChar_of_ascii h

/-- Any other character leaves a character outside ASCII. -/
theorem exists_of_lowerStep {c : Char} (final : Bool) (h : 128 ≤ (readKelvin c).toNat) :
    ∃ d ∈ if c = 'Σ' then [if final then 'ς' else 'σ'] else lowerChar c, 128 ≤ d.toNat := by
  split
  · refine ⟨_, List.mem_singleton_self _, ?_⟩
    cases final <;> decide
  · by_cases hexpanded : c.toNat = 304
    · -- the dot over the small i stays
      obtain rfl : c = 'İ' := Char.toNat_inj.mp hexpanded
      exact ⟨Char.ofNat 775, by decide +kernel, by decide⟩
    · rw [lowerChar_of_ne hexpanded]
      refine ⟨_, List.mem_singleton_self _, ?_⟩
      cases hshift : shifted? lowerTable c with
      | none =>
        rw [readKelvin_of_ne (ne_kelvin_of_le h)] at h
        exact h
      | some d => exact le_toNat_of_shifted h hshift

/-! ## §3 Whole texts -/

theorem lowerFrom_of_ascii {before cs : List Char} (h : ∀ c ∈ cs, (readKelvin c).toNat < 128) :
    lowerFrom before cs = cs.map fun c => (readKelvin c).toLower := by
  induction cs generalizing before with
  | nil => rfl
  | cons c rest ih =>
    rw [List.forall_mem_cons] at h
    rw [lowerFrom, lowerStep_of_ascii _ h.1, ih h.2]
    rfl

theorem ascii_of_lowerFrom {before cs : List Char}
    (h : ∀ d ∈ lowerFrom before cs, d.toNat < 128) :
    ∀ c ∈ cs, (readKelvin c).toNat < 128 := by
  -- a character outside ASCII would show in what it is lower-cased to
  induction cs generalizing before with
  | nil => exact List.forall_mem_nil _
  | cons c rest ih =>
    rw [lowerFrom, List.forall_mem_append] at h
    refine List.forall_mem_cons.mpr ⟨?_, ih h.2⟩
    by_contra hc
    obtain ⟨d, hd, hlarge⟩ := exists_of_lowerStep _ (Nat.not_lt.mp hc)
    exact absurd (h.1 d hd) (Nat.not_lt.mpr hlarge)

/-- **Lower case in ASCII.** A lower case is in ASCII iff the text is, Kelvin signs apart. -/
theorem lowerChars_ascii_iff {cs : List Char} :
    (∀ d ∈ lowerChars cs, d.toNat < 128) ↔ ∀ c ∈ cs.map readKelvin, c.toNat < 128 := by
  rw [List.forall_mem_map]
  refine ⟨ascii_of_lowerFrom, fun h => ?_⟩
  rw [lowerChars, lowerFrom_of_ascii h, List.forall_mem_map]
  intro c hc
  exact toNat_toLower_lt (h c hc)

/-- The lower case of such a text, letter by letter. -/
theorem lowerChars_eq_map {cs : List Char} (h : ∀ c ∈ cs.map readKelvin, c.toNat < 128) :
    lowerChars cs = (cs.map readKelvin).map Char.toLower := by
  rw [List.forall_mem_map] at h
  rw [lowerChars, lowerFrom_of_ascii h, List.map_map]
  rfl

/-! ## §4 Differences in case -/

/-- Two texts differ at most in the case of ASCII letters. -/
def SameButCase (cs ds : List Char) : Prop := cs.map Char.toLower = ds.map Char.toLower

instance : DecidableRel SameButCase := fun _ _ => inferInstanceAs (Decidable (_ = _))

/-- A function that changes the case of some characters of ASCII makes texts that differ in case
only. -/
theorem sameButCase_map {f : Char → Char} (hf : ∀ c, 128 ≤ c.toNat → f c = c)
    (hascii : ∀ n ∈ List.range 128, (f (Char.ofNat n)).toLower = (Char.ofNat n).toLower)
    (s : String) : SameButCase (s.map f).toList s.toList := by
  have hcase : ∀ c, (f c).toLower = c.toLower :=
    rel_of_ascii hf (R := fun d c => d.toLower = c.toLower) (fun _ => rfl) hascii
  rw [SameButCase, String.toList_map, List.map_map]
  exact List.map_congr_left fun c _ => hcase c

theorem sameButCase_toLower (s : String) : SameButCase s.toLower.toList s.toList :=
  sameButCase_map (fun _ => toLower_of_le) (by decide +kernel) s

theorem sameButCase_toUpper (s : String) : SameButCase s.toUpper.toList s.toList :=
  sameButCase_map (fun _ => toUpper_of_le) (by decide +kernel) s

theorem map_readKelvin {cs : List Char} (h : kelvin ∉ cs) : cs.map readKelvin = cs := by
  have hsame : ∀ c ∈ cs, readKelvin c = id c := by
    intro c hc
    apply readKelvin_of_ne
    rintro rfl
    exact h hc
  rw [List.map_congr_left hsame, List.map_id]

theorem toLower_kelvin_ne {c : Char} (h : (readKelvin kelvin).toLower = c.toLower) :
    kelvin.toLower ≠ c.toLower := by
  rw [← h]
  decide

/-- Characters that read alike differ in case only, unless one of them alone is a Kelvin sign. -/
theorem toLower_eq_iff {c d : Char} (h : (readKelvin c).toLower = (readKelvin d).toLower) :
    c.toLower = d.toLower ↔ (c == kelvin) = (d == kelvin) := by
  by_cases hc : c = kelvin
  · by_cases hd : d = kelvin
    · rw [hc, hd]
      exact iff_of_true rfl rfl
    · rw [readKelvin_of_ne hd] at h
      subst hc
      exact iff_of_false (toLower_kelvin_ne h) (by simpa using hd)
  · rw [readKelvin_of_ne hc] at h
    by_cases hd : d = kelvin
    · subst hd
      exact iff_of_false (toLower_kelvin_ne h.symm).symm (by simpa using hc)
    · rw [readKelvin_of_ne hd] at h
      exact iff_of_true h (by rw [beq_false_of_ne hc, beq_false_of_ne hd])

/-- Texts that read alike differ in case only iff their Kelvin signs stand at the same places. -/
theorem sameButCase_iff_of_read {cs ds : List Char}
    (h : SameButCase (cs.map readKelvin) (ds.map readKelvin)) :
    SameButCase cs ds ↔ cs.map (· == kelvin) = ds.map (· == kelvin) := by
  unfold SameButCase at h ⊢
  -- the two texts are read letter by letter, and they are equally long
  induction cs generalizing ds with
  | nil =>
    cases ds with
    | nil => simp
    | cons d ds => exact absurd h (by simp)
  | cons c cs ih =>
    cases ds with
    | nil => exact absurd h (by simp)
    | cons d ds =>
      simp only [List.map_cons, List.cons.injEq] at h ⊢
      rw [ih h.2, toLower_eq_iff h.1]

end IdentityService.Text
