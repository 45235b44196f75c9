import IdentityService.Text.Blank
import IdentityService.Text.LowerCase
import Mathlib.Data.List.Basic
import Mathlib.Data.List.TakeWhile

/-!
# Lower Case Is Settled

Lower-casing leaves nothing for a second lower-casing to do: no image of a character is
moved again, and none is a capital sigma or a blank.  So lower-casing and trimming may be
repeated, in either order, without a change.

## Main statements

- `lowerTable_isSettled`: the images of the table lie apart from everything that it moves.
- `settled_of_mem_lowerFrom`: the characters of a lower-cased text are settled.
- `lower_lower`, `strip_lower_strip`: repetition changes nothing.
-/

namespace IdentityService.Text

/-! ## §1 Stretches that lie apart -/

namespace Stretch

/-- Two stretches share no code point.  The code points are tried one by one only where the
ranges overlap. -/
def isApart (s t : Stretch) : Bool :=
  Nat.blt s.last t.first || Nat.blt t.last s.first || s.codePoints.all (!t.contains ·)

/-- Every code point of a stretch is a character. -/
def isScalar (s : Stretch) : Bool :=
  Nat.blt s.last 0xD800 || (Nat.blt 0xDFFF s.first && Nat.blt s.last 0x110000)

theorem mem_codePoints {s : Stretch} {n : Nat} (h : s.contains n = true) : n ∈ s.codePoints := by
  obtain ⟨hfirst, hlast, hstride⟩ := (contains_iff s n).mp h
  have hdiv : (n - s.first) / s.stride * s.stride = n - s.first :=
    Nat.div_mul_cancel (Nat.dvd_of_mod_eq_zero hstride)
  unfold codePoints
  rw [List.mem_map]
  -- that many strides lead from the first code point to this one
  refine ⟨(n - s.first) / s.stride, ?_, by omega⟩
  rw [List.mem_range, Nat.lt_succ_iff]
  exact Nat.div_le_div_right (by omega)

theorem not_contains_of_isApart {s t : Stretch} {n : Nat} (h : s.isApart t = true)
    (hs : s.contains n = true) : t.contains n = false := by
  obtain ⟨hfirst, hlast, -⟩ := (contains_iff s n).mp hs
  unfold isApart at h
  rw [Bool.or_eq_true, Bool.or_eq_true, Nat.blt_eq, Nat.blt_eq] at h
  -- one range ends before the other starts, or every code point has been tried
  rcases h with (hbelow | habove) | hall
  · rw [contains, decide_eq_false (show ¬ t.first ≤ n by omega)]
    rfl
  · rw [contains, decide_eq_false (show ¬ n ≤ t.last by omega), Bool.and_false]
    rfl
  · have hout := List.all_eq_true.mp hall n (mem_codePoints hs)
    simpa using hout

theorem isValidChar_of_isScalar {s : Stretch} {n : Nat} (h : s.isScalar = true)
    (hs : s.contains n = true) : n.isValidChar := by
  obtain ⟨hfirst, hlast, -⟩ := (contains_iff s n).mp hs
  unfold isScalar at h
  rw [Bool.or_eq_true, Bool.and_eq_true, Nat.blt_eq, Nat.blt_eq, Nat.blt_eq] at h
  unfold Nat.isValidChar
  omega

end Stretch

namespace Shift

/-- The stretch of the images. -/
def imageStretch (s : Shift) : Stretch :=
  ⟨s.target, s.target + (s.stretch.last - s.stretch.first), s.stretch.stride⟩

theorem contains_imageStretch {s : Shift} {n : Nat} (h : s.stretch.contains n = true) :
    s.imageStretch.contains (s.image n) = true := by
  obtain ⟨hfirst, hlast, hstride⟩ := (Stretch.contains_iff _ n).mp h
  -- a code point and its image lie equally far into their stretches
  have hback : s.target + (n - s.stretch.first) - s.target = n - s.stretch.first := by omega
  rw [Stretch.contains_iff]
  simp only [imageStretch, image]
  rw [hback]
  exact ⟨by omega, by omega, hstride⟩

/-- An image is a character where all images are. -/
theorem toNat_image {s : Shift} (h : s.imageStretch.isScalar = true) {n : Nat}
    (hn : s.stretch.contains n = true) : (Char.ofNat (s.image n)).toNat = s.image n := by
  have hvalid := Stretch.isValidChar_of_isScalar h (contains_imageStretch hn)
  rw [Char.ofNat, dif_pos hvalid]
  rfl

end Shift

/-! ## §2 The table of lower case -/

/-- The blank characters as stretches. -/
def blankTable : List Stretch :=
  [⟨9, 13, 1⟩, ⟨28, 32, 1⟩, ⟨0x85, 0x85, 1⟩, ⟨0xA0, 0xA0, 1⟩, ⟨0x1680, 0x1680, 1⟩,
    ⟨0x2000, 0x200A, 1⟩, ⟨0x2028, 0x2029, 1⟩, ⟨0x202F, 0x202F, 1⟩, ⟨0x205F, 0x205F, 1⟩,
    ⟨0x3000, 0x3000, 1⟩]

theorem isBlank_eq_inTable (c : Char) : isBlank c = inTable blankTable c := by
  rw [Bool.eq_iff_iff]
  simp [isBlank, inTable, blankTable, Stretch.contains, Nat.mod_one]
  omega

/-- What no image of lower-casing may be: the one letter with an expansion, the letters that the
table moves, the capital sigma among them, and the blanks. -/
def unsettledTable : List Stretch :=
  ⟨304, 304, 1⟩ :: (lowerTable.map (·.stretch) ++ blankTable)

/-- **The table.** The images of the table are characters, and they lie apart from everything
that is moved and from the blanks. -/
theorem lowerTable_isSettled :
    (lowerTable.all fun s =>
      s.imageStretch.isScalar && unsettledTable.all s.imageStretch.isApart) = true := by
  decide +kernel

/-- A character is settled when lower-casing leaves it as it is wherever it stands. -/
def Settled (c : Char) : Prop := lowerChar c = [c] ∧ c ≠ 'Σ'

instance : DecidablePred Settled := fun _ => inferInstanceAs (Decidable (_ ∧ _))

theorem shifted?_eq_none_of {c : Char} (h : ∀ t ∈ lowerTable, t.stretch.contains c.toNat = false) :
    shifted? lowerTable c = none := by
  unfold shifted?
  rw [Option.map_eq_none_iff, List.find?_eq_none]
  intro t ht
  rw [h t ht]
  exact Bool.false_ne_true

theorem lowerChar_of_ne {c : Char} (h : c.toNat ≠ 304) :
    lowerChar c = [(shifted? lowerTable c).getD c] := by
  have hfind : lowerExpansions.find? (·.1 == c.toNat) = none := by
    simp [lowerExpansions, Ne.symm h]
  unfold lowerChar mapWith
  rw [hfind]

theorem exists_shift {table : List Shift} {c d : Char} (h : shifted? table c = some d) :
    ∃ s ∈ table, s.stretch.contains c.toNat = true ∧ d = Char.ofNat (s.image c.toNat) := by
  unfold shifted? at h
  obtain ⟨s, hfind, rfl⟩ := Option.map_eq_some_iff.mp h
  have hcontains : s.stretch.contains c.toNat = true := by
    simpa using List.find?_some hfind
  exact ⟨s, List.mem_of_find?_eq_some hfind, hcontains, rfl⟩

/-- An image of the table is a character. -/
theorem toNat_image {s : Shift} (hs : s ∈ lowerTable) {n : Nat}
    (hn : s.stretch.contains n = true) : (Char.ofNat (s.image n)).toNat = s.image n := by
  have hrow := List.all_eq_true.mp lowerTable_isSettled s hs
  rw [Bool.and_eq_true] at hrow
  exact Shift.toNat_image hrow.1 hn

/-- An image of the table is settled, and it is not blank. -/
theorem settled_image {s : Shift} (hs : s ∈ lowerTable) {n : Nat}
    (hn : s.stretch.contains n = true) :
    Settled (Char.ofNat (s.image n)) ∧ isBlank (Char.ofNat (s.image n)) = false := by
  have hrow := List.all_eq_true.mp lowerTable_isSettled s hs
  rw [Bool.and_eq_true] at hrow
  have himage := Shift.contains_imageStretch hn
  have hcode := toNat_image hs hn
  -- the image lies in no stretch of anything unsettled
  have hapart : ∀ t ∈ unsettledTable, t.contains (Char.ofNat (s.image n)).toNat = false := by
    intro t ht
    rw [hcode]
    exact Stretch.not_contains_of_isApart (List.all_eq_true.mp hrow.2 t ht) himage
  generalize Char.ofNat (s.image n) = d at hapart
  have hmoved : ∀ t ∈ lowerTable, t.stretch.contains d.toNat = false := by
    intro t ht
    apply hapart
    exact List.mem_cons_of_mem _ (List.mem_append_left _ (List.mem_map_of_mem ht))
  have hexpanded : d.toNat ≠ 304 := by
    intro hd
    have hout := hapart ⟨304, 304, 1⟩ (List.mem_cons_self ..)
    rw [hd] at hout
    exact absurd hout (by decide)
  refine ⟨⟨?_, ?_⟩, ?_⟩
  · rw [lowerChar_of_ne hexpanded, shifted?_eq_none_of hmoved]
    rfl
  · -- the capital sigma is itself moved by the table
    rintro rfl
    have hout := hmoved ⟨⟨931, 939, 1⟩, 963⟩ (by decide)
    exact absurd hout (by decide)
  · rw [isBlank_eq_inTable]
    unfold inTable
    rw [List.any_eq_false]
    intro t ht
    rw [hapart t (List.mem_cons_of_mem _ (List.mem_append_right _ ht))]
    exact Bool.false_ne_true

/-! ## §3 Characters of a lower-cased text -/

/-- Lower-casing a character gives settled characters, and a blank only from that blank. -/
theorem settled_of_mem_lowerChar {c d : Char} (hc : c ≠ 'Σ') (hd : d ∈ lowerChar c) :
    Settled d ∧ (isBlank d = true → isBlank c = true) := by
  by_cases hexpanded : c.toNat = 304
  · -- the capital i with a dot becomes a small i and a dot
    obtain rfl : c = 'İ' := Char.toNat_inj.mp hexpanded
    have hi : lowerChar 'İ' = ['i', Char.ofNat 775] := rfl
    have hpair : d = 'i' ∨ d = Char.ofNat 775 := by simpa [hi] using hd
    rcases hpair with rfl | rfl
    · exact ⟨by decide +kernel, fun h => absurd h (by decide)⟩
    · exact ⟨by decide +kernel, fun h => absurd h (by decide)⟩
  rw [lowerChar_of_ne hexpanded, List.mem_singleton] at hd
  cases hshift : shifted? lowerTable c with
  | none =>
    rw [hshift, Option.getD_none] at hd
    subst hd
    refine ⟨⟨?_, hc⟩, id⟩
    rw [lowerChar_of_ne hexpanded, hshift]
    rfl
  | some e =>
    rw [hshift, Option.getD_some] at hd
    subst hd
    obtain ⟨s, hs, hcontains, rfl⟩ := exists_shift hshift
    have himage := settled_image hs hcontains
    exact ⟨himage.1, fun h => absurd h (by rw [himage.2]; exact Bool.false_ne_true)⟩

theorem settled_sigma (final : Bool) :
    Settled (if final then 'ς' else 'σ') ∧ isBlank (if final then 'ς' else 'σ') = false := by
  cases final
  · exact ⟨by decide +kernel, by decide⟩
  · exact ⟨by decide +kernel, by decide⟩

/-- **One step.** What lower-casing puts in the place of a character is settled, and it is blank
only where the character was. -/
theorem settled_of_mem_lowerStep {c d : Char} (final : Bool)
    (hd : d ∈ if c = 'Σ' then [if final then 'ς' else 'σ'] else lowerChar c) :
    Settled d ∧ (isBlank d = true → isBlank c = true) := by
  split at hd
  · rw [List.mem_singleton] at hd
    subst hd
    obtain ⟨hsettled, hblank⟩ := settled_sigma final
    exact ⟨hsettled, fun h => absurd h (by rw [hblank]; exact Bool.false_ne_true)⟩
  · rename_i hsigma
    exact settled_of_mem_lowerChar hsigma hd

/-! ## §4 Whole texts -/

theorem settled_of_mem_lowerFrom (before cs : List Char) :
    ∀ d ∈ lowerFrom before cs, Settled d := by
  -- what stands before is left open, since a sigma looks back at it
  induction cs generalizing before with
  | nil => simp [lowerFrom]
  | cons c rest ih =>
    intro d hd
    rw [lowerFrom, List.mem_append] at hd
    rcases hd with hfirst | hrest
    · exact (settled_of_mem_lowerStep _ hfirst).1
    · exact ih (c :: before) d hrest

/-- Settled characters stay as they are, whatever stands around them. -/
theorem lowerFrom_of_settled {before cs : List Char} (h : ∀ c ∈ cs, Settled c) :
    lowerFrom before cs = cs := by
  induction cs generalizing before with
  | nil => rfl
  | cons c rest ih =>
    obtain ⟨hchar, hsigma⟩ := h c (List.mem_cons_self ..)
    have hrest := @ih (c :: before) fun d hd => h d (List.mem_cons_of_mem c hd)
    rw [lowerFrom, if_neg hsigma, hchar, hrest]
    rfl

/-- **Lower-casing is settled.** A second time it changes nothing. -/
theorem lower_lower (s : String) : lower (lower s) = lower s := by
  unfold lower lowerChars
  rw [String.toList_ofList, lowerFrom_of_settled (settled_of_mem_lowerFrom [] s.toList)]

/-! ## §5 Trimming -/

/-- Neither end of a list is blank. -/
def Trimmed (cs : List Char) : Prop :=
  (∀ c, cs.head? = some c → isBlank c = false) ∧ (∀ c, cs.getLast? = some c → isBlank c = false)

theorem dropWhile_of_head? {p : Char → Bool} {cs : List Char}
    (h : ∀ c, cs.head? = some c → p c = false) : cs.dropWhile p = cs := by
  cases cs with
  | nil => rfl
  | cons c rest => rw [List.dropWhile_cons, h c rfl, if_neg Bool.false_ne_true]

theorem head?_dropWhile {p : Char → Bool} {cs : List Char} {c : Char}
    (h : (cs.dropWhile p).head? = some c) : p c = false := by
  have hnot := List.head?_dropWhile_not p cs
  rw [h] at hnot
  exact hnot

theorem toList_strip (s : String) : (strip s).toList = trim s.toList := String.toList_ofList

theorem trim_of_trimmed {cs : List Char} (h : Trimmed cs) : trim cs = cs := by
  have hlast : cs.reverse.dropWhile isBlank = cs.reverse := by
    refine dropWhile_of_head? fun c hc => h.2 c ?_
    rwa [List.head?_reverse] at hc
  unfold trim trimWhere
  rw [dropWhile_of_head? h.1, hlast, List.reverse_reverse]

/-- A text without blanks has nothing to trim. -/
theorem strip_of_forall {s : String} (h : ∀ c ∈ s.toList, isBlank c = false) : strip s = s := by
  rw [strip, trim_of_trimmed, String.ofList_toList]
  constructor
  · intro c hc
    exact h c (List.mem_of_head? hc)
  · intro c hc
    exact h c (List.mem_of_getLast? hc)

theorem trimmed_trim (cs : List Char) : Trimmed (trim cs) := by
  constructor
  · intro c hc
    -- what is left after the second step starts as what was left after the first
    have hprefix : trim cs <+: cs.dropWhile isBlank := by
      have hsuffix := List.dropWhile_suffix (l := (cs.dropWhile isBlank).reverse) isBlank
      have hreverse := List.reverse_prefix.mpr hsuffix
      rwa [List.reverse_reverse] at hreverse
    obtain ⟨more, hmore⟩ := hprefix
    apply @head?_dropWhile isBlank cs
    rw [← hmore, List.head?_append, hc]
    rfl
  · intro c hc
    unfold trim trimWhere at hc
    rw [List.getLast?_reverse] at hc
    exact head?_dropWhile hc

/-- **What trimming takes away.** A list is what is left of it between blanks. -/
theorem exists_blanks_around (cs : List Char) :
    ∃ before after, (∀ c ∈ before, isBlank c = true) ∧ (∀ c ∈ after, isBlank c = true) ∧
      cs = before ++ trim cs ++ after := by
  let rest := cs.dropWhile isBlank
  refine ⟨cs.takeWhile isBlank, (rest.reverse.takeWhile isBlank).reverse, ?_, ?_, ?_⟩
  · intro c hc
    exact List.mem_takeWhile_imp hc
  · intro c hc
    exact List.mem_takeWhile_imp (List.mem_reverse.mp hc)
  · have hrest : trim cs ++ (rest.reverse.takeWhile isBlank).reverse = rest := by
      rw [trim, trimWhere, ← List.reverse_append, List.takeWhile_append_dropWhile,
        List.reverse_reverse]
    rw [List.append_assoc, hrest, List.takeWhile_append_dropWhile]

/-- A character that is not blank survives trimming. -/
theorem mem_strip {s : String} {c : Char} (hc : isBlank c = false) (h : c ∈ s.toList) :
    c ∈ (strip s).toList := by
  obtain ⟨before, after, hbefore, hafter, hs⟩ := exists_blanks_around s.toList
  rw [toList_strip]
  rw [hs, List.mem_append, List.mem_append] at h
  rcases h with (h | h) | h
  · exact absurd (hbefore c h) (by simp [hc])
  · exact h
  · exact absurd (hafter c h) (by simp [hc])

/-- Nothing is left of a blank text. -/
theorem strip_of_isBlankText {s : String} (h : isBlankText s = true) : strip s = "" := by
  have hdrop : s.toList.dropWhile isBlank = [] := by
    rw [List.dropWhile_eq_nil_iff]
    exact List.all_eq_true.mp h
  rw [strip, trim, trimWhere, hdrop]
  rfl

theorem strip_eq_empty_iff {s : String} : strip s = "" ↔ isBlankText s = true := by
  refine ⟨fun h => ?_, strip_of_isBlankText⟩
  obtain ⟨before, after, hbefore, hafter, hs⟩ := exists_blanks_around s.toList
  have hnone : trim s.toList = [] := by rw [← toList_strip, h, String.toList_empty]
  rw [hnone, List.append_nil] at hs
  rw [isBlankText, hs, List.all_append, List.all_eq_true.mpr hbefore, List.all_eq_true.mpr hafter]
  rfl

theorem lowerChar_ne_nil (c : Char) : lowerChar c ≠ [] := by
  by_cases hexpanded : c.toNat = 304
  · obtain rfl : c = 'İ' := Char.toNat_inj.mp hexpanded
    decide
  · rw [lowerChar_of_ne hexpanded]
    exact List.cons_ne_nil _ _

theorem lowerStep_ne_nil (c : Char) (final : Bool) :
    (if c = 'Σ' then [if final then 'ς' else 'σ'] else lowerChar c) ≠ [] := by
  split
  · exact List.cons_ne_nil _ _
  · exact lowerChar_ne_nil c

/-- The last character of a lower-cased list is blank only if the last one of the list is. -/
theorem isBlank_getLast_lowerFrom {before cs : List Char} {d : Char}
    (hd : (lowerFrom before cs).getLast? = some d) (hblank : isBlank d = true) :
    ∃ c, cs.getLast? = some c ∧ isBlank c = true := by
  induction cs generalizing before with
  | nil => exact absurd hd (by simp [lowerFrom])
  | cons c rest ih =>
    rw [lowerFrom] at hd
    cases rest with
    | nil =>
      rw [lowerFrom, List.append_nil] at hd
      exact ⟨c, rfl, (settled_of_mem_lowerStep _ (List.mem_of_getLast? hd)).2 hblank⟩
    | cons c' rest =>
      -- the last image belongs to a later character, because no image is empty
      have hrest : lowerFrom (c :: before) (c' :: rest) ≠ [] := by
        rw [lowerFrom]
        exact List.append_ne_nil_of_left_ne_nil (lowerStep_ne_nil c' _) _
      rw [List.getLast?_append_of_ne_nil _ hrest] at hd
      obtain ⟨e, he, heblank⟩ := ih hd
      exact ⟨e, by rw [List.getLast?_cons_cons]; exact he, heblank⟩

theorem Trimmed.lowerFrom {before cs : List Char} (h : Trimmed cs) :
    Trimmed (lowerFrom before cs) := by
  constructor
  · intro d hd
    cases cs with
    | nil => exact absurd hd (by simp [Text.lowerFrom])
    | cons c rest =>
      rw [Text.lowerFrom, List.head?_append_of_ne_nil _ (lowerStep_ne_nil c _)] at hd
      have hback := (settled_of_mem_lowerStep _ (List.mem_of_head? hd)).2
      by_contra hblank
      rw [Bool.not_eq_false] at hblank
      exact absurd (hback hblank) (by rw [h.1 c rfl]; exact Bool.false_ne_true)
  · intro d hd
    by_contra hblank
    rw [Bool.not_eq_false] at hblank
    obtain ⟨c, hc, hcblank⟩ := isBlank_getLast_lowerFrom hd hblank
    exact absurd hcblank (by rw [h.2 c hc]; exact Bool.false_ne_true)

/-- **Trimming after lower-casing.** A trimmed text in lower case has nothing to trim. -/
theorem strip_lower_strip (s : String) : strip (lower (strip s)) = lower (strip s) := by
  unfold strip lower lowerChars
  rw [String.toList_ofList, String.toList_ofList,
    trim_of_trimmed (trimmed_trim s.toList).lowerFrom]

end IdentityService.Text
