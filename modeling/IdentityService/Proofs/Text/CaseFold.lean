import IdentityService.Proofs.Text.LowerCase
import IdentityService.Text.CaseFold

/-!
# Folding Keeps Blanks

Folding the case of a text takes no blank away and makes none.  So it does not matter whether a
text is folded or trimmed first.

## Main statements

- `foldTable_isApart`, `foldExpansions_isApart`: no character that is not blank folds to a blank.
- `foldChar_of_isBlank`, `foldChar_of_not_isBlank`: one character.
- `caseFold_strip`: folding and trimming in either order.
-/

namespace IdentityService.Text

variable {cs before after : List Char} {c d : Char}

/-! ## §1 One character -/

/-- **Shifts.** Their images are characters, and they lie apart from the blanks. -/
theorem foldTable_isApart :
    (foldTable.all fun s =>
      s.imageStretch.isScalar && blankTable.all s.imageStretch.isApart) = true := by
  decide +kernel

/-- **Expansions.** They are not empty, and no blank stands in them. -/
theorem foldExpansions_isApart :
    (foldExpansions.all fun entry =>
      !entry.2.isEmpty && entry.2.all fun n => !isBlank (Char.ofNat n)) = true := by
  decide +kernel

theorem foldChar_of_isBlank (h : isBlank c = true) : foldChar c = [c] := by
  have hall : ∀ s ∈ blankTable, ∀ n ∈ s.codePoints,
      foldChar (Char.ofNat n) = [Char.ofNat n] := by decide +kernel
  rw [isBlank_eq_inTable, inTable, List.any_eq_true] at h
  obtain ⟨s, hs, hcontains⟩ := h
  have hchar := hall s hs c.toNat (Stretch.mem_codePoints hcontains)
  rwa [Char.ofNat_toNat] at hchar

theorem not_isBlank_of_shifted? (h : shifted? foldTable c = some d) : isBlank d = false := by
  obtain ⟨s, hs, hcontains, rfl⟩ := exists_shift h
  have hrow := List.all_eq_true.mp foldTable_isApart s hs
  rw [Bool.and_eq_true] at hrow
  rw [isBlank_eq_inTable, inTable, List.any_eq_false]
  intro t ht
  have hapart := List.all_eq_true.mp hrow.2 t ht
  have himage := Shift.contains_imageStretch hcontains
  rw [Shift.toNat_image hrow.1 hcontains, Stretch.not_contains_of_isApart hapart himage]
  exact Bool.false_ne_true

/-- A character that is not blank folds to something, and to nothing blank. -/
theorem foldChar_of_not_isBlank (h : isBlank c = false) :
    foldChar c ≠ [] ∧ ∀ d ∈ foldChar c, isBlank d = false := by
  unfold foldChar mapWith
  split
  · rename_i entry hentry
    have hrow := List.all_eq_true.mp foldExpansions_isApart entry (List.mem_of_find?_eq_some hentry)
    rw [Bool.and_eq_true, Bool.not_eq_true', List.isEmpty_eq_false_iff, List.all_eq_true] at hrow
    refine ⟨by simpa using hrow.1, ?_⟩
    intro d hd
    obtain ⟨n, hn, rfl⟩ := List.mem_map.mp hd
    simpa using hrow.2 n hn
  · refine ⟨List.cons_ne_nil _ _, ?_⟩
    intro d hd
    obtain rfl := List.mem_singleton.mp hd
    cases hshift : shifted? foldTable c with
    | none => exact h
    | some e => exact not_isBlank_of_shifted? hshift

/-! ## §2 Whole texts -/

theorem flatMap_foldChar_of_isBlank (h : ∀ c ∈ cs, isBlank c = true) :
    cs.flatMap foldChar = cs := by
  induction cs with
  | nil => rfl
  | cons c rest ih =>
    obtain ⟨hc, hrest⟩ := List.forall_mem_cons.mp h
    rw [List.flatMap_cons, foldChar_of_isBlank hc, ih hrest]
    rfl

/-- Where a list is not blank at its ends, what it folds to is not either. -/
theorem Trimmed.flatMap_foldChar (h : Trimmed cs) : Trimmed (cs.flatMap foldChar) := by
  constructor
  · intro d hd
    cases cs with
    | nil => exact absurd hd (by simp)
    | cons c rest =>
      obtain ⟨hne, hnot⟩ := foldChar_of_not_isBlank (h.1 c rfl)
      rw [List.flatMap_cons, List.head?_append_of_ne_nil _ hne] at hd
      exact hnot d (List.mem_of_head? hd)
  · intro d hd
    obtain rfl | ⟨init, c, rfl⟩ := cs.eq_nil_or_concat
    · exact absurd hd (by simp)
    · obtain ⟨hne, hnot⟩ := foldChar_of_not_isBlank (h.2 c (by simp))
      rw [List.concat_eq_append, List.flatMap_append, List.flatMap_singleton,
        List.getLast?_append_of_ne_nil _ hne] at hd
      exact hnot d (List.mem_of_getLast? hd)

/-- Trimming takes the blanks away that stand around a list, and no more. -/
theorem trim_of_blanks_around (hbefore : ∀ c ∈ before, isBlank c = true)
    (hafter : ∀ c ∈ after, isBlank c = true) (h : Trimmed cs) :
    trim (before ++ cs ++ after) = cs := by
  have hafter' : ∀ c ∈ after.reverse, isBlank c = true := fun c hc =>
    hafter c (List.mem_reverse.mp hc)
  rw [trim, trimWhere, List.append_assoc, List.dropWhile_append_of_pos hbefore]
  cases cs with
  | nil =>
    rw [List.nil_append, List.dropWhile_eq_nil_iff.mpr hafter]
    rfl
  | cons c rest =>
    -- nothing is dropped from the front, and the blanks from the back
    have hfirst : (c :: rest ++ after).dropWhile isBlank = c :: rest ++ after :=
      dropWhile_of_head? h.1
    have hlast : (c :: rest).reverse.dropWhile isBlank = (c :: rest).reverse :=
      dropWhile_of_head? fun d hd => h.2 d (by rwa [List.head?_reverse] at hd)
    rw [hfirst, List.reverse_append, List.dropWhile_append_of_pos hafter', hlast,
      List.reverse_reverse]

/-- **Folding and trimming.** A text may be folded before it is trimmed, or after. -/
theorem caseFold_strip (s : String) : caseFold (strip s) = strip (caseFold s) := by
  obtain ⟨before, after, hbefore, hafter, hs⟩ := exists_blanks_around s.toList
  have hfold : s.toList.flatMap foldChar =
      before ++ (trim s.toList).flatMap foldChar ++ after := by
    nth_rewrite 1 [hs]
    rw [List.flatMap_append, List.flatMap_append, flatMap_foldChar_of_isBlank hbefore,
      flatMap_foldChar_of_isBlank hafter]
  rw [caseFold, strip, String.toList_ofList, strip, caseFold, String.toList_ofList, hfold,
    trim_of_blanks_around hbefore hafter (trimmed_trim _).flatMap_foldChar]

end IdentityService.Text
