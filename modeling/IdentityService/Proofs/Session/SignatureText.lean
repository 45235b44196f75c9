import IdentityService.Proofs.Session.Segments
import IdentityService.Session.Token
import Mathlib.Data.List.DropRight

/-!
# The Text of Signatures

Before anything of a token is read, the text behind its last point is read leniently and written
again.  Whatever the lenient reader makes of a text, only a canonical spelling is written as it was
read, so the check accepts the canonical spellings and refuses every other text in the same way.

## Main definitions

- `Signed.lastSegment`: the text behind the last point.

## Main statements

- `Signed.exists_segments_eq_iff`: the texts of three segments, told by counting points.
- `Signed.signature_text_exact`: the accepted texts, and the refusal of all others.
-/

namespace IdentityService.Signed

/-! ## §1 The last segment -/

/-- The text behind the last point. -/
def lastSegment (cs : List Char) : List Char := cs.rtakeWhile (· ≠ '.')

theorem length_segments (cs : List Char) : (segments cs).length = cs.count '.' + 1 := by
  induction cs with
  | nil => rfl
  | cons c cs ih =>
    rw [segments]
    by_cases hc : c = '.'
    · subst hc
      rw [if_pos rfl, List.length_cons, ih, List.count_cons_self]
    · -- the character joins the first segment, and there is one
      rw [if_neg hc, List.count_cons_of_ne hc]
      cases hsegs : segments cs with
      | nil => exact absurd hsegs (segments_ne_nil cs)
      | cons s more =>
        rw [hsegs] at ih
        exact ih

theorem lastSegment_joined {h p s : List Char} (hs : '.' ∉ s) :
    lastSegment (joined h p s) = s := by
  have hpointless : ∀ c ∈ s.reverse, decide (c ≠ '.') = true := by
    intro c hc
    apply decide_eq_true
    rintro rfl
    exact hs (List.mem_reverse.mp hc)
  -- read from the end, the text has the last point behind `s`
  have hreverse : (joined h p s).reverse = s.reverse ++ '.' :: (h ++ '.' :: p).reverse := by
    simp [joined]
  rw [lastSegment, List.rtakeWhile, hreverse, List.takeWhile_append_of_pos hpointless,
    List.takeWhile_cons_of_neg (by decide), List.append_nil, List.reverse_reverse]

/-- **Two points** make three segments, and the last of these stands behind the last point. -/
theorem exists_segments_eq_iff {cs s : List Char} :
    (∃ h p, segments cs = [h, p, s]) ↔ cs.count '.' = 2 ∧ lastSegment cs = s := by
  constructor
  · rintro ⟨h, p, hsegs⟩
    have hlength := length_segments cs
    rw [hsegs] at hlength
    obtain ⟨rfl, -, -, hs⟩ := segments_eq_three_iff.mp hsegs
    exact ⟨by simpa using hlength.symm, lastSegment_joined hs⟩
  · rintro ⟨hcount, rfl⟩
    have hlength : (segments cs).length = 3 := by rw [length_segments, hcount]
    obtain ⟨h, p, s, hsegs⟩ := List.length_eq_three.mp hlength
    obtain ⟨rfl, -, -, hs⟩ := segments_eq_three_iff.mp hsegs
    exact ⟨h, p, by rw [hsegs, lastSegment_joined hs]⟩

/-! ## §2 The check -/

theorem checkSignatureText_eq_ok_iff_count {token : List Char} :
    checkSignatureText token = .ok () ↔
      token.count '.' = 2 ∧ ∃ bytes, lastSegment token = Base64Url.encode bytes := by
  rw [checkSignatureText_eq_ok_iff]
  constructor
  · rintro ⟨h, p, bytes, hsegs⟩
    obtain ⟨hcount, hlast⟩ := exists_segments_eq_iff.mp ⟨h, p, hsegs⟩
    exact ⟨hcount, bytes, hlast⟩
  · rintro ⟨hcount, bytes, hlast⟩
    obtain ⟨h, p, hsegs⟩ := exists_segments_eq_iff.mpr ⟨hcount, hlast⟩
    exact ⟨h, p, bytes, hsegs⟩

/-- The check either accepts a text or refuses the token for one of three causes. -/
theorem checkSignatureText_eq_ok_or_error (token : List Char) :
    checkSignatureText token = .ok () ∨
      ∃ f ∈ [TokenFault.segmentCount, .signatureMalformed, .signatureNotCanonical],
        checkSignatureText token = .error f := by
  unfold checkSignatureText
  split
  · simp only
    split
    · exact .inr ⟨_, by simp, rfl⟩
    · split
      · exact .inl rfl
      · exact .inr ⟨_, by simp, rfl⟩
  · exact .inr ⟨_, by simp, rfl⟩

/-- **Signatures in writing.** For every token the check passes exactly when the token has two
points and the text behind the last one is the canonical spelling of some bytes, which is told from
its characters: letters of the alphabet, not one letter more than full groups of four, and no bits
set behind the last whole byte.  For every other token it raises the error for an invalid token and
nothing else.  The reader that the check uses gives back the bytes that were written, however many
they are. -/
theorem signature_text_exact (token : String) :
    (TokenFault.refused (checkSignatureText token.toList) = .ok () ↔
      token.toList.count '.' = 2 ∧
        ∃ bytes, lastSegment token.toList = Base64Url.encode bytes) ∧
    ((∃ bytes, lastSegment token.toList = Base64Url.encode bytes) ↔
      Base64Url.IsCanonical (lastSegment token.toList)) ∧
    ((∃ f ∈ [TokenFault.segmentCount, .signatureMalformed, .signatureNotCanonical],
        TokenFault.refused (checkSignatureText token.toList) =
          .error (.service (.tokenInvalid ("Invalid token: " ++ f.cause)))) ↔
      ¬ (token.toList.count '.' = 2 ∧
        ∃ bytes, lastSegment token.toList = Base64Url.encode bytes)) ∧
    ∀ bytes, Base64Url.decodeLeniently? (Base64Url.encode bytes) = some bytes := by
  rw [← checkSignatureText_eq_ok_iff_count]
  refine ⟨?_, ?_, ?_, Base64Url.decodeLeniently?_encode⟩
  · rcases checkSignatureText_eq_ok_or_error token.toList with hok | ⟨f, -, herror⟩
    · simp [hok, TokenFault.refused]
    · simp [herror, TokenFault.refused]
  · rw [← Base64Url.exists_encode_eq_iff]
    exact exists_congr fun bytes => eq_comm
  · rcases checkSignatureText_eq_ok_or_error token.toList with hok | ⟨f, hf, herror⟩
    · simp [hok, TokenFault.refused]
    · refine iff_of_true ⟨f, hf, ?_⟩ (by simp [herror])
      rw [herror]
      rfl

-- two letters with four bits set behind the first byte, a padding sign, a letter outside ASCII
example : ["h.p.QQ", "h.p.QR", "h.p.QQ==", "h.p.é", "h.p."].map (fun token =>
    (checkSignatureText token.toList).toOption.isSome) = [true, false, false, false, true] := by
  decide +kernel

end IdentityService.Signed
