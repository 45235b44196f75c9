import IdentityService.Proofs.Bytes.Base64Url
import IdentityService.Proofs.Schema.Checked
import IdentityService.Session.Signed

/-!
# Segments and Their Contents

How a text is cut into segments, what a segment spells, and when each check of a signed
object succeeds.  The check of the spelling reads leniently and writes back: it accepts
the canonical spelling of some bytes and no other text.

## Main statements

- `segments_eq_three_iff`: the texts that are three segments.
- `checkSignatureText_eq_ok_iff`: the spellings that are accepted.
- `split_eq_ok_iff`: the tokens whose header is in order.
- `split_eq_tooDeep_iff`, `onlyFaults_split`: what becomes of the others.
- `Machine.readObject_eq_error`: what becomes of bytes that are no object.
- `signature_eq_of_checks`: the two checks of the signature together leave one spelling.
-/

namespace IdentityService

/-! ## §1 Objects in bytes -/

/-- A fault refuses a token. -/
def IsTokenFault (f : Fault) : Prop := ∃ t : TokenFault, f = .service t.error

namespace TokenFault

variable {α : Type} {r : Except TokenFault α}

theorem refused_eq_ok_iff {a : α} : refused r = .ok a ↔ r = .ok a := by
  cases r <;> simp [refused]

theorem onlyFaults_refused (r : Except TokenFault α) : OnlyFaults IsTokenFault (refused r) := by
  cases r with
  | ok a => exact onlyFaults_ok a
  | error t => exact onlyFaults_error ⟨t, rfl⟩

theorem refused_ne_tooDeep : refused r ≠ .error .tooDeep := by
  intro h
  obtain ⟨t, ht⟩ := onlyFaults_refused r _ h
  exact absurd ht (by simp)

end TokenFault

namespace Machine

variable {machine : Machine} {cause : TokenFault} {bytes : List UInt8}

theorem readObject_eq_ok_iff {fs : Fields} :
    machine.readObject cause bytes = .ok fs ↔ Json.ofBytes bytes = .ok (.object fs) := by
  unfold readObject
  cases hread : Json.ofBytes bytes with
  | error fault => simp
  | ok v => cases v <;> simp

/-- **Unread objects.** Bytes that are no object are refused for the cause, or their depth gets
past the library. -/
theorem readObject_eq_error {f : Fault} (h : machine.readObject cause bytes = .error f) :
    f = .service cause.error ∨
      f = .tooDeep ∧ machine.refusesDepth = false ∧ Json.ofBytes bytes = .error .tooDeep := by
  unfold readObject at h
  split at h
  · exact absurd h (by simp)
  · exact .inl (Except.error.inj h).symm
  · rename_i fault hread
    cases fault with
    | unreadable => exact .inl (Except.error.inj h).symm
    | tooDeep =>
      cases hdeep : machine.refusesDepth <;> simp only [unread, hdeep] at h
      · exact .inr ⟨(Except.error.inj h).symm, rfl, hread⟩
      · exact .inl (Except.error.inj h).symm

theorem readObject_eq_tooDeep_iff :
    machine.readObject cause bytes = .error .tooDeep ↔
      machine.refusesDepth = false ∧ Json.ofBytes bytes = .error .tooDeep := by
  constructor
  · intro h
    rcases readObject_eq_error h with hcause | ⟨-, hdeep⟩
    · exact absurd hcause (by simp)
    · exact hdeep
  · rintro ⟨hlets, hread⟩
    simp [readObject, unread, hread, hlets]

end Machine

namespace Signed

/-! ## §2 Cutting -/

/-- Three segments with points between them. -/
def joined (h p s : List Char) : List Char := h ++ '.' :: p ++ '.' :: s

theorem segments_of_notMem {s : List Char} (h : '.' ∉ s) : segments s = [s] := by
  induction s with
  | nil => rfl
  | cons c s ih =>
    rw [List.mem_cons, not_or] at h
    rw [segments, if_neg (Ne.symm h.1), ih h.2]

theorem segments_append_point {s : List Char} (h : '.' ∉ s) (rest : List Char) :
    segments (s ++ '.' :: rest) = s :: segments rest := by
  induction s with
  | nil => rw [List.nil_append, segments, if_pos rfl]
  | cons c s ih =>
    rw [List.mem_cons, not_or] at h
    rw [List.cons_append, segments, if_neg (Ne.symm h.1), ih h.2]

theorem segments_ne_nil (cs : List Char) : segments cs ≠ [] := by
  cases cs with
  | nil => simp [segments]
  | cons c cs =>
    rw [segments]
    split
    · simp
    · split <;> simp

/-- Segments hold no point, and the points between them give the text back. -/
theorem point_notMem_segments (cs : List Char) :
    (∀ s ∈ segments cs, '.' ∉ s) ∧ ['.'].intercalate (segments cs) = cs := by
  induction cs with
  | nil => simp [segments, List.intercalate]
  | cons c cs ih =>
    obtain ⟨hfree, hjoin⟩ := ih
    cases hsegs : segments cs with
    | nil => exact absurd hsegs (segments_ne_nil cs)
    | cons s more =>
      rw [hsegs] at hfree hjoin
      rw [segments]
      split
      · rename_i hc
        subst hc
        rw [hsegs]
        refine ⟨?_, ?_⟩
        · intro t ht
          rcases List.mem_cons.mp ht with rfl | ht
          · simp
          · exact hfree t ht
        · rw [List.intercalate_cons_cons, hjoin]
          rfl
      · rename_i hc
        simp only [hsegs]
        refine ⟨?_, ?_⟩
        · intro t ht
          rcases List.mem_cons.mp ht with rfl | ht
          · rw [List.mem_cons, not_or]
            exact ⟨Ne.symm hc, hfree s (List.mem_cons_self ..)⟩
          · exact hfree t (List.mem_cons_of_mem _ ht)
        · rw [← hjoin]
          cases more with
          | nil => simp
          | cons t more => simp [List.intercalate_cons_cons]

/-- **Three segments.** A text has the segments `h`, `p` and `s` exactly if it is these
three with points between them and none inside. -/
theorem segments_eq_three_iff {cs h p s : List Char} :
    segments cs = [h, p, s] ↔ cs = joined h p s ∧ '.' ∉ h ∧ '.' ∉ p ∧ '.' ∉ s := by
  constructor
  · intro hsegs
    obtain ⟨hfree, hjoin⟩ := point_notMem_segments cs
    rw [hsegs] at hfree hjoin
    refine ⟨?_, hfree h (by simp), hfree p (by simp), hfree s (by simp)⟩
    rw [← hjoin, joined]
    simp [List.intercalate]
  · rintro ⟨rfl, hh, hp, hs⟩
    rw [joined, List.append_assoc, List.cons_append, segments_append_point hh,
      segments_append_point hp, segments_of_notMem hs]

/-! ## §3 The spelling of signatures -/

theorem asciiOnly_encode (bytes : List UInt8) :
    asciiOnly (Base64Url.encode bytes) = Base64Url.encode bytes := by
  rw [asciiOnly, List.map_congr_left (g := id), List.map_id]
  intro c hc
  exact if_pos (Base64Url.ne_of_inAlphabet (Base64Url.inAlphabet_of_mem_encode hc)).2.2.2

/-- The question mark is no letter of the alphabet, so a character outside ASCII is not
taken for another. -/
theorem eq_of_asciiOnly {s : List Char} {bytes : List UInt8}
    (h : asciiOnly s = Base64Url.encode bytes) : s = Base64Url.encode bytes := by
  rw [← h, asciiOnly]
  symm
  rw [List.map_congr_left (g := id), List.map_id]
  intro c hc
  have hmem : (if c.toNat < 128 then c else '?') ∈ Base64Url.encode bytes := by
    rw [← h]
    exact List.mem_map_of_mem hc
  have hletter := Base64Url.ne_of_inAlphabet (Base64Url.inAlphabet_of_mem_encode hmem)
  by_cases hascii : c.toNat < 128
  · exact if_pos hascii
  · rw [if_neg hascii] at hletter
    exact absurd rfl hletter.2.2.1

/-- **Canonical spelling.** The check of the spelling accepts three segments of which the
last is the canonical spelling of some bytes. -/
theorem checkSignatureText_eq_ok_iff {token : List Char} :
    checkSignatureText token = .ok () ↔
      ∃ h p bytes, segments token = [h, p, Base64Url.encode bytes] := by
  constructor
  · intro hcheck
    rw [checkSignatureText] at hcheck
    split at hcheck
    · rename_i h p s hsegs
      simp only at hcheck
      split at hcheck
      · exact absurd hcheck (by simp)
      · rename_i bytes hread
        split at hcheck
        · rename_i hback
          exact ⟨h, p, bytes, by rw [hsegs, eq_of_asciiOnly hback.symm]⟩
        · exact absurd hcheck (by simp)
    · exact absurd hcheck (by simp)
  · rintro ⟨h, p, bytes, hsegs⟩
    simp only [checkSignatureText, hsegs, asciiOnly_encode, Base64Url.decodeLeniently?_encode,
      if_pos]

/-- The two checks of the signature leave one spelling: that of the digest. -/
theorem signature_eq_of_checks {key : List UInt8} {token : List Char}
    (htext : checkSignatureText token = .ok ()) (hcheck : checkSignature key token = .ok ()) :
    ∃ h p, segments token = [h, p, signature key h p] := by
  obtain ⟨h, p, bytes, hsegs⟩ := checkSignatureText_eq_ok_iff.mp htext
  simp only [checkSignature, hsegs, Base64Url.decode?_encode] at hcheck
  split at hcheck
  · rename_i hdigest
    refine ⟨h, p, ?_⟩
    rw [hsegs, Option.some.inj hdigest, signature]
  · exact absurd hcheck (by simp)

theorem checkSignature_signature {key : List UInt8} {token h p : List Char}
    (hsegs : segments token = [h, p, signature key h p]) :
    checkSignature key token = .ok () := by
  simp only [checkSignature, hsegs, signature, Base64Url.decode?_encode, if_pos]

/-! ## §4 Objects in segments -/

/-- A segment spells an object: strictly read, its bytes are the text of this object. -/
def Spells (segment : List Char) (fs : Fields) : Prop :=
  ∃ bytes, Base64Url.decode? segment = some bytes ∧ Json.ofBytes bytes = .ok (.object fs)

/-- A segment spells a text that is nested deeper than the interpreter goes. -/
def IsTooDeep (segment : List Char) : Prop :=
  ∃ bytes, Base64Url.decode? segment = some bytes ∧ Json.ofBytes bytes = .error .tooDeep

end Signed

/-- The library stops at a segment: either it refuses a text that is too deep, as every other
unreadable one, or the segment spells none. -/
def Machine.StopsAt (machine : Machine) (segment : List Char) : Prop :=
  machine.refusesDepth = true ∨ ¬ Signed.IsTooDeep segment

theorem Machine.not_stopsAt_iff {machine : Machine} {segment : List Char} :
    ¬ machine.StopsAt segment ↔ machine.refusesDepth = false ∧ Signed.IsTooDeep segment := by
  simp [StopsAt]

namespace Signed

theorem Spells.unique {segment : List Char} {fs gs : Fields} (hf : Spells segment fs)
    (hg : Spells segment gs) : fs = gs := by
  obtain ⟨bytes, hbytes, hfs⟩ := hf
  obtain ⟨bytes', hbytes', hgs⟩ := hg
  rw [hbytes, Option.some.injEq] at hbytes'
  rw [← hbytes', hfs, Except.ok.injEq, Json.object.injEq] at hgs
  exact hgs

/-- A text that is too deep is no object. -/
theorem Spells.not_isTooDeep {segment : List Char} {fs : Fields} (hf : Spells segment fs) :
    ¬ IsTooDeep segment := by
  obtain ⟨bytes, hbytes, hfs⟩ := hf
  rintro ⟨bytes', hbytes', hdeep⟩
  rw [hbytes, Option.some.injEq] at hbytes'
  rw [← hbytes', hfs] at hdeep
  exact absurd hdeep (by simp)

theorem readHeader_eq_ok_iff {machine : Machine} {segment : List Char} {fs : Fields} :
    readHeader machine segment = .ok fs ↔ Spells segment fs := by
  rw [readHeader, Spells]
  cases hbytes : Base64Url.decode? segment with
  | none => simp
  | some bytes => simp [Machine.readObject_eq_ok_iff]

theorem readHeader_eq_tooDeep_iff {machine : Machine} {segment : List Char} :
    readHeader machine segment = .error .tooDeep ↔ ¬ machine.StopsAt segment := by
  rw [Machine.not_stopsAt_iff, readHeader, IsTooDeep]
  cases hbytes : Base64Url.decode? segment with
  | none => simp
  | some bytes => simp [Machine.readObject_eq_tooDeep_iff]

/-! ## §5 Headers -/

theorem checkAlgorithm_eq_ok_iff {header : Fields} :
    checkAlgorithm header = .ok () ↔ header.get? "alg" = some (.text algorithm) := by
  rw [checkAlgorithm]
  cases header.get? "alg" with
  | none => simp
  | some v => by_cases hv : v = .text algorithm <;> simp [hv]

/-- A payload that is not encoded is refused. -/
theorem isUnencoded_of_checkExtensions {header : Fields}
    (h : checkExtensions header = .ok ()) : isUnencoded header = false := by
  rw [checkExtensions] at h
  obtain ⟨-, -, h⟩ := bind_eq_ok_iff.mp h
  obtain ⟨-, -, h⟩ := bind_eq_ok_iff.mp h
  rw [checkEncoded] at h
  by_cases hplain : isUnencoded header
  · rw [if_pos hplain] at h
    split at h <;> exact absurd h (by simp)
  · exact eq_false_of_ne_true hplain

theorem payloadBytes_eq_ok_iff {header : Fields} {segment : List Char} {bytes : List UInt8}
    (hcoded : isUnencoded header = false) :
    payloadBytes header segment = .ok bytes ↔ Base64Url.decode? segment = some bytes := by
  rw [payloadBytes, hcoded]
  cases Base64Url.decode? segment <;> simp

theorem checkHeader_eq_ok_iff {header : Fields} {p : List Char} {bytes : List UInt8} :
    checkHeader header p = .ok bytes ↔
      Base64Url.decode? p = some bytes ∧ checkExtensions header = .ok () ∧
        header.get? "alg" = some (.text algorithm) := by
  simp only [checkHeader, bind_eq_ok_iff, Except.ok.injEq]
  constructor
  · rintro ⟨_, hbytes, _, hext, _, halg, rfl⟩
    exact ⟨(payloadBytes_eq_ok_iff (isUnencoded_of_checkExtensions hext)).mp hbytes, hext,
      checkAlgorithm_eq_ok_iff.mp halg⟩
  · rintro ⟨hbytes, hext, halg⟩
    exact ⟨bytes, (payloadBytes_eq_ok_iff (isUnencoded_of_checkExtensions hext)).mpr hbytes, (),
      hext, (), checkAlgorithm_eq_ok_iff.mpr halg, rfl⟩

/-- **Opening.** A token opens when its header segment spells an object that names the only
algorithm and asks for nothing unknown, and its payload segment spells bytes. -/
theorem split_eq_ok_iff {machine : Machine} {token h p s : List Char}
    (hsegs : segments token = [h, p, s]) {header : Fields} {bytes : List UInt8} :
    split machine token = .ok (header, bytes) ↔
      Spells h header ∧ Base64Url.decode? p = some bytes ∧ checkExtensions header = .ok () ∧
        header.get? "alg" = some (.text algorithm) := by
  simp only [split, hsegs, bind_eq_ok_iff, readHeader_eq_ok_iff, TokenFault.refused_eq_ok_iff,
    checkHeader_eq_ok_iff, Except.ok.injEq, Prod.mk.injEq]
  constructor
  · rintro ⟨_, hheader, _, ⟨hbytes, hext, halg⟩, rfl, rfl⟩
    exact ⟨hheader, hbytes, hext, halg⟩
  · rintro ⟨hheader, hbytes, hext, halg⟩
    exact ⟨header, hheader, bytes, ⟨hbytes, hext, halg⟩, rfl, rfl⟩

/-- The depth of a header gets past the library before the header is looked at. -/
theorem split_eq_tooDeep_iff {machine : Machine} {token h p s : List Char}
    (hsegs : segments token = [h, p, s]) :
    split machine token = .error .tooDeep ↔ ¬ machine.StopsAt h := by
  simp [split, hsegs, bind_eq_error_iff, readHeader_eq_tooDeep_iff, TokenFault.refused_ne_tooDeep]

/-- A token that does not open is refused, or its depth gets past the library. -/
theorem onlyFaults_split (machine : Machine) (token : List Char) :
    OnlyFaults (fun f => IsTokenFault f ∨ f = .tooDeep) (split machine token) := by
  unfold split
  split
  · rename_i h p s hsegs
    apply OnlyFaults.bind
    · intro f hf
      unfold readHeader at hf
      split at hf
      · exact .inl ⟨_, (Except.error.inj hf).symm⟩
      · rcases Machine.readObject_eq_error hf with rfl | ⟨rfl, -⟩
        · exact .inl ⟨_, rfl⟩
        · exact .inr rfl
    · intro header
      apply OnlyFaults.bind
      · exact fun f hf => .inl (TokenFault.onlyFaults_refused _ f hf)
      · exact fun bytes => onlyFaults_ok _
  · exact onlyFaults_error (.inl ⟨_, rfl⟩)

end Signed

end IdentityService
