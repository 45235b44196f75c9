import IdentityService.Proofs.Bytes.Unicode
import IdentityService.Proofs.Json.Scalars

/-!
# Compact Text Is Read Back

The reader inverts the compact writer on regular values: those without fractions, whose
objects name no field twice and whose nesting stays within the reader's limit.  The length
of the text is fuel enough.

## Main statements

- `readValue_compact`: a regular value is read off the front of a text.
- `ofChars_compact`: a regular value is read back from its compact text.
- `ofBytes_compact`: a regular object is read back from the bytes of its compact text.
-/

namespace IdentityService

namespace Json

/-! ## §1 Regular values -/

mutual

/-- A value is regular within a depth when it holds no fraction, no object names a field twice, and
brackets are nested at most so deep. -/
def isRegular : Nat → Json → Bool
  | _, fraction _ => false
  | 0, array _ => false
  | depth + 1, array items => areRegular depth items
  | 0, object _ => false
  | depth + 1, object fields => areRegularFields depth fields
  | _, _ => true

/-- Whether all items are regular within a depth. -/
def areRegular : Nat → List Json → Bool
  | _, [] => true
  | depth, v :: rest => isRegular depth v && areRegular depth rest

/-- Whether all fields are regular within a depth, and no two have the same name. -/
def areRegularFields : Nat → List (String × Json) → Bool
  | _, [] => true
  | depth, (k, v) :: rest =>
      isRegular depth v && !(rest.map (·.1)).contains k && areRegularFields depth rest

end

theorem areRegular_iff {depth : Nat} {items : List Json} :
    areRegular depth items = true ↔ ∀ v ∈ items, isRegular depth v = true := by
  induction items with
  | nil => simp [areRegular]
  | cons v rest ih => simp [areRegular, ih]

theorem isRegular_raw (depth : Nat) (s : RawText) : isRegular depth (raw s) = true := by
  cases s <;> simp [raw, isRegular]

theorem areRegular_raws (depth : Nat) (ss : List RawText) :
    areRegular depth (ss.map raw) = true := by
  refine areRegular_iff.mpr fun v hv => ?_
  obtain ⟨s, -, rfl⟩ := List.mem_map.mp hv
  exact isRegular_raw depth s

/-! ## §2 Between tokens -/

/-- No space is skipped before a character that is none. -/
theorem skipSpace_cons {c : Char} (h : 33 ≤ c.toNat) (cs : List Char) :
    skipSpace (c :: cs) = c :: cs := by
  have hspace : ∀ d : Char, d.toNat < 33 → c ≠ d := by
    rintro d hd rfl
    omega
  rw [skipSpace, List.dropWhile_cons_of_neg]
  simp [hspace ' ' (by decide), hspace '\t' (by decide), hspace '\n' (by decide),
    hspace '\r' (by decide)]

/-- A written value starts with a visible character that closes no array. -/
theorem exists_compact {depth : Nat} {v : Json} (h : isRegular depth v = true) :
    ∃ c cs, compact v = c :: cs ∧ 33 ≤ c.toNat ∧ c ≠ ']' := by
  cases v with
  | null => exact ⟨'n', _, rfl, by decide, by decide⟩
  | bool b => cases b <;> exact ⟨_, _, rfl, by decide, by decide⟩
  | int n =>
    obtain ⟨c, ds, hdigits, hc⟩ := exists_toDigits n.natAbs
    simp only [compact, integerText, hdigits]
    split
    · exact ⟨'-', _, rfl, by decide, by decide⟩
    · refine ⟨c, ds, rfl, by omega, ?_⟩
      rintro rfl
      simp at hc
  | fraction x => simp [isRegular] at h
  | text s => exact ⟨'"', _, rfl, by decide, by decide⟩
  | brokenText b => exact ⟨'"', _, rfl, by decide, by decide⟩
  | array items => exact ⟨'[', _, rfl, by decide, by decide⟩
  | object fields => exact ⟨'{', _, rfl, by decide, by decide⟩

/-! ## §3 Reading what was written -/

/-- A character that opens no literal, array or object starts a scalar. -/
private theorem readValue_scalar {c : Char} (hquote : c ≠ '"') (hbracket : c ≠ '[')
    (hbrace : c ≠ '{') (fuel depth : Nat) (cs : List Char) :
    readValue (fuel + 1) depth (c :: cs) = readable (readScalar? (c :: cs)) := by
  rw [readValue]
  all_goals
    intro rest heq
    obtain ⟨hchar, -⟩ := List.cons.inj heq
    contradiction

private theorem readValue_integer (n : Int) (fuel depth : Nat) {rest : List Char}
    (hrest : endsNumber rest = true) :
    readValue (fuel + 1) depth (integerText n ++ rest) = .ok (int n, rest) := by
  obtain ⟨c, ds, hdigits, hc⟩ := exists_toDigits n.natAbs
  have hne : ∀ d : Char, d.toNat < 48 ∨ 57 < d.toNat → c ≠ d := by
    rintro d hd rfl
    omega
  have hread := readScalar?_integerText n hrest
  rw [integerText, hdigits] at hread ⊢
  by_cases hneg : n < 0
  · rw [if_pos hneg, List.cons_append] at hread ⊢
    rw [readValue_scalar (by decide) (by decide) (by decide), hread]
    rfl
  · rw [if_neg hneg, List.cons_append] at hread ⊢
    rw [readValue_scalar (hne _ (by decide)) (hne _ (by decide)) (hne _ (by decide)), hread]
    rfl

/-- A literal is read off the front of a text. -/
private theorem readValue_literal (s : String) (fuel depth : Nat) (rest : List Char) :
    readValue (fuel + 1) depth (literal s ++ rest) = .ok (text s, rest) := by
  rw [literal, List.cons_append, List.cons_append, List.append_assoc, readValue,
    List.singleton_append, readUnits?_literal]
  simp only [readable, bind, Except.bind, ofUnits_units]

private theorem readValue_brokenLiteral (b : BrokenText) (fuel depth : Nat) (rest : List Char) :
    readValue (fuel + 1) depth (brokenLiteral b ++ rest) = .ok (brokenText b, rest) := by
  rw [brokenLiteral, List.cons_append, List.cons_append, List.append_assoc, readValue,
    List.singleton_append, readUnits?_brokenLiteral]
  simp only [readable, bind, Except.bind, ofUnits_broken]

private theorem exists_compactItems {depth : Nat} {v : Json} (h : isRegular depth v = true)
    (items : List Json) :
    ∃ c cs, compactItems (v :: items) = c :: cs ∧ 33 ≤ c.toNat ∧ c ≠ ']' := by
  obtain ⟨c, cs, hcs, hvisible, hne⟩ := exists_compact h
  cases items with
  | nil => exact ⟨c, cs, by rw [compactItems, hcs], hvisible, hne⟩
  | cons w more =>
    exact ⟨c, cs ++ ',' :: compactItems (w :: more), by rw [compactItems, hcs]; rfl, hvisible, hne⟩

private theorem exists_compactFields (k : String) (v : Json) (fields : Fields) :
    ∃ cs, compactFields ((k, v) :: fields) = '"' :: cs := by
  cases fields with
  | nil => exact ⟨_, by rw [compactFields, literal]; rfl⟩
  | cons f more => exact ⟨_, by rw [compactFields, literal]; rfl⟩

/-! ### One step of the reader inside brackets -/

private theorem readValue_array {c : Char} (hvisible : 33 ≤ c.toNat) (hne : c ≠ ']')
    {fuel depth : Nat} {cs rest : List Char} {items : List Json}
    (h : readItems fuel depth (c :: cs) = .ok (items, rest)) :
    readValue (fuel + 1) (depth + 1) ('[' :: c :: cs) = .ok (array items, rest) := by
  rw [readValue, skipSpace_cons hvisible]
  split
  · rename_i heq
    exact absurd (List.cons.inj heq).1 hne
  · rw [h]
    rfl

private theorem readValue_object {fuel depth : Nat} {cs rest : List Char} {fields : Fields}
    (h : readFields fuel depth [] ('"' :: cs) = .ok (fields, rest)) :
    readValue (fuel + 1) (depth + 1) ('{' :: '"' :: cs) = .ok (object fields, rest) := by
  rw [readValue, skipSpace_cons (by decide)]
  split
  · rename_i heq
    exact absurd (List.cons.inj heq).1 (by decide)
  · rw [h]
    rfl

private theorem readItems_last {fuel depth : Nat} {cs rest : List Char} {v : Json}
    (h : readValue fuel depth cs = .ok (v, ']' :: rest)) :
    readItems (fuel + 1) depth cs = .ok ([v], rest) := by
  rw [readItems, h]
  simp only [bind, Except.bind, skipSpace_cons (c := ']') (by decide)]

private theorem readItems_next {c : Char} (hvisible : 33 ≤ c.toNat) {fuel depth : Nat}
    {cs more rest : List Char} {v : Json} {items : List Json}
    (h : readValue fuel depth cs = .ok (v, ',' :: c :: more))
    (hitems : readItems fuel depth (c :: more) = .ok (items, rest)) :
    readItems (fuel + 1) depth cs = .ok (v :: items, rest) := by
  rw [readItems, h]
  simp only [bind, Except.bind, skipSpace_cons (c := ',') (by decide),
    skipSpace_cons hvisible, hitems]

/-- The last field of an object is read with its name. -/
private theorem readFields_last {c : Char} (hvisible : 33 ≤ c.toNat) (k : String)
    {fuel depth : Nat} {before : Fields} {cs rest : List Char} {v : Json}
    (h : readValue fuel depth (c :: cs) = .ok (v, '}' :: rest)) :
    readFields (fuel + 1) depth before (literal k ++ ':' :: c :: cs)
      = .ok (before.set k v, rest) := by
  rw [literal, List.cons_append, List.cons_append, List.append_assoc, readFields,
    List.singleton_append, readUnits?_literal]
  simp only [readable, bind, Except.bind, skipSpace_cons (c := ':') (by decide),
    skipSpace_cons hvisible, h, skipSpace_cons (c := '}') (by decide), nameOfUnits_units]

/-- A field with a name behind it is read, and the reader goes on with this name. -/
private theorem readFields_next {c : Char} (hvisible : 33 ≤ c.toNat) (k : String)
    {fuel depth : Nat} {before : Fields} {cs more : List Char} {v : Json}
    (h : readValue fuel depth (c :: cs) = .ok (v, ',' :: '"' :: more)) :
    readFields (fuel + 1) depth before (literal k ++ ':' :: c :: cs)
      = readFields fuel depth (before.set k v) ('"' :: more) := by
  rw [literal, List.cons_append, List.cons_append, List.append_assoc, readFields,
    List.singleton_append, readUnits?_literal]
  simp only [readable, bind, Except.bind, skipSpace_cons (c := ':') (by decide),
    skipSpace_cons hvisible, h, skipSpace_cons (c := ',') (by decide),
    skipSpace_cons (c := '"') (by decide), nameOfUnits_units]

-- By recursion on the value, as the writer: every step of the reader costs one unit of fuel, and
-- every value, item and field has at least one character of its own to pay for it.
mutual

/-- **Reading what was written.** A regular value is read off the front of a text, and the
length of its own text is fuel enough. -/
theorem readValue_compact : ∀ (v : Json) (fuel depth : Nat) (rest : List Char),
    isRegular depth v = true → (compact v).length ≤ fuel → endsNumber rest = true →
    readValue fuel depth (compact v ++ rest) = .ok (v, rest)
  | _, 0, _, _, hregular, hfuel, _ => by
      obtain ⟨c, cs, hcs, -⟩ := exists_compact hregular
      rw [hcs] at hfuel
      simp at hfuel
  | null, fuel + 1, depth, rest, _, _, _ =>
      readValue_scalar (by decide) (by decide) (by decide) fuel depth _
  | bool true, fuel + 1, depth, rest, _, _, _ =>
      readValue_scalar (by decide) (by decide) (by decide) fuel depth _
  | bool false, fuel + 1, depth, rest, _, _, _ =>
      readValue_scalar (by decide) (by decide) (by decide) fuel depth _
  | int n, fuel + 1, depth, rest, _, _, hrest => by
      rw [compact]
      exact readValue_integer n fuel depth hrest
  | fraction x, _ + 1, _, _, hregular, _, _ => by simp [isRegular] at hregular
  | text s, fuel + 1, depth, rest, _, _, _ => by
      rw [compact]
      exact readValue_literal s fuel depth rest
  | brokenText b, fuel + 1, depth, rest, _, _, _ => by
      rw [compact]
      exact readValue_brokenLiteral b fuel depth rest
  | array items, fuel + 1, 0, _, hregular, _, _ => by simp [isRegular] at hregular
  | array [], fuel + 1, depth + 1, rest, _, _, _ => rfl
  | array (v :: items), fuel + 1, depth + 1, rest, hregular, hfuel, _ => by
      rw [isRegular] at hregular
      have hlength : (compactItems (v :: items)).length < fuel := by
        simp only [compact, List.length_append, List.length_cons, List.length_nil] at hfuel
        omega
      have hv : isRegular depth v = true := areRegular_iff.mp hregular v (List.mem_cons_self ..)
      -- the reader looks ahead for an empty array, which the first item rules out
      have hitems := readItems_compact (v :: items) fuel depth rest (by simp) hregular hlength
      obtain ⟨c, cs, hcs, hvisible, hne⟩ := exists_compactItems hv items
      rw [hcs, List.cons_append] at hitems
      rw [compact, hcs, List.append_assoc]
      exact readValue_array hvisible hne hitems
  | object _, fuel + 1, 0, _, hregular, _, _ => by simp [isRegular] at hregular
  | object [], fuel + 1, depth + 1, rest, _, _, _ => rfl
  | object ((k, v) :: fields), fuel + 1, depth + 1, rest, hregular, hfuel, _ => by
      rw [isRegular] at hregular
      have hlength : (compactFields ((k, v) :: fields)).length < fuel := by
        simp only [compact, List.length_append, List.length_cons, List.length_nil] at hfuel
        omega
      have hfields := readFields_compact ((k, v) :: fields) [] fuel depth rest (by simp)
        hregular (by simp) hlength
      obtain ⟨cs, hcs⟩ := exists_compactFields k v fields
      rw [hcs, List.cons_append] at hfields
      rw [compact, hcs, List.append_assoc]
      exact readValue_object hfields

/-- The items of an array are read up to its closing bracket. -/
theorem readItems_compact : ∀ (items : List Json) (fuel depth : Nat) (rest : List Char),
    items ≠ [] → areRegular depth items = true → (compactItems items).length < fuel →
    readItems fuel depth (compactItems items ++ ']' :: rest) = .ok (items, rest)
  | [], _, _, _, hne, _, _ => absurd rfl hne
  | _ :: _, 0, _, _, _, _, hfuel => absurd hfuel (Nat.not_lt_zero _)
  | [v], fuel + 1, depth, rest, _, hregular, hfuel => by
      rw [areRegular, Bool.and_eq_true] at hregular
      rw [compactItems] at hfuel ⊢
      exact readItems_last
        (readValue_compact v fuel depth (']' :: rest) hregular.1 (by omega) rfl)
  | v :: w :: items, fuel + 1, depth, rest, _, hregular, hfuel => by
      rw [areRegular, Bool.and_eq_true] at hregular
      rw [compactItems, List.length_append, List.length_cons] at hfuel
      have hw : isRegular depth w = true :=
        areRegular_iff.mp hregular.2 w (List.mem_cons_self ..)
      have hitems := readItems_compact (w :: items) fuel depth rest (by simp) hregular.2
        (by omega)
      obtain ⟨c, cs, hcs, hvisible, -⟩ := exists_compactItems hw items
      have hv := readValue_compact v fuel depth
        (',' :: (compactItems (w :: items) ++ ']' :: rest)) hregular.1 (by omega) rfl
      rw [hcs, List.cons_append] at hv hitems
      rw [compactItems, List.append_assoc, hcs]
      exact readItems_next hvisible hv hitems

/-- The fields of an object are read up to its closing brace, behind those before them. -/
theorem readFields_compact : ∀ (fields before : Fields) (fuel depth : Nat) (rest : List Char),
    fields ≠ [] → areRegularFields depth fields = true →
    (∀ f ∈ fields, f.1 ∉ before.map (·.1)) → (compactFields fields).length < fuel →
    readFields fuel depth before (compactFields fields ++ '}' :: rest)
      = .ok (before ++ fields, rest)
  | [], _, _, _, _, hne, _, _, _ => absurd rfl hne
  | _ :: _, _, 0, _, _, _, _, _, hfuel => absurd hfuel (Nat.not_lt_zero _)
  | [(k, v)], before, fuel + 1, depth, rest, _, hregular, hnew, hfuel => by
      rw [areRegularFields, Bool.and_eq_true, Bool.and_eq_true] at hregular
      rw [compactFields, List.length_append, List.length_cons] at hfuel
      have hv := readValue_compact v fuel depth ('}' :: rest) hregular.1.1 (by omega) rfl
      obtain ⟨c, cs, hcs, hvisible, -⟩ := exists_compact hregular.1.1
      rw [hcs, List.cons_append] at hv
      rw [compactFields, hcs, List.append_assoc, List.cons_append, List.cons_append,
        readFields_last hvisible k hv, Assoc.set_of_notMem v (hnew (k, v) (by simp))]
  | (k, v) :: f :: fields, before, fuel + 1, depth, rest, _, hregular, hnew, hfuel => by
      rw [areRegularFields, Bool.and_eq_true, Bool.and_eq_true] at hregular
      obtain ⟨⟨hv_regular, hdistinct⟩, hregular⟩ := hregular
      rw [compactFields, List.length_append, List.length_append, List.length_cons,
        List.length_cons] at hfuel
      have hv := readValue_compact v fuel depth
        (',' :: (compactFields (f :: fields) ++ '}' :: rest)) hv_regular (by omega) rfl
      -- the later names differ from those before and from this one
      have hlater : ∀ g ∈ f :: fields, g.1 ∉ (before ++ [(k, v)]).map (·.1) := by
        intro g hg hmem
        rw [List.map_append, List.mem_append] at hmem
        rcases hmem with hmem | hmem
        · exact hnew g (List.mem_cons_of_mem _ hg) hmem
        · obtain rfl : g.1 = k := by simpa using hmem
          have hnames : g.1 ∈ (f :: fields).map (·.1) := List.mem_map_of_mem hg
          rw [List.contains_iff_mem.mpr hnames] at hdistinct
          exact absurd hdistinct (by decide)
      -- so the field read here goes behind those before, and the later ones behind it
      have hfields := readFields_compact (f :: fields) (before ++ [(k, v)]) fuel depth rest
        (by simp) hregular hlater (by omega)
      obtain ⟨c, cs, hcs, hvisible, -⟩ := exists_compact hv_regular
      obtain ⟨ds, hds⟩ := exists_compactFields f.1 f.2 fields
      rw [hcs, hds, List.cons_append] at hv
      rw [hds] at hfields
      rw [compactFields, hcs, hds]
      simp only [List.append_assoc, List.cons_append] at hv hfields ⊢
      rw [readFields_next hvisible k hv, Assoc.set_of_notMem v (hnew (k, v) (by simp)), hfields]
      simp

end

/-- **Texts.** A regular value is read back from its compact text. -/
theorem ofChars_compact {v : Json} (h : isRegular maxDepth v = true) :
    ofChars (compact v) = .ok v := by
  obtain ⟨c, cs, hcs, hvisible, -⟩ := exists_compact h
  have hread := readValue_compact v (fuelFor (compact v)) maxDepth [] h
    (by rw [fuelFor]; omega) rfl
  rw [List.append_nil] at hread
  have hskip : skipSpace (compact v) = compact v := by
    rw [hcs, skipSpace_cons hvisible]
  rw [ofChars, hskip, hread]
  rfl

/-- **Bytes.** A regular object with at least one field is read back from the bytes of its
compact text, whose first two characters tell the encoding. -/
theorem ofBytes_compact {fs : Fields} (hne : fs ≠ [])
    (h : isRegular maxDepth (.object fs) = true) :
    ofBytes (Utf8.encode (compact (.object fs))) = .ok (.object fs) := by
  obtain ⟨⟨k, v⟩, rest, rfl⟩ := List.exists_cons_of_ne_nil hne
  obtain ⟨cs, hcs⟩ := exists_compactFields k v rest
  have htext : compact (.object ((k, v) :: rest)) = '{' :: '"' :: (cs ++ ['}']) := by
    rw [compact, hcs]
    rfl
  have hdecode := Encoding.decodeAny?_encode (a := '{') (b := '"') (by decide) (by decide)
    (cs ++ ['}'])
  rw [← htext] at hdecode
  rw [ofBytes, hdecode]
  exact ofChars_compact h

end Json

end IdentityService
