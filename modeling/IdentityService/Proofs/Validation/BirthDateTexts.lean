import IdentityService.Proofs.Validation.Anniversary

/-!
# Birth Date Texts

The documented form of a birth date is a year of four digits, a month and a day of two digits
each, and hyphens between them.  More texts than that are read as dates: the zero in front of a
month or a day may be left out or, before a day, be a space, and the digits of the year and some
last digits of the day may be those of any script.

## Main definitions

- `BirthDate.Spells`: the texts that are read as a date.
- `BirthDate.IsPlain`: texts of ten ASCII digits and hyphens.

## Main statements

- `BirthDate.ofText?_eq_some_iff`: a text is read as the date that it spells.
- `BirthDate.Spells.eq_isoText_iff`: the plain spelling of a date is its documented form.
- `Age.accepted_texts`: the accepted texts, and where they are those of the documented form.
- `Age.accepted_texts_short`: an accepted text of another form.
-/

namespace IdentityService

open Text Calendar

/-! ## §1 Digits -/

/-- An ASCII digit is the digit of its value. -/
theorem Text.eq_digitChar_of_isAsciiDigit {c : Char} (h : isAsciiDigit c = true) :
    c.toNat - 48 < 10 ∧ c = Nat.digitChar (c.toNat - 48) := by
  have hdigits : ∀ n < 10, Nat.digitChar n = Char.ofNat (48 + n) := by decide
  obtain ⟨hfirst, hlast⟩ := isAsciiDigit_iff.mp h
  have hvalue : c.toNat - 48 < 10 := by omega
  refine ⟨hvalue, ?_⟩
  rw [hdigits _ hvalue, Nat.add_sub_cancel' hfirst, Char.ofNat_toNat]

theorem Text.isAsciiDigit_digitChar : ∀ n < 10, isAsciiDigit (Nat.digitChar n) = true := by decide

theorem Text.toNat_digitChar : ∀ n < 10, (Nat.digitChar n).toNat = 48 + n := by decide

theorem Text.digitValue?_lt {c : Char} {n : Nat} (h : digitValue? c = some n) : n < 10 := by
  obtain ⟨first, hfirst, rfl⟩ := Option.map_eq_some_iff.mp h
  have hrange := List.find?_some hfirst
  simp only [Bool.and_eq_true, decide_eq_true_iff] at hrange
  omega

/-- A digit of some script that lies in ASCII is the digit of its value. -/
theorem Text.eq_digitChar_of_digitValue? {c : Char} {n : Nat} (hascii : isAsciiDigit c = true)
    (h : digitValue? c = some n) : c = Nat.digitChar n := by
  obtain ⟨hvalue, hc⟩ := eq_digitChar_of_isAsciiDigit hascii
  rw [hc, digitValue?_digitChar _ hvalue, Option.some.injEq] at h
  rw [← h]
  exact hc

/-- A number below a hundred is padded to its two digits. -/
theorem Text.toList_padded_two {n : Nat} (h : n < 100) :
    (padded 2 n).toList = [Nat.digitChar (n / 10), Nat.digitChar (n % 10)] := by
  have hone : (padded 1 (n / 10)).toList = [Nat.digitChar (n / 10)] := by
    rw [padded, Nat.toDigits_of_lt_base (by omega), String.toList_ofList]
    rfl
  rw [toList_padded_succ (Nat.le_refl 1), hone]
  rfl

/-- An ASCII digit behind another makes a number that is padded to both. -/
theorem Text.toList_padded_of_digit {i : Nat} (hi : i < 10) {c : Char}
    (hc : isAsciiDigit c = true) :
    (padded 2 (10 * i + (c.toNat - 48))).toList = [Nat.digitChar i, c] := by
  obtain ⟨hvalue, hdigit⟩ := eq_digitChar_of_isAsciiDigit hc
  have hdiv : (10 * i + (c.toNat - 48)) / 10 = i := by omega
  have hmod : (10 * i + (c.toNat - 48)) % 10 = c.toNat - 48 := by omega
  rw [toList_padded_two (by omega), hdiv, hmod, ← hdigit]

/-- A character between two ASCII digits is a digit, and its value lies between theirs. -/
theorem Text.digit_of_range {c first last : Char} (hfirst : first ≤ c) (hlast : c ≤ last)
    (hzero : 48 ≤ first.toNat) (hnine : last.toNat ≤ 57) :
    isAsciiDigit c = true ∧ first.toNat - 48 ≤ c.toNat - 48 ∧
      c.toNat - 48 ≤ last.toNat - 48 := by
  have hlow : first.toNat ≤ c.toNat := hfirst
  have hhigh : c.toNat ≤ last.toNat := hlast
  exact ⟨isAsciiDigit_iff.mpr (by omega), by omega, by omega⟩

theorem Date.ofParts?_eq_some_iff {year month day : Nat} {d : Date} :
    Date.ofParts? year month day = some d ↔ d.year = year ∧ d.month = month ∧ d.day = day := by
  obtain ⟨year', month', day', hvalid⟩ := d
  unfold ofParts?
  constructor
  · intro h
    split at h
    · cases h
      exact ⟨rfl, rfl, rfl⟩
    · exact absurd h (by simp)
  · rintro ⟨rfl, rfl, rfl⟩
    exact dif_pos hvalid

namespace BirthDate

variable {cs rest : List Char} {s : String} {d : Date} {year month day : Nat}

/-! ## §2 Years -/

/-- Four digits of any script spell a year. -/
inductive SpellsYear : Nat → List Char → Prop
  | digits {a b c e : Char} {i j k l : Nat} (ha : digitValue? a = some i)
      (hb : digitValue? b = some j) (hc : digitValue? c = some k) (he : digitValue? e = some l) :
      SpellsYear (1000 * i + 100 * j + 10 * k + l) [a, b, c, e]

theorem SpellsYear.exists_eq (h : SpellsYear year cs) : ∃ a b c e, cs = [a, b, c, e] := by
  cases h
  exact ⟨_, _, _, _, rfl⟩

/-- **Years.** Four characters are read as the year that they spell. -/
theorem spellsYear_iff {a b c e : Char} : SpellsYear year [a, b, c, e] ↔
    ∃ digits, [a, b, c, e].mapM digitValue? = some digits ∧
      digits.foldl (fun n digit => 10 * n + digit) 0 = year := by
  constructor
  · rintro (@⟨_, _, _, _, i, j, k, l, ha, hb, hc, he⟩)
    refine ⟨[i, j, k, l], by simp [ha, hb, hc, he], ?_⟩
    simp only [List.foldl_cons, List.foldl_nil]
    omega
  · rintro ⟨digits, hdigits, rfl⟩
    simp only [List.mapM_cons, List.mapM_nil, Option.bind_eq_bind, Option.bind_eq_some_iff,
      Option.pure_def, Option.some.injEq] at hdigits
    obtain ⟨i, ha, _, ⟨j, hb, _, ⟨k, hc, _, ⟨l, he, _, rfl, rfl⟩, rfl⟩, rfl⟩, rfl⟩ := hdigits
    have hvalue : [i, j, k, l].foldl (fun n digit => 10 * n + digit) 0 =
        1000 * i + 100 * j + 10 * k + l := by
      simp only [List.foldl_cons, List.foldl_nil]
      omega
    rw [hvalue]
    exact .digits ha hb hc he

/-! ## §3 Months -/

/-- A month is spelled with two digits, or without the zero in front. -/
inductive SpellsMonth (month : Nat) : List Char → Prop
  | full : SpellsMonth month (padded 2 month).toList
  | short (h : month < 10) : SpellsMonth month [Nat.digitChar month]

theorem SpellsMonth.of_digit {c : Char} (h : isAsciiDigit c = true) :
    SpellsMonth (c.toNat - 48) [c] := by
  obtain ⟨hvalue, hdigit⟩ := eq_digitChar_of_isAsciiDigit h
  have hshort : SpellsMonth (c.toNat - 48) [Nat.digitChar (c.toNat - 48)] := .short hvalue
  rwa [← hdigit] at hshort

theorem SpellsMonth.of_digits {i : Nat} (hi : i < 10) {c : Char} (h : isAsciiDigit c = true) :
    SpellsMonth (10 * i + (c.toNat - 48)) [Nat.digitChar i, c] :=
  toList_padded_of_digit hi h ▸ .full

/-- What is read as a month is one of its spellings, with a hyphen behind it. -/
theorem spellsMonth_of_readMonth? (h : readMonth? cs = some (month, rest)) :
    (1 ≤ month ∧ month ≤ 12) ∧ ∃ field, cs = field ++ '-' :: rest ∧ SpellsMonth month field := by
  unfold readMonth? at h
  split at h
  · -- one digit
    split at h
    case isFalse => exact absurd h (by simp)
    case isTrue hrange =>
      obtain ⟨rfl, rfl⟩ := Prod.mk.inj (Option.some.inj h)
      obtain ⟨hdigit, hlow, hhigh⟩ := digit_of_range hrange.1 hrange.2 (by decide) (by decide)
      simp only [Char.reduceToNat] at hlow hhigh
      exact ⟨by omega, _, rfl, .of_digit hdigit⟩
  · split at h
    case isTrue hrange =>
      -- a month from ten on
      obtain ⟨rfl, rfl⟩ := Prod.mk.inj (Option.some.inj h)
      obtain ⟨rfl, hzero, htwo⟩ := hrange
      obtain ⟨hdigit, hlow, hhigh⟩ := digit_of_range hzero htwo (by decide) (by decide)
      simp only [Char.reduceToNat] at hlow hhigh
      exact ⟨by omega, _, rfl, .of_digits (i := 1) (by decide) hdigit⟩
    case isFalse =>
      split at h
      case isFalse => exact absurd h (by simp)
      case isTrue hrange =>
        -- a month with a zero in front
        obtain ⟨rfl, rfl⟩ := Prod.mk.inj (Option.some.inj h)
        obtain ⟨rfl, hone, hnine⟩ := hrange
        obtain ⟨hdigit, hlow, hhigh⟩ := digit_of_range hone hnine (by decide) (by decide)
        simp only [Char.reduceToNat] at hlow hhigh
        have hfield := SpellsMonth.of_digits (i := 0) (by decide) hdigit
        rw [Nat.mul_zero, Nat.zero_add] at hfield
        exact ⟨by omega, _, rfl, hfield⟩
  · exact absurd h (by simp)

/-- **Months.** A month is read from its spellings, up to the hyphen behind them. -/
theorem readMonth?_eq_some_iff : readMonth? cs = some (month, rest) ↔
    (1 ≤ month ∧ month ≤ 12) ∧ ∃ field, cs = field ++ '-' :: rest ∧ SpellsMonth month field := by
  refine ⟨spellsMonth_of_readMonth?, ?_⟩
  rintro ⟨⟨hpos, hle⟩, field, rfl, hfield⟩
  cases hfield with
  | full => exact readMonth?_padded hpos hle rest
  | short h =>
    have hshort : ∀ m < 10, 1 ≤ m → '1' ≤ Nat.digitChar m ∧ Nat.digitChar m ≤ '9' := by decide
    show (if _ then some ((Nat.digitChar month).toNat - 48, rest) else none) = _
    rw [if_pos (hshort month h hpos), toNat_digitChar month h, Nat.add_sub_cancel_left]

/-! ## §4 Days -/

/-- A day is spelled with two digits, or without the zero in front, or with a space for it; behind
a 1 or a 2 the last digit may be of any script. -/
inductive SpellsDay (day : Nat) : List Char → Prop
  | full : SpellsDay day (padded 2 day).toList
  | short (h : day < 10) : SpellsDay day [Nat.digitChar day]
  | spaced (h : day < 10) : SpellsDay day [' ', Nat.digitChar day]
  | script {c : Char} (hfirst : 10 ≤ day) (hlast : day < 30)
      (hc : digitValue? c = some (day % 10)) : SpellsDay day [Nat.digitChar (day / 10), c]

theorem SpellsDay.of_digit {c : Char} (h : isAsciiDigit c = true) :
    SpellsDay (c.toNat - 48) [c] ∧ SpellsDay (c.toNat - 48) ['0', c] ∧
      SpellsDay (c.toNat - 48) [' ', c] := by
  obtain ⟨hvalue, hdigit⟩ := eq_digitChar_of_isAsciiDigit h
  have hshort : SpellsDay (c.toNat - 48) [Nat.digitChar (c.toNat - 48)] := .short hvalue
  have hspaced : SpellsDay (c.toNat - 48) [' ', Nat.digitChar (c.toNat - 48)] := .spaced hvalue
  have hpadded := toList_padded_of_digit (i := 0) (by decide) h
  rw [Nat.mul_zero, Nat.zero_add] at hpadded
  rw [← hdigit] at hshort hspaced
  exact ⟨hshort, hpadded ▸ .full, hspaced⟩

theorem SpellsDay.of_script {i n : Nat} (hi : i = 1 ∨ i = 2) {c : Char}
    (h : digitValue? c = some n) : SpellsDay (10 * i + n) [Nat.digitChar i, c] := by
  have hn := digitValue?_lt h
  have hdiv : (10 * i + n) / 10 = i := by omega
  have hmod : (10 * i + n) % 10 = n := by omega
  have hday : SpellsDay (10 * i + n) [Nat.digitChar ((10 * i + n) / 10), c] :=
    .script (by omega) (by omega) (by rw [hmod]; exact h)
  rwa [hdiv] at hday

/-- What is read as a day is one of its spellings. -/
theorem spellsDay_of_readDay? (h : readDay? cs = some day) :
    (1 ≤ day ∧ day ≤ 31) ∧ SpellsDay day cs := by
  unfold readDay? at h
  split at h
  · -- one digit
    split at h
    case isFalse => exact absurd h (by simp)
    case isTrue hrange =>
      obtain rfl := Option.some.inj h
      obtain ⟨hdigit, hlow, hhigh⟩ := digit_of_range hrange.1 hrange.2 (by decide) (by decide)
      simp only [Char.reduceToNat] at hlow hhigh
      exact ⟨by omega, (SpellsDay.of_digit hdigit).1⟩
  · split at h
    case isTrue hlast =>
      -- the last two days of a month
      obtain rfl := Option.some.inj h
      obtain ⟨rfl, rfl | rfl⟩ := hlast
      · exact ⟨by decide, .full⟩
      · exact ⟨by decide, .full⟩
    case isFalse =>
      split at h
      case isTrue htens =>
        -- ten to twenty-nine
        obtain ⟨n, hn, rfl⟩ := Option.map_eq_some_iff.mp h
        have hlt := digitValue?_lt hn
        rcases htens with rfl | rfl
        · exact ⟨by simp only [Char.reduceToNat]; omega, .of_script (i := 1) (.inl rfl) hn⟩
        · exact ⟨by simp only [Char.reduceToNat]; omega, .of_script (i := 2) (.inr rfl) hn⟩
      case isFalse =>
        split at h
        case isFalse => exact absurd h (by simp)
        case isTrue hrange =>
          -- one digit behind a zero or a space
          obtain rfl := Option.some.inj h
          obtain ⟨hfirst, hone, hnine⟩ := hrange
          obtain ⟨hdigit, hlow, hhigh⟩ := digit_of_range hone hnine (by decide) (by decide)
          simp only [Char.reduceToNat] at hlow hhigh
          obtain ⟨-, hzero, hspace⟩ := SpellsDay.of_digit hdigit
          refine ⟨by omega, ?_⟩
          rcases hfirst with rfl | rfl
          · exact hzero
          · exact hspace
  · exact absurd h (by simp)

/-- **Days.** A day is read from its spellings. -/
theorem readDay?_eq_some_iff :
    readDay? cs = some day ↔ (1 ≤ day ∧ day ≤ 31) ∧ SpellsDay day cs := by
  refine ⟨spellsDay_of_readDay?, ?_⟩
  rintro ⟨⟨hpos, hle⟩, hday⟩
  cases hday with
  | full => exact readDay?_padded day (Nat.lt_succ_of_le hle) hpos
  | short h =>
    have hshort : ∀ n < 10, 1 ≤ n → readDay? [Nat.digitChar n] = some n := by decide
    exact hshort day h hpos
  | spaced h =>
    have hspaced : ∀ n < 10, 1 ≤ n → readDay? [' ', Nat.digitChar n] = some n := by decide
    exact hspaced day h hpos
  | @script c hfirst hlast hc =>
    -- the first digit is a 1 or a 2, and the last one is looked up
    have hread : ∀ i, i = 1 ∨ i = 2 →
        readDay? [Nat.digitChar i, c] = (digitValue? c).map (10 * i + ·) := by
      rintro i (rfl | rfl) <;> rfl
    rw [hread _ (by omega), hc, Option.map_some, Nat.div_add_mod]

/-! ## §5 Texts -/

/-- A text spells a date when it spells the year, the month and the day, with hyphens between
them. -/
def Spells (d : Date) (s : String) : Prop :=
  ∃ year month day, s.toList = year ++ '-' :: (month ++ '-' :: day) ∧ SpellsYear d.year year ∧
    SpellsMonth d.month month ∧ SpellsDay d.day day

/-- **Birth date texts.** A text is read as the date that it spells. -/
theorem ofText?_eq_some_iff : ofText? s = some d ↔ Spells d s := by
  constructor
  · intro h
    unfold ofText? at h
    split at h
    · rename_i hs
      obtain ⟨digits, hdigits, h⟩ := Option.bind_eq_some_iff.mp h
      obtain ⟨⟨month, rest⟩, hmonth, h⟩ := Option.bind_eq_some_iff.mp h
      obtain ⟨day, hday, h⟩ := Option.bind_eq_some_iff.mp h
      obtain ⟨hyear, rfl, rfl⟩ := Date.ofParts?_eq_some_iff.mp h
      obtain ⟨-, field, rfl, hfield⟩ := readMonth?_eq_some_iff.mp hmonth
      exact ⟨_, field, rest, hs, spellsYear_iff.mpr ⟨digits, hdigits, hyear.symm⟩, hfield,
        (readDay?_eq_some_iff.mp hday).2⟩
    · exact absurd h (by simp)
  · rintro ⟨year, month, day, hs, hyear, hmonth, hday⟩
    obtain ⟨-, -, hvalid⟩ := isDate_iff.mp d.valid
    have hlast := le_trans hvalid.day_le (monthLength_le _ _)
    obtain ⟨a, b, c, e, rfl⟩ := hyear.exists_eq
    obtain ⟨digits, hdigits, hvalue⟩ := spellsYear_iff.mp hyear
    have hrest : readMonth? (month ++ '-' :: day) = some (d.month, day) :=
      readMonth?_eq_some_iff.mpr ⟨⟨hvalid.month_pos, hvalid.month_le⟩, month, rfl, hmonth⟩
    have hend := readDay?_eq_some_iff.mpr ⟨⟨hvalid.day_pos, hlast⟩, hday⟩
    unfold ofText?
    simp only [hs, List.cons_append, List.nil_append, hdigits, Option.bind_eq_bind,
      Option.bind_some, hrest, hend, hvalue]
    exact Date.ofParts?_eq_some_iff.mpr ⟨rfl, rfl, rfl⟩

/-! ## §6 The documented form -/

/-- A text is plain when it has ten characters, each of them an ASCII digit or a hyphen. -/
def IsPlain (s : String) : Prop :=
  s.toList.length = 10 ∧ ∀ c ∈ s.toList, isAsciiDigit c = true ∨ c = '-'

theorem toList_isoText (d : Date) : d.isoText.toList =
    (padded 4 d.year).toList ++
      '-' :: ((padded 2 d.month).toList ++ '-' :: (padded 2 d.day).toList) := by
  simp [Date.isoText]

theorem fields_lt (d : Date) : d.year < 10000 ∧ d.month < 100 ∧ d.day < 100 := by
  obtain ⟨-, hlast, hday⟩ := isDate_iff.mp d.valid
  have hshort := le_trans hday.day_le (monthLength_le _ _)
  have hmonth := hday.month_le
  omega

/-- The documented form of a date is plain. -/
theorem isPlain_isoText (d : Date) : IsPlain d.isoText := by
  obtain ⟨hyear, hmonth, hday⟩ := fields_lt d
  have hthousands : d.year / 1000 < 10 := by omega
  have hmonth' : d.month / 10 < 10 := by omega
  have hday' : d.day / 10 < 10 := by omega
  rw [IsPlain, toList_isoText, toList_padded_four hyear, toList_padded_two hmonth,
    toList_padded_two hday]
  refine ⟨rfl, ?_⟩
  simp [isAsciiDigit_digitChar, hthousands, hmonth', hday', Nat.mod_lt]

/-- A plain digit is that of ASCII, since no digit looks like a hyphen. -/
theorem eq_digitChar_of_plain {c : Char} {n : Nat} (hplain : isAsciiDigit c = true ∨ c = '-')
    (h : digitValue? c = some n) : c = Nat.digitChar n := by
  rcases hplain with hdigit | rfl
  · exact eq_digitChar_of_digitValue? hdigit h
  · have hhyphen : digitValue? '-' = none := by decide
    exact absurd (hhyphen.symm.trans h) (by simp)

/-- A year in plain digits is written in the documented form. -/
theorem SpellsYear.eq_padded (h : SpellsYear year cs)
    (hplain : ∀ c ∈ cs, isAsciiDigit c = true ∨ c = '-') : cs = (padded 4 year).toList := by
  obtain @⟨a, b, c, e, i, j, k, l, ha, hb, hc, he⟩ := h
  simp only [List.forall_mem_cons] at hplain
  obtain ⟨hplain_a, hplain_b, hplain_c, hplain_e, -⟩ := hplain
  have hi := digitValue?_lt ha
  have hj := digitValue?_lt hb
  have hk := digitValue?_lt hc
  have hl := digitValue?_lt he
  have hlt : 1000 * i + 100 * j + 10 * k + l < 10000 := by omega
  have hthousands : (1000 * i + 100 * j + 10 * k + l) / 1000 = i := by omega
  have hhundreds : (1000 * i + 100 * j + 10 * k + l) / 100 % 10 = j := by omega
  have htens : (1000 * i + 100 * j + 10 * k + l) / 10 % 10 = k := by omega
  have hones : (1000 * i + 100 * j + 10 * k + l) % 10 = l := by omega
  rw [toList_padded_four hlt, hthousands, hhundreds, htens, hones,
    eq_digitChar_of_plain hplain_a ha, eq_digitChar_of_plain hplain_b hb,
    eq_digitChar_of_plain hplain_c hc, eq_digitChar_of_plain hplain_e he]

theorem SpellsMonth.length_le (hlt : month < 100) (h : SpellsMonth month cs) : cs.length ≤ 2 := by
  cases h with
  | full => rw [toList_padded_two hlt]; rfl
  | short h => simp

/-- A month of two characters is written in the documented form. -/
theorem SpellsMonth.eq_padded (h : SpellsMonth month cs) (hlength : cs.length = 2) :
    cs = (padded 2 month).toList := by
  cases h with
  | full => rfl
  | short h => exact absurd hlength (by simp)

theorem SpellsDay.length_le (hlt : day < 100) (h : SpellsDay day cs) : cs.length ≤ 2 := by
  cases h with
  | full => rw [toList_padded_two hlt]; rfl
  | _ => simp

/-- A day of two plain characters is written in the documented form. -/
theorem SpellsDay.eq_padded (h : SpellsDay day cs) (hlength : cs.length = 2)
    (hplain : ∀ c ∈ cs, isAsciiDigit c = true ∨ c = '-') : cs = (padded 2 day).toList := by
  cases h with
  | full => rfl
  | short h => exact absurd hlength (by simp)
  | spaced h => exact absurd (hplain ' ' (List.mem_cons_self ..)) (by decide)
  | @script c hfirst hlast hc =>
    have hlt : day < 100 := by omega
    rw [toList_padded_two hlt, eq_digitChar_of_plain (hplain c (by simp)) hc]

/-- **The documented form.** A text that spells a date is its documented form when it is plain. -/
theorem Spells.eq_isoText_iff (h : Spells d s) : s = d.isoText ↔ IsPlain s := by
  constructor
  · rintro rfl
    exact isPlain_isoText d
  · rintro ⟨hlength, hplain⟩
    obtain ⟨year, month, day, hs, hyear, hmonth, hday⟩ := h
    obtain ⟨-, hmonth_lt, hday_lt⟩ := fields_lt d
    have hmonth_le := hmonth.length_le hmonth_lt
    have hday_le := hday.length_le hday_lt
    rw [hs] at hlength hplain
    have hyear_eq := hyear.eq_padded fun c hc => hplain c (by simp [hc])
    -- ten characters leave no room for a month or a day of one
    have hfour : year.length = 4 := by
      obtain ⟨a, b, c, e, rfl⟩ := hyear.exists_eq
      rfl
    simp only [List.length_append, List.length_cons, hfour] at hlength
    have hmonth_eq := hmonth.eq_padded (by omega)
    have hday_eq := hday.eq_padded (by omega) fun c hc => hplain c (by simp [hc])
    rw [← String.toList_inj, toList_isoText, hs, hyear_eq, hmonth_eq, hday_eq]

end BirthDate

namespace Age

open BirthDate

/-- **Accepted texts.** A text is accepted as the birth date that it spells, and one that spells
none is reported for its form and nothing else.  The documented form of every date is accepted; on
the plain texts nothing else is, and every accepted text that is not plain is of another form. -/
theorem accepted_texts (s : String) :
    (∀ d, (BirthDate.text s).parse? = some d ↔ Spells d s) ∧
    (∀ minimum today,
      check minimum today (.text s) = .failure [.dateFormat] ↔ ∀ d, ¬ Spells d s) ∧
    (∀ d, s = d.isoText → IsPlain s ∧ Spells d s) ∧
    ((∀ d, (BirthDate.text s).parse? = some d ↔ s = d.isoText) ↔
      IsPlain s ∨ ∀ d, ¬ Spells d s) := by
  have hparse : ∀ d, (BirthDate.text s).parse? = some d ↔ Spells d s := fun d =>
    ofText?_eq_some_iff
  have hdocumented : ∀ d, s = d.isoText → IsPlain s ∧ Spells d s := by
    rintro d rfl
    exact ⟨isPlain_isoText d, ofText?_eq_some_iff.mp (ofText?_isoText d)⟩
  refine ⟨hparse, ?_, hdocumented, ?_⟩
  · intro minimum today
    unfold check errors
    cases hread : (BirthDate.text s).parse? with
    | none =>
      refine iff_of_true rfl fun d hspells => ?_
      rw [(hparse d).mpr hspells] at hread
      exact absurd hread (by simp)
    | some d =>
      refine iff_of_false ?_ fun hnone => hnone d ((hparse d).mp hread)
      dsimp only
      split <;> simp [Verdict.ofErrors, Verdict.failure]
  · constructor
    · intro hexact
      by_cases hplain : IsPlain s
      · exact .inl hplain
      · refine .inr fun d hspells => hplain ?_
        exact hspells.eq_isoText_iff.mp ((hexact d).mp ((hparse d).mpr hspells))
    · intro hcase d
      rw [hparse]
      refine ⟨fun hspells => ?_, fun hiso => (hdocumented d hiso).2⟩
      rcases hcase with hplain | hnone
      · exact hspells.eq_isoText_iff.mpr hplain
      · exact absurd hspells (hnone d)

/-- A month and a day of one digit are accepted, and the user is of age. -/
theorem accepted_texts_short :
    let d : Date := ⟨2000, 1, 5, rfl⟩
    (BirthDate.text "2000-1-5").parse? = some d ∧ "2000-1-5" ≠ d.isoText ∧
      check 18 ⟨2025, 1, 15, rfl⟩ (.text "2000-1-5") = .success := by
  decide +kernel

end Age

end IdentityService
