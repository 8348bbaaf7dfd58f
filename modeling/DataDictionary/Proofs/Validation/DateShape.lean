import DataDictionary.Proofs.Text.LetterCase
import DataDictionary.Validation.Evaluation
import Mathlib.Computability.Language

/-!
# The shape of dates

A date is written with four, two and two digits, possibly followed by a time of day and, behind
that, by a zone. A text passes for a date if it begins in this shape, in digits of any script: the
pattern that it is held against may leave out all that stands behind the day, and does not ask for
the end of the text. So every date passes, and with it whatever begins with one.
-/

namespace DataDictionary.Validation

open Text
open scoped Computability

/-! ### Languages of characters -/

/-- The texts of one character that satisfies `p`. -/
def letter (p : Char → Prop) : Language Char := {s | ∃ c, p c ∧ s = [c]}

/-- The texts of one of the characters. -/
def mark (chars : List Char) : Language Char := letter (· ∈ chars)

/-- Texts that may be left out. -/
def optional (l : Language Char) : Language Char := l + 1

variable {l m : Language Char} {s : List Char}

lemma mem_letter {p : Char → Prop} : s ∈ letter p ↔ ∃ c, p c ∧ s = [c] := Iff.rfl

lemma mem_letter_mul {p : Char → Prop} :
    s ∈ letter p * l ↔ ∃ c rest, s = c :: rest ∧ p c ∧ rest ∈ l := by
  rw [Language.mem_mul]
  constructor
  · rintro ⟨_, ⟨c, hc, rfl⟩, rest, hrest, rfl⟩
    exact ⟨c, rest, rfl, hc, hrest⟩
  · rintro ⟨c, rest, rfl, hc, hrest⟩
    exact ⟨[c], ⟨c, hc, rfl⟩, rest, hrest, rfl⟩

lemma mem_optional : s ∈ optional l ↔ s ∈ l ∨ s = [] := Iff.rfl

lemma mem_optional_mul : s ∈ optional l * m ↔ s ∈ l * m ∨ s ∈ m := by
  rw [optional, add_mul, one_mul, Language.mem_add]

/-- A text of the language begins the given text. -/
def Begins (l : Language Char) (s : List Char) : Prop := ∃ beginning ∈ l, beginning <+: s

/-- What may be left out makes no difference to what begins a text. -/
lemma begins_mul_optional : Begins (l * optional m) s ↔ Begins l s := by
  constructor
  · rintro ⟨_, ⟨beginning, hbeginning, more, -, rfl⟩, hprefix⟩
    exact ⟨beginning, hbeginning, (List.prefix_append beginning more).trans hprefix⟩
  · rintro ⟨beginning, hbeginning, hprefix⟩
    refine ⟨beginning, ?_, hprefix⟩
    rw [← List.append_nil beginning]
    exact Language.append_mem_mul hbeginning (.inr rfl)

lemma begins_iff_mem_mul_top : Begins l s ↔ s ∈ l * ⊤ := by
  rw [Language.mem_mul]
  constructor
  · rintro ⟨beginning, hmem, rest, rfl⟩
    exact ⟨beginning, hmem, rest, trivial, rfl⟩
  · rintro ⟨beginning, hmem, rest, -, rfl⟩
    exact ⟨beginning, hmem, rest, rfl⟩

/-! ### Dates -/

namespace DateShape

/-- The texts of a digit. -/
def digit (isDigit : Char → Bool) : Language Char := letter (isDigit · = true)

variable (isDigit : Char → Bool)

/-- Year, month and day. -/
def day : Language Char :=
  digit isDigit ^ 4 * mark ['-'] * digit isDigit ^ 2 * mark ['-'] * digit isDigit ^ 2

/-- Hours and minutes, possibly with seconds and a fraction of them. -/
def clock : Language Char :=
  digit isDigit ^ 2 * mark [':'] * digit isDigit ^ 2 *
    optional (mark [':'] * digit isDigit ^ 2 *
      optional (mark ['.'] * (digit isDigit * (digit isDigit)∗)))

/-- Universal time, or an offset of hours and possibly minutes. -/
def zone : Language Char :=
  mark ['Z'] +
    mark ['+', '-'] * digit isDigit ^ 2 * optional (optional (mark [':']) * digit isDigit ^ 2)

/-- The pattern that texts are held against. -/
def pattern : Language Char := day isDigit * optional (mark ['T', ' '] * clock isDigit)

/-- What may stand behind the day: a time, and behind that a zone. -/
def time : Language Char := optional (mark ['T', ' '] * clock isDigit * optional (zone isDigit))

/-- A day, possibly with a time, and that possibly with a zone. -/
def shape : Language Char := day isDigit * time isDigit

end DateShape

open DateShape

variable {isDigit : Char → Bool}

lemma mem_day_mul : s ∈ day isDigit * l ↔
    ∃ y₁ y₂ y₃ y₄ m₁ m₂ d₁ d₂ rest,
      s = y₁ :: y₂ :: y₃ :: y₄ :: '-' :: m₁ :: m₂ :: '-' :: d₁ :: d₂ :: rest ∧
        [y₁, y₂, y₃, y₄, m₁, m₂, d₁, d₂].all isDigit = true ∧ rest ∈ l := by
  simp only [day, pow_succ, pow_zero, one_mul, mul_assoc, digit, mark, mem_letter_mul,
    List.mem_singleton]
  constructor
  · rintro ⟨y₁, _, rfl, hy₁, y₂, _, rfl, hy₂, y₃, _, rfl, hy₃, y₄, _, rfl, hy₄, _, _, rfl, rfl,
      m₁, _, rfl, hm₁, m₂, _, rfl, hm₂, _, _, rfl, rfl, d₁, _, rfl, hd₁, d₂, rest, rfl, hd₂, hrest⟩
    exact ⟨y₁, y₂, y₃, y₄, m₁, m₂, d₁, d₂, rest, rfl, by simp [*], hrest⟩
  · rintro ⟨y₁, y₂, y₃, y₄, m₁, m₂, d₁, d₂, rest, rfl, hdigits, hrest⟩
    simp only [List.all_cons, List.all_nil, Bool.and_true, Bool.and_eq_true] at hdigits
    simp [hdigits, hrest]

lemma mem_day : s ∈ day isDigit ↔
    ∃ y₁ y₂ y₃ y₄ m₁ m₂ d₁ d₂, s = [y₁, y₂, y₃, y₄, '-', m₁, m₂, '-', d₁, d₂] ∧
      [y₁, y₂, y₃, y₄, m₁, m₂, d₁, d₂].all isDigit = true := by
  rw [← mul_one (day isDigit), mem_day_mul]
  constructor
  · rintro ⟨y₁, y₂, y₃, y₄, m₁, m₂, d₁, d₂, _, hs, hdigits, rfl⟩
    exact ⟨y₁, y₂, y₃, y₄, m₁, m₂, d₁, d₂, hs, hdigits⟩
  · rintro ⟨y₁, y₂, y₃, y₄, m₁, m₂, d₁, d₂, hs, hdigits⟩
    exact ⟨y₁, y₂, y₃, y₄, m₁, m₂, d₁, d₂, [], hs, hdigits, rfl⟩

lemma length_of_mem_day (h : s ∈ day isDigit) : s.length = 10 := by
  obtain ⟨y₁, y₂, y₃, y₄, m₁, m₂, d₁, d₂, rfl, -⟩ := mem_day.mp h
  rfl

/-- A text of ten characters is all of the day that a longer one begins with. -/
lemma append_mem_day_mul {date rest : List Char} (hlength : date.length = 10) :
    date ++ rest ∈ day isDigit * l ↔ date ∈ day isDigit ∧ rest ∈ l := by
  refine ⟨?_, fun ⟨hdate, hrest⟩ => Language.append_mem_mul hdate hrest⟩
  rintro ⟨beginning, hbeginning, more, hmore, happend⟩
  obtain ⟨rfl, rfl⟩ := List.append_inj happend ((length_of_mem_day hbeginning).trans hlength.symm)
  exact ⟨hbeginning, hmore⟩

/-! ### Digits -/

lemma isDecimalDigit_eq_isDigit {c : Char} (h : c.toNat < 128) : isDecimalDigit c = c.isDigit := by
  have hascii : ∀ n < 128, isDecimalDigit (Char.ofNat n) = (Char.ofNat n).isDigit := by
    decide +kernel
  rw [← Char.ofNat_toNat c]
  exact hascii c.toNat h

/-- The digits of ASCII are the decimal digits in it. -/
lemma isDigit_iff {c : Char} : c.isDigit = true ↔ isDecimalDigit c = true ∧ c.toNat < 128 := by
  constructor
  · intro h
    have hrange := h
    rw [Char.isDigit, Bool.and_eq_true, decide_eq_true_eq, decide_eq_true_eq] at hrange
    have hascii : c.toNat < 128 := (UInt32.le_iff_toNat_le.mp hrange.2).trans_lt (by decide)
    exact ⟨(isDecimalDigit_eq_isDigit hascii).trans h, hascii⟩
  · rintro ⟨hdigit, hascii⟩
    exact (isDecimalDigit_eq_isDigit hascii).symm.trans hdigit

lemma all_isDigit_iff : s.all Char.isDigit = true ↔ s.all isDecimalDigit = true ∧ IsAscii s := by
  simp only [List.all_eq_true, IsAscii, isDigit_iff, imp_and, forall_and]

/-- A day is in ASCII digits if it is in ASCII characters. -/
lemma mem_day_isDigit_iff : s ∈ day Char.isDigit ↔ s ∈ day isDecimalDigit ∧ IsAscii s := by
  have hhyphen : '-'.toNat < 128 := by decide
  rw [mem_day, mem_day]
  constructor
  · rintro ⟨y₁, y₂, y₃, y₄, m₁, m₂, d₁, d₂, rfl, hdigits⟩
    obtain ⟨hdecimal, hascii⟩ := all_isDigit_iff.mp hdigits
    refine ⟨⟨y₁, y₂, y₃, y₄, m₁, m₂, d₁, d₂, rfl, hdecimal⟩, ?_⟩
    simpa [IsAscii, hhyphen] using hascii
  · rintro ⟨⟨y₁, y₂, y₃, y₄, m₁, m₂, d₁, d₂, rfl, hdecimal⟩, hascii⟩
    refine ⟨y₁, y₂, y₃, y₄, m₁, m₂, d₁, d₂, rfl, all_isDigit_iff.mpr ⟨hdecimal, ?_⟩⟩
    simpa [IsAscii, hhyphen] using hascii

/-! ### Texts that pass for dates -/

lemma hasDateShape_iff : hasDateShape s = true ↔ Begins (day isDecimalDigit) s := by
  rw [begins_iff_mem_mul_top, mem_day_mul, hasDateShape.eq_def]
  constructor
  · intro h
    split at h
    · exact ⟨_, _, _, _, _, _, _, _, _, rfl, h, trivial⟩
    · exact absurd h Bool.false_ne_true
  · rintro ⟨y₁, y₂, y₃, y₄, m₁, m₂, d₁, d₂, rest, rfl, hdigits, -⟩
    exact hdigits

lemma accepts_dateFormat (format text : String) :
    Modifier.accepts (.string text) (.dateFormat format) = hasDateShape text.toList := rfl

/-- Among the texts that pass, the dates are those that are in ASCII digits up to the day and have a
time behind it, or nothing. -/
lemma append_mem_shape_iff {date rest : List Char} (h : date ∈ day isDecimalDigit) :
    date ++ rest ∈ shape Char.isDigit ↔ IsAscii date ∧ rest ∈ time Char.isDigit := by
  rw [shape, append_mem_day_mul (length_of_mem_day h), mem_day_isDigit_iff]
  exact and_congr_left' (and_iff_right h)

lemma hasDateShape_of_mem_shape (h : s ∈ shape Char.isDigit) : hasDateShape s = true := by
  obtain ⟨date, hdate, rest, -, rfl⟩ := h
  exact hasDateShape_iff.mpr ⟨date, (mem_day_isDigit_iff.mp hdate).1, List.prefix_append date rest⟩

lemma mem_shape_of_hasDateShape (h : hasDateShape s = true) (hascii : IsAscii s)
    (hlength : s.length ≤ 10) : s ∈ shape Char.isDigit := by
  obtain ⟨date, hdate, hprefix⟩ := hasDateShape_iff.mp h
  obtain rfl := hprefix.eq_of_length_le (hlength.trans_eq (length_of_mem_day hdate).symm)
  rw [← List.append_nil date]
  exact (append_mem_shape_iff hdate).mpr ⟨hascii, .inr rfl⟩

/-- A text passes for a date if the pattern fits where it begins. Every date does, and so does what
begins with a day in any digits, whatever stands behind that; such a text is a date just if the day
is in ASCII characters and a time or nothing stands behind it. For texts that are no longer than a
day and of ASCII characters, passing for a date is being one. -/
theorem accepts_dateFormat_iff (format text : String) :
    (Modifier.accepts (.string text) (.dateFormat format) = true ↔
      Begins (pattern isDecimalDigit) text.toList) ∧
    (text.toList ∈ shape Char.isDigit →
      Modifier.accepts (.string text) (.dateFormat format) = true) ∧
    (∀ date rest, date ∈ day isDecimalDigit → text.toList = date ++ rest →
      Modifier.accepts (.string text) (.dateFormat format) = true ∧
        (text.toList ∈ shape Char.isDigit ↔ IsAscii date ∧ rest ∈ time Char.isDigit)) ∧
    (IsAscii text.toList → text.toList.length ≤ 10 →
      (Modifier.accepts (.string text) (.dateFormat format) = true ↔
        text.toList ∈ shape Char.isDigit)) := by
  rw [accepts_dateFormat]
  refine ⟨?_, hasDateShape_of_mem_shape, fun date rest hdate htext => ?_, fun hascii hlength => ?_⟩
  · rw [hasDateShape_iff, pattern, begins_mul_optional]
  · rw [htext]
    exact ⟨hasDateShape_iff.mpr ⟨date, hdate, List.prefix_append date rest⟩,
      append_mem_shape_iff hdate⟩
  · exact ⟨fun h => mem_shape_of_hasDateShape h hascii hlength, hasDateShape_of_mem_shape⟩

theorem accepts_dateFormat_noon :
    "2024-03-01".toList ∈ day isDecimalDigit ∧
      "2024-03-01T12:00:00+01:00".toList ∈ shape Char.isDigit ∧
      Modifier.accepts (.string "2024-03-01T12:00:00+01:00") (.dateFormat "c") = true ∧
      ("2024-03-01T12:00:00+01:00".toList ∈ shape Char.isDigit ↔
        IsAscii "2024-03-01".toList ∧ "T12:00:00+01:00".toList ∈ time Char.isDigit) ∧
      IsAscii "2024-03-01".toList ∧ "2024-03-01".toList.length ≤ 10 ∧
      (Modifier.accepts (.string "2024-03-01") (.dateFormat "c") = true ↔
        "2024-03-01".toList ∈ shape Char.isDigit) := by
  obtain ⟨-, haccepts, hshape, -⟩ := accepts_dateFormat_iff "c" "2024-03-01T12:00:00+01:00"
  have hascii : IsAscii "2024-03-01".toList := by decide
  have hday : "2024-03-01".toList ∈ day isDecimalDigit :=
    mem_day.mpr ⟨_, _, _, _, _, _, _, _, rfl, by decide +kernel⟩
  have hclock : "12:00:00".toList ∈ clock Char.isDigit := by
    simp [clock, digit, mark, pow_succ, mul_assoc, mem_letter_mul, mem_optional]
  have hzone : "+01:00".toList ∈ zone Char.isDigit := by
    simp [zone, digit, mark, pow_succ, mul_assoc, mem_letter, mem_letter_mul, mem_optional,
      mem_optional_mul, Language.mem_add, -add_eq_sup]
  have htime : "T12:00:00+01:00".toList ∈ time Char.isDigit :=
    .inl (Language.append_mem_mul
      (Language.append_mem_mul (mem_letter.mpr ⟨'T', by decide, rfl⟩) hclock) (.inl hzone))
  have hmem := (hshape "2024-03-01".toList "T12:00:00+01:00".toList hday rfl).2
  exact ⟨hday, hmem.mpr ⟨hascii, htime⟩, haccepts (hmem.mpr ⟨hascii, htime⟩), hmem, hascii,
    by decide, (accepts_dateFormat_iff "c" "2024-03-01").2.2.2 hascii (by decide)⟩

/-- A day passes with anything behind it, and in digits of any script. -/
theorem accepts_dateFormat_and_later :
    Modifier.accepts (.string "2024-03-01 and later") (.dateFormat "Y-m-d") = true ∧
      "2024-03-01 and later".toList ∉ shape Char.isDigit ∧
      Modifier.accepts (.string "٢٠٢٤-٠٣-٠١") (.dateFormat "Y-m-d") = true ∧
      "٢٠٢٤-٠٣-٠١".toList ∉ shape Char.isDigit := by
  have hlater : " and later".toList ∉ time Char.isDigit := by
    simp [time, clock, digit, mark, pow_succ, mul_assoc, mem_optional, mem_letter_mul]
  have hday : "2024-03-01".toList ∈ day isDecimalDigit :=
    mem_day.mpr ⟨_, _, _, _, _, _, _, _, rfl, by decide +kernel⟩
  have hdigits : "٢٠٢٤-٠٣-٠١".toList ∈ day isDecimalDigit :=
    mem_day.mpr ⟨_, _, _, _, _, _, _, _, rfl, by decide +kernel⟩
  have hsplit : "2024-03-01 and later".toList = "2024-03-01".toList ++ " and later".toList := rfl
  refine ⟨by decide +kernel, fun h => ?_, by decide +kernel, fun h => ?_⟩
  · rw [hsplit, append_mem_shape_iff hday] at h
    exact hlater h.2
  · rw [← List.append_nil "٢٠٢٤-٠٣-٠١".toList, append_mem_shape_iff hdigits] at h
    exact absurd h.1 (by decide)

end DataDictionary.Validation
