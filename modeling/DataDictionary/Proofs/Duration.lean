import DataDictionary.Cell
import DataDictionary.Proofs.Text.Split
import DataDictionary.Proofs.Text.Whole
import Mathlib.Data.List.ReduceOption

/-!
# Durations

A duration is stored with the unit behind each of its counts, and what is not given is left out. In
the text the hours and the minutes end with a colon alike, so it tells the counts in their order,
and the seconds apart from the others, but not which one a count in front of a single colon is. An
hour and a minute have the same text; durations that give both, or neither, are told apart.
-/

namespace DataDictionary

open Text

/-- The count of a component: digits, one at least and any zeros in front, and their number. -/
structure Count where
  digits : List Char
  value : Nat
  isNumeral : IsNumeral 10 digits value

namespace Count

/-- A count without zeros in front. -/
def ofNat (n : Nat) : Count := ⟨decimal n, n, isNumeral_decimal n⟩

lemma digits_injective : Function.Injective Count.digits := by
  rintro ⟨digits, n, hn⟩ ⟨_, m, hm⟩ rfl
  obtain rfl : n = m := hn.value.symm.trans hm.value
  rfl

lemma notMem_digits {c : Char} (hc : c.isDigit = false) (count : Count) : c ∉ count.digits := by
  intro hmem
  have hdigit := digitValue_lt_ten_iff.mp (count.isNumeral.digit c hmem)
  rw [hc] at hdigit
  cases hdigit

end Count

/-- Hours, minutes and seconds, of which one at least is given. -/
structure Duration where
  hours : Option Count
  minutes : Option Count
  seconds : Option Count
  isGiven : hours.isSome ∨ minutes.isSome ∨ seconds.isSome

namespace Duration

/-- The number of a component; what is not given counts as zero. -/
def amount (component : Option Count) : Nat := component.elim 0 Count.value

/-- The numbers of hours, minutes and seconds. -/
def components (duration : Duration) : Nat × Nat × Nat :=
  (amount duration.hours, amount duration.minutes, amount duration.seconds)

/-- A component, as far as it is given, with what stands behind its digits. -/
def written (behind : List Char) (component : Option Count) : List Char :=
  component.elim [] (·.digits ++ behind)

/-- The duration as it is stored. -/
def chars (duration : Duration) : List Char :=
  'P' :: 'T' :: (written ['H'] duration.hours ++ written ['M'] duration.minutes ++
    written ['S'] duration.seconds)

/-- The cell with a duration. -/
def cell (duration : Duration) (row col : Nat) : Cell :=
  ⟨row, col, .isoDuration, String.ofList duration.chars⟩

/-! ### The text of a duration -/

lemma notMem_written {c : Char} (hc : c.isDigit = false) {behind : List Char} (h : c ∉ behind)
    (component : Option Count) : c ∉ written behind component := by
  cases component with
  | none => exact List.not_mem_nil
  | some count => simp [written, count.notMem_digits hc, h]

/-- A text with colons in place of the letters of hours and minutes, and without that of seconds. -/
def withColons (s : List Char) : List Char :=
  replaceChar 'S' [] (replaceChar 'M' [':'] (replaceChar 'H' [':'] s))

lemma withColons_append (s t : List Char) : withColons (s ++ t) = withColons s ++ withColons t := by
  simp only [withColons, replaceChar_append]

lemma replaceChar_written {c : Char} (hc : c.isDigit = false) (new behind : List Char)
    (component : Option Count) :
    replaceChar c new (written behind component) =
      written (replaceChar c new behind) component := by
  cases component with
  | none => rfl
  | some count =>
    simp [written, replaceChar_append, replaceChar_of_notMem (count.notMem_digits hc)]

/-- Digits stay, and only what stands behind them is replaced. -/
lemma withColons_written (behind : List Char) (component : Option Count) :
    withColons (written behind component) = written (withColons behind) component := by
  rw [withColons, replaceChar_written rfl, replaceChar_written rfl, replaceChar_written rfl]
  rfl

lemma dropPeriodMark_of_notMem {s : List Char} (h : 'P' ∉ s) : Cell.dropPeriodMark s = s := by
  fun_induction Cell.dropPeriodMark s with
  | case1 rest => simp at h
  | case2 c rest _ ih => rw [ih (mt (List.mem_cons_of_mem c) h)]
  | case3 => rfl

lemma durationChars_chars (duration : Duration) :
    Cell.durationChars duration.chars =
      written [':'] duration.hours ++ written [':'] duration.minutes ++
        written [] duration.seconds := by
  have hmark : 'P' ∉ written ['H'] duration.hours ++ written ['M'] duration.minutes ++
      written ['S'] duration.seconds := by
    have hwritten {unit : Char} (h : 'P' ≠ unit) (component : Option Count) :
        'P' ∉ written [unit] component := notMem_written rfl (by simpa using h) component
    simp [hwritten]
  calc Cell.durationChars duration.chars
      = withColons (written ['H'] duration.hours ++ written ['M'] duration.minutes ++
          written ['S'] duration.seconds) := by
        rw [Cell.durationChars, chars, Cell.dropPeriodMark, dropPeriodMark_of_notMem hmark]
        rfl
    _ = _ := by
        simp only [withColons_append, withColons_written]
        rfl

/-! ### What the text tells -/

/-- The counts of hours and minutes, as far as they are given. -/
def leading (duration : Duration) : List Count :=
  [duration.hours, duration.minutes].reduceOption

/-- What stands before, between and behind the colons of the text. -/
def fields (duration : Duration) : List (List Char) :=
  duration.leading.map Count.digits ++ [written [] duration.seconds]

lemma durationChars_eq_join (duration : Duration) :
    Cell.durationChars duration.chars = join [':'] duration.fields := by
  rw [durationChars_chars, fields, leading]
  cases duration.hours <;> cases duration.minutes <;> simp [written, join, List.reduceOption]

lemma colon_notMem_fields (duration : Duration) : ∀ field ∈ duration.fields, ':' ∉ field := by
  intro field hfield
  rcases List.mem_append.mp hfield with hfield | hfield
  · obtain ⟨count, -, rfl⟩ := List.mem_map.mp hfield
    exact count.notMem_digits rfl
  · rw [List.mem_singleton.mp hfield]
    exact notMem_written rfl List.not_mem_nil _

lemma splitAt_durationChars (duration : Duration) :
    splitAt ':' (Cell.durationChars duration.chars) = duration.fields := by
  rw [durationChars_eq_join]
  exact splitAt_join (by simp [fields]) duration.colon_notMem_fields

/-- Digits tell whether a component is given, and its count. -/
lemma written_nil_injective : Function.Injective (written []) := by
  rintro (_ | a) (_ | b) h
  · rfl
  · simp [written, b.isNumeral.ne_nil] at h
  · simp [written, a.isNumeral.ne_nil] at h
  · simp only [written, Option.elim_some, List.append_nil] at h
    rw [Count.digits_injective h]

variable {a b : Duration} {row col row' col' : Nat}

lemma fields_eq_iff : a.fields = b.fields ↔ a.leading = b.leading ∧ a.seconds = b.seconds := by
  constructor
  · intro h
    obtain ⟨hleading, hlast⟩ := List.append_inj' h rfl
    exact ⟨Count.digits_injective.list_map hleading,
      written_nil_injective (List.singleton_inj.mp hlast)⟩
  · rintro ⟨hleading, hseconds⟩
    rw [fields, fields, hleading, hseconds]

lemma text_cell (duration : Duration) (row col : Nat) :
    (duration.cell row col).text = some (String.ofList (Cell.durationChars duration.chars)) := by
  simp [cell, Cell.text]

lemma text_eq_text_iff :
    (a.cell row col).text = (b.cell row' col').text ↔
      a.leading = b.leading ∧ a.seconds = b.seconds := by
  rw [text_cell, text_cell, Option.some_inj, String.ofList_inj, ← fields_eq_iff]
  constructor
  · intro h
    rw [← splitAt_durationChars, ← splitAt_durationChars, h]
  · intro h
    rw [durationChars_eq_join, durationChars_eq_join, h]

/-- Hours and minutes are told by their counts, unless one is given alone: it may be either. -/
lemma leading_eq_iff :
    a.leading = b.leading ↔
      (a.hours = b.hours ∧ a.minutes = b.minutes) ∨
      (a.hours = b.minutes ∧ a.minutes = none ∧ b.hours = none) ∨
      (a.minutes = b.hours ∧ a.hours = none ∧ b.minutes = none) := by
  rw [leading, leading]
  cases a.hours <;> cases a.minutes <;> cases b.hours <;> cases b.minutes <;>
    simp [List.reduceOption]

/-- One duration gives as its hours what the other gives as its minutes, more than none, and both
give nothing else in front of the same seconds. -/
structure IsMistakenFor (a b : Duration) : Prop where
  hours_eq : a.hours = b.minutes
  minutes_eq : a.minutes = none
  hours_eq_none : b.hours = none
  seconds_eq : a.seconds = b.seconds
  pos : 0 < amount a.hours

lemma IsMistakenFor.text_eq (h : a.IsMistakenFor b) :
    (a.cell row col).text = (b.cell row' col').text :=
  text_eq_text_iff.mpr
    ⟨leading_eq_iff.mpr (.inr (.inl ⟨h.hours_eq, h.minutes_eq, h.hours_eq_none⟩)), h.seconds_eq⟩

lemma IsMistakenFor.components_ne (h : a.IsMistakenFor b) : a.components ≠ b.components := by
  intro heq
  have hhours : amount a.hours = amount b.hours := congrArg Prod.fst heq
  have hpos := h.pos
  rw [hhours, h.hours_eq_none] at hpos
  exact Nat.lt_irrefl 0 hpos

/-- A count that may be hours or minutes makes no difference only if it is zero. -/
lemma components_eq_or_isMistakenFor (hhours : a.hours = b.minutes) (hminutes : a.minutes = none)
    (hnone : b.hours = none) (hseconds : a.seconds = b.seconds) :
    a.components = b.components ∨ a.IsMistakenFor b := by
  rcases Nat.eq_zero_or_pos (amount a.hours) with hzero | hpos
  · have hzero' : amount b.minutes = 0 := hhours ▸ hzero
    left
    rw [components, components, hzero, hzero', hminutes, hnone, hseconds]
    rfl
  · exact .inr ⟨hhours, hminutes, hnone, hseconds, hpos⟩

/-- The text of a cell with a duration tells hours, minutes and seconds, except that a number of
hours and the same number of minutes have one text wherever neither is given beside the other. -/
theorem text_tells_components_iff (a b : Duration) (row col row' col' : Nat) :
    ((a.cell row col).text = (b.cell row' col').text → a.components = b.components) ↔
      ¬ (a.IsMistakenFor b ∨ b.IsMistakenFor a) := by
  constructor
  · rintro h (hmistaken | hmistaken)
    · exact hmistaken.components_ne (h hmistaken.text_eq)
    · exact hmistaken.components_ne (h hmistaken.text_eq.symm).symm
  · intro h htext
    obtain ⟨hleading, hseconds⟩ := text_eq_text_iff.mp htext
    rcases leading_eq_iff.mp hleading with ⟨hhours, hminutes⟩ | ⟨hhours, hminutes, hnone⟩ |
      ⟨hminutes, hhours, hnone⟩
    · rw [components, components, hhours, hminutes, hseconds]
    · rcases components_eq_or_isMistakenFor hhours hminutes hnone hseconds with heq | hmistaken
      · exact heq
      · exact absurd (.inl hmistaken) h
    · rcases components_eq_or_isMistakenFor hminutes.symm hnone hhours hseconds.symm with
        heq | hmistaken
      · exact heq.symm
      · exact absurd (.inr hmistaken) h

/-- So many hours and nothing else. -/
def ofHours (n : Nat) : Duration := ⟨some (.ofNat n), none, none, .inl rfl⟩

/-- So many minutes and nothing else. -/
def ofMinutes (n : Nat) : Duration := ⟨none, some (.ofNat n), none, .inr (.inl rfl)⟩

/-- An hour and a minute are shown alike. -/
theorem text_hour_eq_minute :
    (ofHours 1).cell 0 0 = ⟨0, 0, .isoDuration, "PT1H"⟩ ∧
    (ofMinutes 1).cell 0 1 = ⟨0, 1, .isoDuration, "PT1M"⟩ ∧
    ((ofHours 1).cell 0 0).text = some "1:" ∧ ((ofMinutes 1).cell 0 1).text = some "1:" ∧
    (ofHours 1).components = (1, 0, 0) ∧ (ofMinutes 1).components = (0, 1, 0) := by
  decide

end Duration

end DataDictionary
