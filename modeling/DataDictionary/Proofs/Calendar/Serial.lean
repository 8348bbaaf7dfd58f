import DataDictionary.Cell
import DataDictionary.Proofs.Binary64.Whole
import DataDictionary.Proofs.Calendar.Date
import Mathlib.Data.String.Basic

/-!
# Serial dates

A serial is counted in days from the 30th of December 1899. Under the epoch of 1900 the counts
below 60 stand for the day behind, since the day numbered 60 never was: the 28th of February 1900
is shown for 59 and for 60. Behind it the count is that of the calendar, and the one of the epoch of
1904 is the same with 1462 days more.

What is no number, or is one of a day that the calendar does not reach, is shown as it is stored.
-/

namespace DataDictionary

namespace Serial

open Text

/-! ### Days that the calendar reaches -/

/-- The day of a serial of so many whole days is one that dates are kept for: none before the 1st
of January -262143, and none behind the 31st of December 262142. -/
def Reaches (epoch : Epoch) (days : Int) : Prop :=
  -96439723 ≤ days + offset epoch days ∧ days + offset epoch days ≤ 95051805

/-- The day of a serial of so many whole days. -/
def dateOf (epoch : Epoch) (days : Int) : Date :=
  Date.ofDays (Date.december1899 + days + offset epoch days)

/-- What is shown of a day and of a second of it. -/
def shown (kind : SerialKind) (date : Date) (second : Nat) : List Char :=
  match kind with
  | .date => date.chars
  | .time => clockChars second
  | .dateTime => date.chars ++ ' ' :: clockChars second

lemma inYears_dateOf_iff (epoch : Epoch) (days : Int) :
    Date.inYears (dateOf epoch days).year = true ↔ Reaches epoch days := by
  rw [dateOf, Date.inYears_ofDays_iff, Reaches, Date.december1899]
  omega

lemma day_eq_some {epoch : Epoch} {serial : Binary64} {days : Int}
    (hdays : wholeDays serial = some days) (h : Reaches epoch days) :
    day epoch serial = some (dateOf epoch days) := by
  have hyears := (inYears_dateOf_iff epoch days).mpr h
  rw [dateOf] at hyears
  simp only [day, hdays, Option.bind_eq_bind, Option.bind_some, hyears, if_true]
  rfl

lemma day_eq_none {epoch : Epoch} {serial : Binary64}
    (h : ∀ days, wholeDays serial = some days → ¬ Reaches epoch days) :
    day epoch serial = none := by
  cases hdays : wholeDays serial with
  | none => simp [day, hdays]
  | some days =>
    have hyears := mt (inYears_dateOf_iff epoch days).mp (h days hdays)
    rw [dateOf] at hyears
    simp [day, hdays, hyears]

lemma chars_eq_some {kind : SerialKind} {epoch : Epoch} {value : List Char} {serial : Binary64}
    {days : Int} (hread : Binary64.read? (trim value) = some serial)
    (hdays : wholeDays serial = some days) (h : Reaches epoch days) :
    chars kind epoch value = some (shown kind (dateOf epoch days) (secondOfDay serial)) := by
  simp only [chars, hread, day_eq_some hdays h, Option.bind_eq_bind, Option.bind_some]
  cases kind <;> rfl

/-! ### Counting in words -/

/-- How many words of 64 bits are negative: half of them. -/
def halfLimit : Nat := Nat.pow 2 63

lemma halfLimit_eq : halfLimit = 9223372036854775808 := rfl

/-- A signed word of 64 bits. -/
def IsWord (n : Int) : Prop := -halfLimit ≤ n ∧ n < halfLimit

instance (n : Int) : Decidable (IsWord n) := inferInstanceAs (Decidable (_ ∧ _))

/-- A duration of so many days is a word of milliseconds. -/
def IsDuration (days : Int) : Prop := days.natAbs * 86400000 < halfLimit

instance (days : Int) : Decidable (IsDuration days) := inferInstanceAs (Decidable (_ < _))

/-- The word next to a number. -/
def toWord (n : Int) : Int := max (-halfLimit) (min n (halfLimit - 1))

/-- The whole days of a serial as a word; what is not finite is one of the ends, or zero. -/
def wordDays : Binary64 → Int
  | .finite negative rank =>
    let days : Int := Binary64.wholePart rank
    toWord (if negative then -days else days)
  | .nan => 0
  | .infinite negative => if negative then -halfLimit else halfLimit - 1

/-- The day of a serial, found in words: each step is refused that would leave them. -/
def wordDay (epoch : Epoch) (serial : Binary64) : Option Date :=
  let days := wordDays serial
  let shifted := days + offset epoch days
  if IsWord shifted ∧ IsDuration shifted then
    let date := Date.ofDays (Date.december1899 + shifted)
    if Date.inYears date.year then some date else none
  else none

lemma offset_bounds (epoch : Epoch) (days : Int) :
    0 ≤ offset epoch days ∧ offset epoch days ≤ 1462 := by
  cases epoch with
  | from1904 => exact ⟨show (0 : Int) ≤ 1462 by decide, Int.le_refl 1462⟩
  | from1900 =>
    rw [offset]
    split <;> decide

/-- What the calendar reaches is no end of the words. -/
lemma eq_of_reaches_toWord {epoch : Epoch} {days : Int} (h : Reaches epoch (toWord days)) :
    toWord days = days := by
  have hoffset := offset_bounds epoch (toWord days)
  rw [Reaches] at h
  generalize offset epoch (toWord days) = shift at h hoffset
  rw [toWord, halfLimit_eq] at h ⊢
  omega

lemma toWord_of_reaches {epoch : Epoch} {days : Int} (h : Reaches epoch days) :
    toWord days = days := by
  have hoffset := offset_bounds epoch days
  rw [Reaches] at h
  rw [toWord, halfLimit_eq]
  omega

lemma wholeDays_of_reaches {epoch : Epoch} {serial : Binary64}
    (h : Reaches epoch (wordDays serial)) : wholeDays serial = some (wordDays serial) := by
  cases serial with
  | finite negative rank => exact congrArg some (eq_of_reaches_toWord h).symm
  | nan => rfl
  | infinite negative =>
    have hoffset := offset_bounds epoch (wordDays (.infinite negative))
    rw [Reaches] at h
    cases negative <;>
      simp only [wordDays, halfLimit_eq, if_true, Bool.false_eq_true, if_false] at h hoffset <;>
      omega

lemma wordDays_of_reaches {epoch : Epoch} {serial : Binary64} {days : Int}
    (hdays : wholeDays serial = some days) (h : Reaches epoch days) : wordDays serial = days := by
  cases serial with
  | finite negative rank =>
    obtain rfl := Option.some.inj hdays
    exact toWord_of_reaches h
  | nan => exact Option.some.inj hdays
  | infinite negative => cases hdays

/-- Words are enough: what they cannot hold is far behind the last day of the calendar. -/
theorem wordDay_eq_day (epoch : Epoch) (serial : Binary64) :
    wordDay epoch serial = day epoch serial := by
  by_cases h : Reaches epoch (wordDays serial)
  · have hguards : IsWord (wordDays serial + offset epoch (wordDays serial)) ∧
        IsDuration (wordDays serial + offset epoch (wordDays serial)) := by
      rw [Reaches] at h
      rw [IsWord, IsDuration, halfLimit_eq]
      omega
    have hyears := (inYears_dateOf_iff epoch _).mpr h
    rw [dateOf, Int.add_assoc] at hyears
    rw [day_eq_some (wholeDays_of_reaches h) h, dateOf, Int.add_assoc]
    simp only [wordDay, if_pos hguards, hyears, if_true]
  · have hyears := mt (inYears_dateOf_iff epoch _).mp h
    rw [dateOf, Int.add_assoc] at hyears
    have hnone : day epoch serial = none := day_eq_none fun days hdays hreaches =>
      h (wordDays_of_reaches hdays hreaches ▸ hreaches)
    rw [hnone]
    simp only [wordDay, hyears, if_false, ite_self, Bool.false_eq_true]

/-! ### Whole numbers of days -/

/-- The text is a whole number in decimal digits, with white space around them or none. -/
def Writes (n : Nat) (value : List Char) : Prop :=
  ∃ digits, digits ≠ [] ∧ (∀ c ∈ digits, c.isDigit = true) ∧ Nat.ofDigitChars 10 digits 0 = n ∧
    Padded digits value

lemma writes_decimal (n : Nat) : Writes n (decimal n) :=
  ⟨decimal n, Nat.toDigits_ne_nil, fun _ => isDigit_of_mem_decimal, Nat.ofDigitChars_ten_toDigits,
    padded_of_trim_eq (trim_of_isDigit fun _ => isDigit_of_mem_decimal)⟩

lemma Writes.exists_read? {n : Nat} {value : List Char} (h : Writes n value)
    (hn : n < 2 * Binary64.binade) :
    ∃ serial, Binary64.read? (trim value) = some serial ∧ wholeDays serial = some (n : Int) := by
  obtain ⟨digits, hne, hdigits, rfl, hpadded⟩ := h
  have htrim : trim value = digits := hpadded.trim_eq.trans (trim_of_isDigit hdigits)
  obtain ⟨rank, hread, hwhole⟩ := Binary64.exists_read?_eq hne hdigits hn
  refine ⟨.finite false rank, htrim.symm ▸ hread, ?_⟩
  rw [← hwhole]
  rfl

/-- The day that serials are counted from. -/
def firstDay : Date := ⟨1899, 12, 30⟩

/-- The days between the 30th of December 1899 and the 31st of December 9999. -/
def lastCount : Nat := 2958465

/-- The days between the 30th of December 1899 and the day of a whole serial. -/
def count (epoch : Epoch) (n : Nat) : Nat :=
  match epoch with
  | .from1904 => n + 1462
  | .from1900 => if n < 60 then n + 1 else n

lemma count_of_lt {n : Nat} (h : n < 60) : count .from1900 n = n + 1 := if_pos h

lemma count_of_le {n : Nat} (h : 60 ≤ n) : count .from1900 n = n := by
  simp only [count, if_neg (Nat.not_lt.mpr h)]

/-- Only behind the day that never was no day is counted. -/
lemma count_succ {n : Nat} (h : n ≠ 59) : count .from1900 (n + 1) = count .from1900 n + 1 := by
  rcases Nat.lt_or_ge n 59 with hn | hn
  · rw [count_of_lt (by omega), count_of_lt (by omega)]
  · rw [count_of_le (by omega), count_of_le (by omega)]

lemma count_le {n : Nat} (h : n ≤ lastCount) : count .from1900 n ≤ lastCount := by
  rcases Nat.lt_or_ge n 60 with hn | hn
  · rw [count_of_lt hn, lastCount]
    omega
  · rwa [count_of_le hn]

lemma ofDays_december1899 : Date.ofDays Date.december1899 = firstDay := by decide +kernel

lemma after_lastCount : firstDay.after lastCount = ⟨9999, 12, 31⟩ := by
  rw [← ofDays_december1899, ← Date.ofDays_add]
  decide +kernel

lemma natCast_count (epoch : Epoch) (n : Nat) : (count epoch n : Int) = n + offset epoch n := by
  cases epoch with
  | from1904 => rfl
  | from1900 =>
    rcases Nat.lt_or_ge n 60 with hn | hn
    · rw [count_of_lt hn, offset, if_pos (by omega)]
      rfl
    · rw [count_of_le hn, offset, if_neg (by omega), Int.add_zero]

lemma dateOf_natCast (epoch : Epoch) (n : Nat) :
    dateOf epoch n = firstDay.after (count epoch n) := by
  rw [dateOf, Int.add_assoc, ← natCast_count, Date.ofDays_add, ofDays_december1899]

lemma chars_of_writes {epoch : Epoch} {n : Nat} {value : List Char} (h : Writes n value)
    (hn : count epoch n ≤ lastCount) :
    chars .date epoch value = some (firstDay.after (count epoch n)).chars := by
  have hcount := natCast_count epoch n
  have hoffset := offset_bounds epoch n
  rw [lastCount] at hn
  have hbits : n < 2 * Binary64.binade := Nat.lt_trans (show n < 2958466 by omega) (by decide)
  obtain ⟨serial, hread, hdays⟩ := h.exists_read? hbits
  have hreaches : Reaches epoch n := by
    rw [Reaches]
    omega
  rw [chars_eq_some hread hdays hreaches, dateOf_natCast]
  rfl

/-- Up to the end of the year 9999, later days have greater texts. -/
lemma chars_after_lt {k : Nat} (h : k + 1 ≤ lastCount) :
    (firstDay.after k).chars < (firstDay.after (k + 1)).chars := by
  have hreal : firstDay.IsReal := ofDays_december1899 ▸ Date.isReal_ofDays _
  have hstart : 0 ≤ (firstDay.after k).year :=
    Int.le_trans (show (0 : Int) ≤ 1899 by decide) (Date.year_le_after firstDay k)
  have hend : (firstDay.after (k + 1)).year ≤ 9999 := by
    have hyear := Date.year_le_after (firstDay.after (k + 1)) (lastCount - (k + 1))
    rwa [← Date.after_add, Nat.sub_add_cancel h, after_lastCount] at hyear
  refine Date.chars_lt_chars ?_ (hreal.after k) (hreal.after (k + 1)) hstart hend
  rw [Date.after_succ]
  exact Date.isBefore_next _

/-! ### Texts of any values -/

/-- The text that a stored serial is to have: its day and its second, if it is a number of a day
that the calendar reaches, and else what is stored. -/
inductive Shows (kind : SerialKind) (epoch : Epoch) (value : String) : String → Prop where
  | reached {serial : Binary64} {days : Int}
      (read : Binary64.read? (trim value.toList) = some serial) (number : serial ≠ .nan)
      (whole : wholeDays serial = some days) (reaches : Reaches epoch days) :
      Shows kind epoch value
        (String.ofList (shown kind (dateOf epoch days) (secondOfDay serial)))
  | stored (h : ∀ serial days, Binary64.read? (trim value.toList) = some serial → serial ≠ .nan →
      wholeDays serial = some days → ¬ Reaches epoch days) : Shows kind epoch value value

/-- What shows the day of zero is not written `nan`. -/
lemma read?_shown_zero (kind : SerialKind) (epoch : Epoch) :
    Binary64.read? (trim (shown kind (dateOf epoch 0) 0)) = none := by
  cases kind <;> cases epoch <;> decide +kernel

lemma not_shows_of_nan {kind : SerialKind} {epoch : Epoch} {value : String}
    (hnan : Binary64.read? (trim value.toList) = some .nan) :
    ¬ Shows kind epoch value (String.ofList (shown kind (dateOf epoch 0) 0)) := by
  generalize hs : String.ofList (shown kind (dateOf epoch 0) 0) = s
  rintro (⟨hread, hnumber, -, -⟩ | -)
  · exact hnumber (Option.some.inj (hread.symm.trans hnan))
  · rw [← hs, String.toList_ofList, read?_shown_zero] at hnan
    cases hnan

end Serial

namespace Cell

open Serial Text

/-- The cell shows the day of a whole serial. -/
structure HoldsDay (epoch : Epoch) (n : Nat) (cell : Cell) : Prop where
  kind : cell.kind = .serial .date epoch
  value : Writes n cell.value.toList

lemma text_of_chars {cell : Cell} {kind : SerialKind} {epoch : Epoch} {chars : List Char}
    (hkind : cell.kind = .serial kind epoch)
    (h : Serial.chars kind epoch cell.value.toList = some chars) :
    cell.text = some (String.ofList chars) := by
  simp only [text, hkind, h]

lemma HoldsDay.text_eq {epoch : Epoch} {n : Nat} {cell : Cell} (h : HoldsDay epoch n cell)
    (hn : count epoch n ≤ lastCount) :
    cell.text = some (String.ofList (firstDay.after (count epoch n)).chars) :=
  text_of_chars h.kind (chars_of_writes h.value hn)

/-- A serial without a day is shown as it is stored. -/
lemma text_eq_value {cell : Cell} {kind : SerialKind} {epoch : Epoch}
    (hkind : cell.kind = .serial kind epoch)
    (h : ∀ serial days, Binary64.read? (trim cell.value.toList) = some serial →
      wholeDays serial = some days → ¬ Reaches epoch days) :
    cell.text = some cell.value := by
  have hchars : Serial.chars kind epoch cell.value.toList = none := by
    cases hread : Binary64.read? (trim cell.value.toList) with
    | none => simp [Serial.chars, hread]
    | some serial => simp [Serial.chars, hread, day_eq_none fun days => h serial days hread]
  simp only [text, hkind, hchars]

lemma exists_shows {cell : Cell} {kind : SerialKind} {epoch : Epoch}
    (hkind : cell.kind = .serial kind epoch)
    (hnan : Binary64.read? (trim cell.value.toList) ≠ some .nan) :
    ∃ s, cell.text = some s ∧ Shows kind epoch cell.value s := by
  by_cases h : ∃ serial days, Binary64.read? (trim cell.value.toList) = some serial ∧
      wholeDays serial = some days ∧ Reaches epoch days
  · obtain ⟨serial, days, hread, hdays, hreaches⟩ := h
    have hnumber : serial ≠ .nan := by
      rintro rfl
      exact hnan hread
    exact ⟨_, text_of_chars hkind (chars_eq_some hread hdays hreaches),
      .reached hread hnumber hdays hreaches⟩
  · have hstored : ∀ serial days, Binary64.read? (trim cell.value.toList) = some serial →
        wholeDays serial = some days → ¬ Reaches epoch days :=
      fun serial days hread hdays hreaches => h ⟨serial, days, hread, hdays, hreaches⟩
    exact ⟨_, text_eq_value hkind hstored,
      .stored fun serial days hread _ => hstored serial days hread⟩

/-- What is written `nan` shows the day of zero. -/
lemma text_of_nan {cell : Cell} {kind : SerialKind} {epoch : Epoch}
    (hkind : cell.kind = .serial kind epoch)
    (hnan : Binary64.read? (trim cell.value.toList) = some .nan) :
    cell.text = some (String.ofList (shown kind (dateOf epoch 0) 0)) := by
  have hreaches : Reaches epoch 0 := by cases epoch <;> exact ⟨by decide, by decide⟩
  exact text_of_chars hkind (chars_eq_some hnan rfl hreaches)

/-- The epochs are 1462 days apart. -/
lemma HoldsDay.text_eq_text {n : Nat} {cell cell' : Cell} (hn : n + 1462 ≤ lastCount)
    (h : HoldsDay .from1904 n cell) (h' : HoldsDay .from1900 (n + 1462) cell') :
    cell.text = cell'.text := by
  have hcount : count .from1900 (n + 1462) = n + 1462 := count_of_le (by omega)
  rw [h.text_eq hn, h'.text_eq (hcount.symm ▸ hn), hcount]
  rfl

/-- Texts are ordered as the serials, but that of 59 is shown once more. -/
lemma HoldsDay.exists_texts {n : Nat} {cell cell' : Cell} (hn : n + 1 ≤ lastCount)
    (h : HoldsDay .from1900 n cell) (h' : HoldsDay .from1900 (n + 1) cell') :
    ∃ s t, cell.text = some s ∧ cell'.text = some t ∧ if n = 59 then s = t else s < t := by
  have htext := h.text_eq (count_le (Nat.le_of_succ_le hn))
  have htext' := h'.text_eq (count_le hn)
  refine ⟨_, _, htext, htext', ?_⟩
  split
  · next h59 =>
    subst h59
    rfl
  · next h59 =>
    have hcount : count .from1900 (n + 1) = count .from1900 n + 1 := count_succ h59
    rw [hcount, String.lt_iff_toList_lt, String.toList_ofList, String.toList_ofList]
    exact chars_after_lt (hcount ▸ count_le hn)

/-- Serials below 60 count from the 31st of December 1899, all others from the day before. -/
lemma HoldsDay.text_eq_after {n : Nat} {cell : Cell} (hn : n ≤ lastCount)
    (h : HoldsDay .from1900 n cell) :
    cell.text = some (String.ofList (if n < 60 then (⟨1899, 12, 31⟩ : Date).after n
      else (⟨1899, 12, 30⟩ : Date).after n).chars) := by
  rw [h.text_eq (count_le hn)]
  split
  · next hbefore =>
    rw [count_of_lt hbefore, Date.after_add]
    rfl
  · next hbehind =>
    rw [count_of_le (Nat.not_lt.mp hbehind)]
    rfl

/-- The text of a serial. Whatever is stored, there is one, and it is the one to be shown unless
what is stored is written `nan`. Up to the 31st of December 9999 the epochs are 1462 days apart; the
texts under the epoch of 1900 are ordered as their serials, except that 59 and 60 have the same one;
and they are those of the days counted from the 31st of December 1899 or, behind the day that never
was, from the day before. Counting in words of 64 bits refuses no day that is reached. -/
theorem text_serial (cell : Cell) :
    (∀ kind epoch, cell.kind = .serial kind epoch → ∃ s, cell.text = some s ∧
      (Shows kind epoch cell.value s ↔
        Binary64.read? (trim cell.value.toList) ≠ some .nan)) ∧
    (∀ n cell', n + 1462 ≤ lastCount → HoldsDay .from1904 n cell →
      HoldsDay .from1900 (n + 1462) cell' → cell.text = cell'.text) ∧
    (∀ n cell', n + 1 ≤ lastCount → HoldsDay .from1900 n cell →
      HoldsDay .from1900 (n + 1) cell' →
      ∃ s t, cell.text = some s ∧ cell'.text = some t ∧ if n = 59 then s = t else s < t) ∧
    (∀ n, n ≤ lastCount → HoldsDay .from1900 n cell →
      cell.text = some (String.ofList (if n < 60 then (⟨1899, 12, 31⟩ : Date).after n
        else (⟨1899, 12, 30⟩ : Date).after n).chars)) ∧
    firstDay.after lastCount = ⟨9999, 12, 31⟩ ∧
    ∀ epoch serial, wordDay epoch serial = day epoch serial := by
  refine ⟨fun kind epoch hkind => ?_, fun n cell' => HoldsDay.text_eq_text,
    fun n cell' => HoldsDay.exists_texts, fun n => HoldsDay.text_eq_after, after_lastCount,
    wordDay_eq_day⟩
  by_cases hnan : Binary64.read? (trim cell.value.toList) = some .nan
  · exact ⟨_, text_of_nan hkind hnan, iff_of_false (not_shows_of_nan hnan) (not_not.mpr hnan)⟩
  · obtain ⟨s, htext, hshows⟩ := exists_shows hkind hnan
    exact ⟨s, htext, iff_of_true hshows hnan⟩

/-- The cell with a whole serial in digits. -/
def ofSerial (epoch : Epoch) (n : Nat) : Cell :=
  ⟨2, 1, .serial .date epoch, String.ofList (decimal n)⟩

lemma holdsDay_ofSerial (epoch : Epoch) (n : Nat) : HoldsDay epoch n (ofSerial epoch n) where
  kind := rfl
  value := (String.toList_ofList (l := decimal n)).symm ▸ writes_decimal n

theorem text_serial_march :
    (ofSerial .from1904 59).text = (ofSerial .from1900 1521).text ∧
    (∃ s t, (ofSerial .from1900 60).text = some s ∧ (ofSerial .from1900 61).text = some t ∧ s < t) ∧
    (ofSerial .from1900 61).text = some "1900-03-01" ∧
    (∃ s, (⟨2, 1, .serial .dateTime .from1904, "1 March"⟩ : Cell).text = some s ∧
      Shows .dateTime .from1904 "1 March" s) := by
  have hmarch : (⟨1899, 12, 30⟩ : Date).after 61 = ⟨1900, 3, 1⟩ := by decide +kernel
  have hword : Binary64.read? (trim "1 March".toList) ≠ some .nan := by decide
  obtain ⟨-, -, horder, -, -, -⟩ := text_serial (ofSerial .from1900 60)
  obtain ⟨-, -, -, hdates, -, -⟩ := text_serial (ofSerial .from1900 61)
  obtain ⟨s, htext, hshows⟩ :=
    (text_serial ⟨2, 1, .serial .dateTime .from1904, "1 March"⟩).1 .dateTime .from1904 rfl
  refine ⟨(text_serial (ofSerial .from1904 59)).2.1 59 _ (by decide) (holdsDay_ofSerial _ _)
    (holdsDay_ofSerial _ _), horder 60 _ (by decide) (holdsDay_ofSerial _ _)
    (holdsDay_ofSerial _ _), ?_, s, htext, hshows.mpr hword⟩
  rw [hdates 61 (by decide) (holdsDay_ofSerial _ _), if_neg (by decide), hmarch]
  decide +kernel

/-- What is no number shows a day all the same where it is written `NaN`. -/
theorem text_nan :
    (⟨2, 1, .serial .date .from1900, "NaN"⟩ : Cell).text = some "1899-12-31" ∧
      (⟨2, 1, .serial .date .from1900, "NaN"⟩ : Cell).text ≠ some "NaN" := by
  decide +kernel

end Cell

end DataDictionary
