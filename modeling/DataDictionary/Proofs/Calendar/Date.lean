import DataDictionary.Calendar.Date
import Mathlib.Logic.Function.Iterate
import Mathlib.Data.Nat.Init
import Mathlib.Tactic.SplitIfs

/-!
# Days one after the other

The calendar told by what comes behind a day: the next day of its month, or the first one of the
next month, or the first one of the next year. Counting days is counting these steps, so that the
day of a count is the one that many steps behind the day of zero.
-/

namespace DataDictionary.Date

/-! ### The next day -/

/-- The day behind a day. -/
def next (d : Date) : Date :=
  if d.day < daysIn d.year d.month then { d with day := d.day + 1 }
  else if d.month < 12 then { d with month := d.month + 1, day := 1 }
  else { year := d.year + 1, month := 1, day := 1 }

/-- The day that stands some days behind a day. -/
def after (d : Date) (n : Nat) : Date := next^[n] d

@[simp] lemma after_zero (d : Date) : d.after 0 = d := rfl

lemma after_succ (d : Date) (n : Nat) : d.after (n + 1) = (d.after n).next :=
  Function.iterate_succ_apply' next n d

lemma after_add (d : Date) (m n : Nat) : d.after (m + n) = (d.after n).after m :=
  Function.iterate_add_apply next m n d

/-! ### Years that begin in March -/

/-- The day of a year that is counted from its first March: its months are those up to February of
the year behind it. -/
def inYear (year : Int) (dayOfYear : Nat) : Date :=
  let month := (5 * dayOfYear + 2) / 153
  { year := year + (if month < 10 then 0 else 1)
    month := if month < 10 then month + 3 else month - 9
    day := dayOfYear - (153 * month + 2) / 5 + 1 }

/-- A year that is counted from its first March has a day of this number. -/
def IsDayOf (year : Int) (dayOfYear : Nat) : Prop :=
  dayOfYear < 365 ∨ dayOfYear = 365 ∧ isLeap (year + 1) = true

lemma isLeap_iff (year : Int) :
    isLeap year = true ↔ year % 4 = 0 ∧ (year % 100 ≠ 0 ∨ year % 400 = 0) := by
  simp [isLeap]

/-- Every cycle has the same days. -/
lemma isDayOf_iff (cycle : Int) (year dayOfYear : Nat) :
    IsDayOf (400 * cycle + year) dayOfYear ↔ dayOfYear < 365 ∨ dayOfYear = 365 ∧
      4 ∣ year + 1 ∧ (¬ 100 ∣ year + 1 ∨ 400 ∣ year + 1) := by
  rw [IsDayOf, isLeap_iff]
  omega

/-- Years with the same day in February have the same days. -/
lemma next_add_year {d : Date} (h : d.month = 2 → d.day < 28) (years : Int) :
    next { d with year := d.year + years } = { d.next with year := d.next.year + years } := by
  have hday : d.day < daysIn (d.year + years) d.month ↔ d.day < daysIn d.year d.month := by
    by_cases hmonth : d.month = 2
    · have hfebruary (year : Int) : 28 ≤ daysIn year 2 := by
        show 28 ≤ if isLeap year then 29 else 28
        split <;> decide
      have hbound := h hmonth
      rw [hmonth]
      exact iff_of_true (Nat.lt_of_lt_of_le hbound (hfebruary _))
        (Nat.lt_of_lt_of_le hbound (hfebruary _))
    · simp [daysIn, hmonth]
  by_cases hlast : d.day < daysIn d.year d.month
  · simp [next, hday, hlast]
  by_cases hyear : d.month < 12
  · simp [next, hday, hlast, hyear]
  · simp [next, hday, hlast, hyear, Int.add_right_comm]

lemma inYear_eq (year : Int) (dayOfYear : Nat) :
    inYear year dayOfYear =
      { inYear 0 dayOfYear with year := (inYear 0 dayOfYear).year + year } := by
  simp [inYear, Int.add_comm]

/-- Up to the 28th of February the days of all years are the same. -/
lemma next_inYear_zero : ∀ dayOfYear < 364,
    (inYear 0 dayOfYear).next = inYear 0 (dayOfYear + 1) ∧
      ((inYear 0 dayOfYear).month = 2 → (inYear 0 dayOfYear).day < 28) := by
  decide +kernel

/-- Inside a year the days are counted one by one. -/
lemma next_inYear {year : Int} {dayOfYear : Nat} (h : IsDayOf year (dayOfYear + 1)) :
    (inYear year dayOfYear).next = inYear year (dayOfYear + 1) := by
  by_cases hday : dayOfYear < 364
  · obtain ⟨hnext, hfebruary⟩ := next_inYear_zero dayOfYear hday
    rw [inYear_eq year, next_add_year hfebruary, hnext, ← inYear_eq]
  · rcases h with h | ⟨h, hleap⟩
    · omega
    · obtain rfl : dayOfYear = 364 := by omega
      simp [inYear, next, daysIn, hleap]

/-- Behind the last day of February the first of March begins the year anew. -/
lemma next_inYear_last {year : Int} {dayOfYear : Nat} (h : IsDayOf year dayOfYear)
    (hlast : ¬ IsDayOf year (dayOfYear + 1)) :
    (inYear year dayOfYear).next = inYear (year + 1) 0 := by
  rw [IsDayOf] at h hlast
  rcases h with h | ⟨rfl, hleap⟩
  · obtain rfl : dayOfYear = 364 := by omega
    have hcommon : isLeap (year + 1) = false := by simpa using hlast
    simp [inYear, next, daysIn, hcommon]
  · simp [inYear, next, daysIn, hleap]

/-! ### Counts of days -/

/-- The days in front of a year of a cycle. -/
def startOf (year : Nat) : Nat := 365 * year + year / 4 - year / 100 + year / 400

lemma startOf_succ (year : Nat) :
    startOf (year + 1) = startOf year +
      if 4 ∣ year + 1 ∧ (¬ 100 ∣ year + 1 ∨ 400 ∣ year + 1) then 366 else 365 := by
  have hle : year / 100 ≤ year := Nat.div_le_self _ _
  rw [startOf, startOf, Nat.succ_div, Nat.succ_div, Nat.succ_div]
  split_ifs <;> omega

/-- A year ends behind its last day. -/
lemma startOf_succ_of_last {cycle : Int} {year dayOfYear : Nat}
    (h : IsDayOf (400 * cycle + year) dayOfYear)
    (hlast : ¬ IsDayOf (400 * cycle + year) (dayOfYear + 1)) :
    startOf (year + 1) = startOf year + dayOfYear + 1 := by
  rw [isDayOf_iff] at h hlast
  rw [startOf_succ]
  split <;> omega

/-- A day of a cycle is found by its century, by four years of this and by its year of these. The
last day of the cycle is one more. -/
lemma yearOfCycle_eq {century fourYears day : Nat} (hcentury : century < 4)
    (hfourYears : fourYears < 25) (hday : day ≤ 1460)
    (hlast : fourYears = 24 → day = 1460 → century = 3) :
    yearOfCycle (36524 * century + 1461 * fourYears + day) =
      100 * century + 4 * fourYears + min (day / 365) 3 := by
  by_cases hend : 1461 * fourYears + day < 36524
  · have hcenturies : (36524 * century + 1461 * fourYears + day) / 36524 = century := by omega
    have hcycle : (36524 * century + 1461 * fourYears + day) / 146096 = 0 := by omega
    rw [yearOfCycle, hcenturies, hcycle]
    by_cases hleap : 24 * century + fourYears + day < 1460
    · have hleaps : (36524 * century + 1461 * fourYears + day) / 1460 =
          25 * century + fourYears := by omega
      rw [hleaps]
      omega
    · have hleaps : (36524 * century + 1461 * fourYears + day) / 1460 =
          25 * century + fourYears + 1 := by omega
      rw [hleaps]
      omega
  · obtain rfl : fourYears = 24 := by omega
    obtain rfl : day = 1460 := by omega
    obtain rfl := hlast rfl rfl
    rfl

/-- A day of a cycle is found in its year. -/
lemma yearOfCycle_startOf {cycle : Int} {year dayOfYear : Nat} (hyear : year < 400)
    (h : IsDayOf (400 * cycle + year) dayOfYear) :
    yearOfCycle (startOf year + dayOfYear) = year := by
  rw [isDayOf_iff] at h
  have hday : startOf year + dayOfYear =
      36524 * (year / 100) + 1461 * (year % 100 / 4) + (365 * (year % 4) + dayOfYear) := by
    have hleaps : year / 4 = 25 * (year / 100) + year % 100 / 4 := by omega
    rw [startOf, hleaps, Nat.div_eq_of_lt hyear]
    omega
  rw [hday, yearOfCycle_eq (by omega) (by omega) (by omega) (by omega)]
  omega

/-- A count of days is told by its cycle, its year and its day. -/
lemma ofDays_eq {cycle : Int} {year dayOfYear : Nat} (hyear : year < 400)
    (h : IsDayOf (400 * cycle + year) dayOfYear) {n : Int}
    (hn : n = 146097 * cycle + startOf year + dayOfYear) :
    ofDays n = inYear (400 * cycle + year) dayOfYear := by
  have hbound : startOf year + dayOfYear < 146097 := by
    rw [isDayOf_iff] at h
    rw [startOf]
    omega
  have hcycle : Int.fdiv n cycleDays = cycle := by
    rw [Int.fdiv_eq_ediv_of_nonneg _ (by decide), cycleDays]
    omega
  have hday : (Int.fmod n cycleDays).toNat = startOf year + dayOfYear := by
    rw [Int.fmod_eq_emod_of_nonneg _ (by decide), cycleDays]
    omega
  have hstart : startOf year + dayOfYear - (365 * year + year / 4 - year / 100) = dayOfYear := by
    rw [startOf, Nat.div_eq_of_lt hyear]
    omega
  rw [ofDays, hcycle, hday, yearOfCycle_startOf hyear h, hstart]
  rfl

/-- Every day of a cycle is one of a year. -/
lemma exists_eq_startOf (cycle : Int) {day : Nat} (h : day < 146097) :
    ∃ year dayOfYear : Nat, year < 400 ∧ IsDayOf (400 * cycle + year) dayOfYear ∧
      day = startOf year + dayOfYear := by
  induction day with
  | zero => exact ⟨0, 0, by decide, .inl (by decide), rfl⟩
  | succ day ih =>
    obtain ⟨year, dayOfYear, hyear, hday, rfl⟩ := ih (by omega)
    by_cases hnext : IsDayOf (400 * cycle + year) (dayOfYear + 1)
    · exact ⟨year, dayOfYear + 1, hyear, hnext, rfl⟩
    · have hstart := startOf_succ_of_last hday hnext
      have hend : year ≠ 399 := by
        rintro rfl
        rw [show startOf (399 + 1) = 146097 from rfl] at hstart
        omega
      exact ⟨year + 1, 0, by omega, .inl (by decide), hstart.symm⟩

/-- The day behind a count of days is the one of the next count. -/
theorem ofDays_succ (n : Int) : ofDays (n + 1) = (ofDays n).next := by
  have hn : n = 146097 * (n / 146097) + (n % 146097).toNat := by omega
  obtain ⟨year, dayOfYear, hyear, hday, hsum⟩ :=
    exists_eq_startOf (n / 146097) (show (n % 146097).toNat < 146097 by omega)
  generalize n / 146097 = cycle at *
  have hofDays : ofDays n = inYear (400 * cycle + year) dayOfYear :=
    ofDays_eq hyear hday (by omega)
  rw [hofDays]
  by_cases hnext : IsDayOf (400 * cycle + year) (dayOfYear + 1)
  · rw [next_inYear hnext]
    exact ofDays_eq hyear hnext (by omega)
  · have hstart := startOf_succ_of_last hday hnext
    rw [next_inYear_last hday hnext]
    by_cases hlast : year + 1 < 400
    · have hfirst : IsDayOf (400 * cycle + (year + 1 : Nat)) 0 := .inl (by decide)
      rw [ofDays_eq hlast hfirst (by omega), Int.natCast_add, Int.add_assoc]
      rfl
    · -- the cycle ends with the year
      obtain rfl : year = 399 := by omega
      rw [show startOf (399 + 1) = 146097 from rfl] at hstart
      have hfirst : IsDayOf (400 * (cycle + 1) + (0 : Nat)) 0 := .inl (by decide)
      have hzero : startOf 0 = 0 := rfl
      rw [ofDays_eq (by decide) hfirst (by omega)]
      congr 1
      omega

/-- Counting on is counting days. -/
lemma ofDays_add (n : Int) (k : Nat) : ofDays (n + k) = (ofDays n).after k := by
  induction k with
  | zero => simp
  | succ k ih => rw [Int.natCast_add, ← Int.add_assoc, Int.natCast_one, ofDays_succ, ih, after_succ]

/-! ### Days of the calendar -/

/-- The day is one of its month, and the month one of the year. -/
structure IsReal (d : Date) : Prop where
  month_pos : 1 ≤ d.month
  month_le : d.month ≤ 12
  day_pos : 1 ≤ d.day
  day_le : d.day ≤ daysIn d.year d.month

lemma one_le_daysIn (year : Int) (month : Nat) : 1 ≤ daysIn year month := by
  rw [daysIn]
  split_ifs <;> decide

lemma daysIn_le (year : Int) (month : Nat) : daysIn year month ≤ 31 := by
  rw [daysIn]
  split_ifs <;> decide

lemma IsReal.next {d : Date} (h : d.IsReal) : d.next.IsReal := by
  rw [Date.next]
  split
  · next hday => exact ⟨h.month_pos, h.month_le, Nat.le_add_left 1 _, hday⟩
  split
  · next hmonth => exact ⟨Nat.le_add_left 1 _, hmonth, Nat.le_refl 1, one_le_daysIn _ _⟩
  · exact ⟨Nat.le_refl 1, Nat.le_add_left 1 11, Nat.le_refl 1, one_le_daysIn _ _⟩

lemma IsReal.after {d : Date} (h : d.IsReal) (n : Nat) : (d.after n).IsReal := by
  induction n with
  | zero => exact h
  | succ n ih =>
    rw [after_succ]
    exact ih.next

/-- Every count of days is that of a day of the calendar. -/
theorem isReal_ofDays (n : Int) : (ofDays n).IsReal := by
  have hn : n = 146097 * (n / 146097) + (n % 146097).toNat := by omega
  have hfirst : IsDayOf (400 * (n / 146097) + (0 : Nat)) 0 := .inl (by decide)
  have hmarch : (ofDays (146097 * (n / 146097))).IsReal := by
    rw [ofDays_eq (by decide) hfirst (by simp [startOf])]
    exact ⟨by simp [inYear], by simp [inYear], by simp [inYear], by simp [inYear, daysIn]⟩
  rw [hn, ofDays_add]
  exact hmarch.after _

/-- The day comes before another one. -/
def IsBefore (d e : Date) : Prop :=
  d.year < e.year ∨ d.year = e.year ∧ (d.month < e.month ∨ d.month = e.month ∧ d.day < e.day)

lemma isBefore_next (d : Date) : d.IsBefore d.next := by
  rw [next]
  split
  · exact .inr ⟨rfl, .inr ⟨rfl, Nat.lt_succ_self _⟩⟩
  split
  · exact .inr ⟨rfl, .inl (Nat.lt_succ_self _)⟩
  · exact .inl (Int.lt_add_one_of_le (Int.le_refl _))

lemma IsBefore.year_le {d e : Date} (h : d.IsBefore e) : d.year ≤ e.year := by
  rcases h with h | ⟨h, -⟩
  · exact Int.le_of_lt h
  · exact Int.le_of_eq h

lemma year_le_after (d : Date) (n : Nat) : d.year ≤ (d.after n).year := by
  induction n with
  | zero => exact Int.le_refl _
  | succ n ih =>
    rw [after_succ]
    exact Int.le_trans ih (isBefore_next _).year_le

/-- A greater count is that of a day in no earlier year. -/
lemma year_ofDays_le {m n : Int} (h : m ≤ n) : (ofDays m).year ≤ (ofDays n).year := by
  obtain ⟨k, rfl⟩ := Int.le.dest h
  rw [ofDays_add]
  exact year_le_after _ k

/-- The counts of the first and of the last day that are kept. -/
theorem inYears_ofDays_iff (n : Int) :
    inYears (ofDays n).year = true ↔ -95745824 ≤ n ∧ n ≤ 95745704 := by
  have hfirst : ofDays (-95745824) = ⟨-262143, 1, 1⟩ := by decide +kernel
  have hbefore : ofDays (-95745825) = ⟨-262144, 12, 31⟩ := by decide +kernel
  have hlast : ofDays 95745704 = ⟨262142, 12, 31⟩ := by decide +kernel
  have hbehind : ofDays 95745705 = ⟨262143, 1, 1⟩ := by decide +kernel
  rw [inYears, Bool.and_eq_true, decide_eq_true_eq, decide_eq_true_eq]
  constructor
  · rintro ⟨hlow, hhigh⟩
    constructor
    · by_contra hn
      have hyear := year_ofDays_le (show n ≤ -95745825 by omega)
      rw [hbefore] at hyear
      exact absurd (Int.le_trans hlow hyear) (by decide)
    · by_contra hn
      have hyear := year_ofDays_le (show 95745705 ≤ n by omega)
      rw [hbehind] at hyear
      exact absurd (Int.le_trans hyear hhigh) (by decide)
  · rintro ⟨hlow, hhigh⟩
    have hyear := year_ofDays_le hlow
    have hyear' := year_ofDays_le hhigh
    rw [hfirst] at hyear
    rw [hlast] at hyear'
    exact ⟨hyear, hyear'⟩

/-! ### Text -/

/-- Texts of one length are ordered by what stands in front. -/
lemma append_lt_append {a b : List Char} (h : a < b) (hlength : a.length = b.length)
    (x y : List Char) : a ++ x < b ++ y := by
  induction a generalizing b with
  | nil =>
    cases b with
    | nil => exact absurd h (List.lt_irrefl [])
    | cons d b => simp at hlength
  | cons c a ih =>
    cases b with
    | nil => simp at hlength
    | cons d b =>
      rw [List.cons_lt_cons_iff] at h
      rw [List.cons_append, List.cons_append, List.cons_lt_cons_iff]
      refine h.imp_right fun ⟨hcd, hab⟩ => ⟨hcd, ih hab (by simpa using hlength)⟩

lemma decimal_of_lt {n : Nat} (h : n < 10) : (Text.decimal n).length = 1 := by
  have hdigits : ∀ n < 10, (Text.decimal n).length = 1 := by decide
  exact hdigits n h

/-- One more digit is put behind the others. -/
lemma padded_succ {width : Nat} (h : 0 < width) (n : Nat) :
    padded (width + 1) n = padded width (n / 10) ++ Text.decimal (n % 10) := by
  have hdigit : (Text.decimal (n % 10)).length = 1 := decimal_of_lt (Nat.mod_lt n (by decide))
  by_cases hn : n < 10
  · have hzeros : width + 1 - 1 = width - 1 + 1 := by omega
    have hzero : Text.decimal 0 = ['0'] := by decide
    rw [Nat.mod_eq_of_lt hn] at hdigit ⊢
    rw [Nat.div_eq_of_lt hn]
    simp only [padded, hdigit, hzero, hzeros, List.replicate_succ', List.length_singleton]
  · have hdigits : Text.decimal n = Text.decimal (n / 10) ++ Text.decimal (n % 10) := by
      have happend : Text.decimal (n / 10) ++ Text.decimal (n % 10) =
          Text.decimal (10 * (n / 10) + n % 10) :=
        Nat.toDigits_append_toDigits (by decide) (by omega) (Nat.mod_lt n (by decide))
      rw [happend, Nat.div_add_mod]
    simp only [padded, hdigits, List.length_append, hdigit, Nat.add_sub_add_right,
      List.append_assoc]

lemma div_ten_lt {width n : Nat} (h : n < Nat.pow 10 (width + 1)) : n / 10 < Nat.pow 10 width :=
  Nat.div_lt_of_lt_mul (Nat.mul_comm 10 _ ▸ h)

lemma length_padded {width n : Nat} (h : 0 < width) (hn : n < Nat.pow 10 width) :
    (padded width n).length = width := by
  induction width, h using Nat.le_induction generalizing n with
  | base => simp [padded, decimal_of_lt hn]
  | succ width hwidth ih =>
    have hdigit := decimal_of_lt (Nat.mod_lt n (show 0 < 10 by decide))
    have hrest : n / 10 < Nat.pow 10 width := div_ten_lt hn
    rw [padded_succ hwidth, List.length_append, ih hrest, hdigit]

/-- Numbers of one width are ordered as their texts are. -/
lemma padded_lt_padded {width m n : Nat} (h : 0 < width) (hmn : m < n) (hn : n < Nat.pow 10 width) :
    padded width m < padded width n := by
  have hdigits : ∀ n < 10, ∀ m < n, Text.decimal m < Text.decimal n := by decide
  induction width, h using Nat.le_induction generalizing m n with
  | base =>
    have hm : m < 10 := Nat.lt_trans hmn hn
    simpa [padded, decimal_of_lt hn, decimal_of_lt hm] using hdigits n hn m hmn
  | succ width hwidth ih =>
    have hrest : n / 10 < Nat.pow 10 width := div_ten_lt hn
    rw [padded_succ hwidth, padded_succ hwidth]
    by_cases hfront : m / 10 < n / 10
    · refine append_lt_append (ih hfront hrest) ?_ _ _
      rw [length_padded hwidth hrest, length_padded hwidth (Nat.lt_trans hfront hrest)]
    · have heq : m / 10 = n / 10 := by omega
      rw [heq]
      exact List.append_left_lt (hdigits _ (Nat.mod_lt n (by decide)) _ (by omega))

/-- In years of four digits, later days have greater texts. -/
theorem chars_lt_chars {d e : Date} (h : d.IsBefore e) (hd : d.IsReal) (he : e.IsReal)
    (hstart : 0 ≤ d.year) (hend : e.year ≤ 9999) : d.chars < e.chars := by
  have hyears : d.year ≤ e.year := h.year_le
  have hbound {d : Date} (hd : d.IsReal) : d.month < 10 ^ 2 ∧ d.day < 10 ^ 2 := by
    have hmonth := hd.month_le
    have hday := Nat.le_trans hd.day_le (daysIn_le _ _)
    omega
  have hyear {d : Date} (hlow : 0 ≤ d.year) (hhigh : d.year ≤ 9999) :
      yearChars d.year = padded 4 d.year.toNat ∧ d.year.toNat < 10 ^ 4 := by
    rw [yearChars, if_pos (by simp [hlow, hhigh])]
    exact ⟨rfl, by omega⟩
  obtain ⟨hdyear, hdlt⟩ := hyear hstart (by omega)
  obtain ⟨heyear, helt⟩ := hyear (by omega) hend
  obtain ⟨hdmonth, hdday⟩ := hbound hd
  obtain ⟨hemonth, heday⟩ := hbound he
  rw [chars, chars, hdyear, heyear]
  simp only [List.append_assoc]
  rcases h with h | ⟨h, hrest⟩
  · refine append_lt_append (padded_lt_padded (by decide) (by omega) helt) ?_ _ _
    rw [length_padded (by decide) hdlt, length_padded (by decide) helt]
  rw [h]
  refine List.append_left_lt (List.cons_lt_cons_iff.mpr (.inr ⟨rfl, ?_⟩))
  rcases hrest with hmonth | ⟨hmonth, hday⟩
  · refine append_lt_append (padded_lt_padded (by decide) hmonth hemonth) ?_ _ _
    rw [length_padded (by decide) hdmonth, length_padded (by decide) hemonth]
  · rw [hmonth]
    exact List.append_left_lt (List.cons_lt_cons_iff.mpr
      (.inr ⟨rfl, padded_lt_padded (by decide) hday heday⟩))

end DataDictionary.Date
