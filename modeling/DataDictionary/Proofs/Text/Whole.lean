import DataDictionary.Text.Whole
import Mathlib.Data.List.Basic

/-!
# Whole numbers that are read back

The decimal digits of a number are read as that number if it stays below the limit. Any digits are
read as the number that they make, and the digits of that number are these without leading zeros.
-/

namespace DataDictionary.Text

/-! ### The number behind a number -/

@[simp] lemma next?_eq_some_iff {n m : Nat} :
    next? n = some m ↔ n + 1 < wordLimit ∧ n + 1 = m := by
  rw [next?, Option.ite_none_right_eq_some, Option.some.injEq]

@[simp] lemma next?_eq_none_iff {n : Nat} : next? n = none ↔ ¬n + 1 < wordLimit := by
  simp [next?]

lemma next?_of_lt {n : Nat} (h : n + 1 < wordLimit) : next? n = some (n + 1) := if_pos h

/-! ### Digits -/

lemma digitValue_of_isDigit {c : Char} (h : c.isDigit = true) :
    digitValue c = c.toNat - '0'.toNat ∧ digitValue c < 10 := by
  have hc : '0' ≤ c ∧ c ≤ '9' := by
    simpa [Char.isDigit, Char.le_def] using h
  have hvalue : digitValue c = c.toNat - '0'.toNat := by
    simp [digitValue, hc]
  refine ⟨hvalue, ?_⟩
  have hle : c.toNat ≤ 57 := hc.2
  rw [hvalue]
  exact Nat.lt_of_le_of_lt (Nat.sub_le_sub_right hle _) (by decide)

lemma digitValue_lt_ten_iff {c : Char} : digitValue c < 10 ↔ c.isDigit = true := by
  constructor
  · intro h
    rw [digitValue] at h
    split at h
    · next hc => simpa [Char.isDigit, Char.le_def] using hc
    split at h
    · omega
    split at h
    · omega
    · omega
  · exact fun h => (digitValue_of_isDigit h).2

/-! ### Digits of a base -/

/-- The number that digits of a base make behind a number. -/
def digitsValue (base value : Nat) (s : List Char) : Nat :=
  s.foldl (fun n c => n * base + digitValue c) value

lemma le_digitsValue {base : Nat} (hbase : 0 < base) (value : Nat) (s : List Char) :
    value ≤ digitsValue base value s := by
  refine List.foldlRecOn (motive := (value ≤ ·)) s _ (Nat.le_refl value) fun n hn d _ => ?_
  exact Nat.le_trans hn (Nat.le_trans (Nat.le_mul_of_pos_right n hbase) (Nat.le_add_right _ _))

/-- Digits of the base and nothing else are read, as the number that they make if it is below the
limit. -/
lemma digitsFrom_eq_ok_iff_digitsValue {base limit value n : Nat} (hvalue : value < limit)
    {s : List Char} :
    digitsFrom base limit value s = .ok n ↔
      (∀ c ∈ s, digitValue c < base) ∧ digitsValue base value s = n ∧ n < limit := by
  constructor
  · intro h
    induction s generalizing value with
    | nil =>
      obtain rfl := Except.ok.inj h
      exact ⟨by simp, rfl, hvalue⟩
    | cons c s ih =>
      rw [digitsFrom] at h
      split at h
      · cases h
      next hdigit =>
      split at h
      · cases h
      next hbound =>
      obtain ⟨hs, heq, hn⟩ := ih (Nat.not_le.mp hbound) h
      exact ⟨List.forall_mem_cons.mpr ⟨Nat.not_le.mp hdigit, hs⟩, heq, hn⟩
  · rintro ⟨hs, rfl, hn⟩
    induction s generalizing value with
    | nil => rfl
    | cons c s ih =>
      rw [List.forall_mem_cons] at hs
      have hbound : value * base + digitValue c < limit :=
        Nat.lt_of_le_of_lt (le_digitsValue (by omega) _ s) hn
      rw [digitsFrom, if_neg (Nat.not_le.mpr hs.1), if_neg (Nat.not_le.mpr hbound)]
      exact ih hbound hs.2 hn

/-- Digits of the base, one at least and any zeros in front, that make the number. -/
structure IsNumeral (base : Nat) (digits : List Char) (n : Nat) : Prop where
  ne_nil : digits ≠ []
  digit : ∀ d ∈ digits, digitValue d < base
  value : digitsValue base 0 digits = n

/-- What is read is a numeral, with or without a plus sign. -/
lemma readWhole_eq_ok_iff {base limit n : Nat} (hbase : base ≤ 36) (hlimit : 0 < limit)
    {s : List Char} :
    readWhole base limit s = .ok n ↔
      n < limit ∧ ∃ sign digits, (sign = [] ∨ sign = ['+']) ∧ IsNumeral base digits n ∧
        s = sign ++ digits := by
  have hplus {digits : List Char} (h : IsNumeral base digits n) : '+' ∉ digits :=
    fun hmem => absurd (h.digit '+' hmem) (Nat.not_lt.mpr hbase)
  rw [readWhole.eq_def]
  split
  · refine iff_of_false (by simp) ?_
    rintro ⟨-, sign, digits, -, hdigits, hs⟩
    exact hdigits.ne_nil (List.append_eq_nil_iff.mp hs.symm).2
  · refine iff_of_false (by simp) ?_
    rintro ⟨-, sign, digits, rfl | rfl, hdigits, hs⟩
    · rw [List.nil_append] at hs
      exact hplus hdigits (hs ▸ List.mem_singleton_self '+')
    · exact hdigits.ne_nil (List.cons.inj hs).2.symm
  · next rest hne =>
    rw [digitsFrom_eq_ok_iff_digitsValue hlimit]
    constructor
    · rintro ⟨hdigit, hvalue, hn⟩
      exact ⟨hn, ['+'], rest, .inr rfl, ⟨hne, hdigit, hvalue⟩, rfl⟩
    · rintro ⟨hn, sign, digits, rfl | rfl, hdigits, hs⟩
      · rw [List.nil_append] at hs
        exact absurd (hs ▸ List.mem_cons_self) (hplus hdigits)
      · obtain rfl := (List.cons.inj hs).2
        exact ⟨hdigits.digit, hdigits.value, hn⟩
  · next hnil _ hsign =>
    rw [digitsFrom_eq_ok_iff_digitsValue hlimit]
    constructor
    · rintro ⟨hdigit, hvalue, hn⟩
      exact ⟨hn, [], s, .inl rfl, ⟨hnil, hdigit, hvalue⟩, rfl⟩
    · rintro ⟨hn, sign, digits, rfl | rfl, hdigits, rfl⟩
      · exact ⟨hdigits.digit, hdigits.value, hn⟩
      · exact absurd rfl (hsign digits)

/-! ### Decimal digits -/

lemma digitsValue_ten {s : List Char} (hs : ∀ c ∈ s, c.isDigit = true) (value : Nat) :
    digitsValue 10 value s = Nat.ofDigitChars 10 s value := by
  induction s generalizing value with
  | nil => exact Nat.ofDigitChars_nil.symm
  | cons c s ih =>
    rw [List.forall_mem_cons] at hs
    rw [Nat.ofDigitChars_cons, Nat.mul_comm, ← (digitValue_of_isDigit hs.1).1, ← ih hs.2]
    rfl

/-- Digits and nothing else are read, as the number that they make if it is below the limit. -/
lemma digitsFrom_eq_ok_iff {limit value n : Nat} (hvalue : value < limit) {s : List Char} :
    digitsFrom 10 limit value s = .ok n ↔
      (∀ c ∈ s, c.isDigit = true) ∧ Nat.ofDigitChars 10 s value = n ∧ n < limit := by
  rw [digitsFrom_eq_ok_iff_digitsValue hvalue]
  simp only [digitValue_lt_ten_iff]
  exact and_congr_right fun hs => by rw [digitsValue_ten hs]

lemma isDigit_of_mem_decimal {n : Nat} {c : Char} (h : c ∈ decimal n) : c.isDigit = true :=
  Nat.isDigit_of_mem_toDigits (by decide) (by decide) h

/-- A text without a sign is read digit by digit. -/
lemma readWhole_of_isDigit (base limit : Nat) {c : Char} (h : c.isDigit = true) (s : List Char) :
    readWhole base limit (c :: s) = digitsFrom base limit 0 (c :: s) := by
  have hplus : c ≠ '+' := by
    rintro rfl
    exact absurd h (by decide)
  rw [readWhole.eq_def]
  split
  · next heq => exact absurd heq (by simp)
  · next heq => exact absurd (List.cons.inj heq).1 hplus
  · next heq => exact absurd (List.cons.inj heq).1 hplus
  · rfl

lemma isNumeral_decimal (n : Nat) : IsNumeral 10 (decimal n) n where
  ne_nil := Nat.toDigits_ne_nil
  digit _ hc := digitValue_lt_ten_iff.mpr (isDigit_of_mem_decimal hc)
  value := (digitsValue_ten (fun _ => isDigit_of_mem_decimal) 0).trans Nat.ofDigitChars_ten_toDigits

/-- A number is read as it was written. -/
theorem readWhole_decimal {n limit : Nat} (h : n < limit) :
    readWhole 10 limit (decimal n) = .ok n :=
  (readWhole_eq_ok_iff (by decide) (by omega)).mpr
    ⟨h, [], decimal n, .inl rfl, isNumeral_decimal n, rfl⟩

lemma readCount_decimal {n : Nat} (h : n < wordLimit) : readCount (decimal n) = .ok n :=
  readWhole_decimal h

/-- A count that is read is a word. -/
lemma lt_of_readCount {s : List Char} {n : Nat} (h : readCount s = .ok n) : n < wordLimit :=
  ((readWhole_eq_ok_iff (by decide) (by decide)).mp h).1

lemma decimal_injective : Function.Injective decimal := by
  intro m n h
  have hvalue := congrArg (Nat.ofDigitChars 10 · 0) h
  simpa only [decimal, Nat.ofDigitChars_ten_toDigits] using hvalue

lemma exists_of_isDigit {c : Char} (h : c.isDigit = true) :
    ∃ k < 10, c = Char.ofNat ('0'.toNat + k) := by
  have hc : '0' ≤ c ∧ c ≤ '9' := by simpa [Char.isDigit, Char.le_def] using h
  have hlow : 48 ≤ c.toNat := hc.1
  have hhigh : c.toNat ≤ 57 := hc.2
  refine ⟨c.toNat - 48, by omega, ?_⟩
  rw [show '0'.toNat + (c.toNat - 48) = c.toNat from Nat.add_sub_cancel' hlow, Char.ofNat_toNat]

lemma decimal_digit {c : Char} (h : c.isDigit = true) : decimal (c.toNat - '0'.toNat) = [c] := by
  have hdigits : ∀ k < 10, decimal ((Char.ofNat ('0'.toNat + k)).toNat - '0'.toNat) =
      [Char.ofNat ('0'.toNat + k)] := by decide
  obtain ⟨k, hk, rfl⟩ := exists_of_isDigit h
  exact hdigits k hk

/-- More digits behind those of a number make a number with these digits. -/
lemma decimal_append {n : Nat} (hn : 0 < n) {s : List Char} (hs : ∀ c ∈ s, c.isDigit = true) :
    decimal n ++ s = decimal (Nat.ofDigitChars 10 s n) := by
  induction s generalizing n with
  | nil => rw [List.append_nil, Nat.ofDigitChars_nil]
  | cons c s ih =>
    rw [List.forall_mem_cons] at hs
    obtain ⟨hvalue, hlt⟩ := digitValue_of_isDigit hs.1
    have hstep : decimal n ++ [c] = decimal (10 * n + (c.toNat - '0'.toNat)) := by
      rw [← decimal_digit hs.1]
      exact Nat.toDigits_append_toDigits (by decide) hn (hvalue ▸ hlt)
    rw [Nat.ofDigitChars_cons, ← ih (by omega) hs.2, ← hstep, List.append_assoc,
      List.singleton_append]

/-- The digits of the number that digits make are these without the zeros in front. -/
lemma decimal_ofDigitChars {s : List Char} (hs : ∀ c ∈ s, c.isDigit = true)
    (h : 0 < Nat.ofDigitChars 10 s 0) :
    decimal (Nat.ofDigitChars 10 s 0) = s.dropWhile (· == '0') := by
  induction s with
  | nil => exact absurd h (by simp)
  | cons c s ih =>
    rw [List.forall_mem_cons] at hs
    rw [Nat.ofDigitChars_cons] at h ⊢
    by_cases hc : c = '0'
    · subst hc
      exact ih hs.2 h
    · have hpos : 0 < c.toNat - '0'.toNat := by
        refine Nat.pos_of_ne_zero fun hzero => hc ?_
        have hdigit := decimal_digit hs.1
        rw [hzero] at hdigit
        exact (List.cons.inj hdigit).1.symm
      rw [Nat.mul_zero, Nat.zero_add, ← decimal_append hpos hs.2, decimal_digit hs.1,
        List.dropWhile_cons_of_neg (by simpa using hc), List.singleton_append]

end DataDictionary.Text
