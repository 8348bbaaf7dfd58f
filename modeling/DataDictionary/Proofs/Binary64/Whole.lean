import DataDictionary.Binary64.Reader
import DataDictionary.Proofs.Text.Blank
import DataDictionary.Proofs.Text.Whole
import Mathlib.Data.List.TakeWhile
import Mathlib.Data.Nat.Log

/-!
# Whole numbers

A whole number of no more than 53 bits is one of the format, so nothing is rounded where one is
written in digits.
-/

namespace DataDictionary.Binary64

open Text

/-! ### Exact quotients -/

lemma unitsPerOne_eq {k : Nat} (h : k = 1074) : unitsPerOne = Nat.pow 2 k := by
  unfold unitsPerOne
  rw [← h]

lemma unitsPerOne_pos : 0 < unitsPerOne := by
  obtain ⟨k, hk⟩ : ∃ k, k = 1074 := ⟨_, rfl⟩
  rw [unitsPerOne_eq hk]
  exact Nat.two_pow_pos k

lemma roundToEven_mul (q : Nat) {den : Nat} (h : 0 < den) : roundToEven (q * den) den = q := by
  have hcompare : compare 0 den = .lt := Nat.compare_eq_lt.mpr h
  simp only [roundToEven, Nat.mul_mod_left, Nat.mul_zero, hcompare, Nat.mul_div_cancel q h]

/-- A number of units is a power of two and 53 bits in front of it: nothing is rounded. -/
lemma nearestRank_eq {q k : Nat} (hlow : binade ≤ q) (hhigh : q < 2 * binade) :
    nearestRank (q * Nat.pow 2 k) 1 = k * binade + q := by
  have hpos : 0 < Nat.pow 2 k := Nat.two_pow_pos k
  have hbits : 2 * binade = 2 ^ (52 + 1) := rfl
  have hne : q * Nat.pow 2 k ≠ 0 :=
    Nat.mul_ne_zero (Nat.ne_of_gt (Nat.lt_of_lt_of_le (by decide) hlow)) hpos.ne'
  have hlog : (q * Nat.pow 2 k).log2 = 52 + k := by
    rw [Nat.log2_eq_iff hne, Nat.pow_add, Nat.add_right_comm, Nat.pow_add, ← hbits]
    exact ⟨Nat.mul_le_mul_right _ hlow, Nat.mul_lt_mul_of_pos_right hhigh hpos⟩
  rw [nearestRank, Nat.div_one, hlog, Nat.add_sub_cancel_left, Nat.one_mul]
  exact congrArg (k * binade + ·) (roundToEven_mul q hpos)

lemma units_eq {q k : Nat} (hlow : binade ≤ q) (hhigh : q < 2 * binade) :
    units (k * binade + q) = q * Nat.pow 2 k := by
  have hpos : 0 < binade := by decide
  have hrank : k * binade + q = binade * (k + 1) + (q - binade) := by
    rw [Nat.mul_succ, Nat.add_assoc, Nat.add_sub_cancel' hlow, Nat.mul_comm]
  have hrest : q - binade < binade := by omega
  have hge : ¬ k * binade + q < binade := by omega
  rw [units, if_neg hge, hrank, Nat.mul_add_mod, Nat.mod_eq_of_lt hrest, Nat.mul_add_div hpos,
    Nat.div_eq_of_lt hrest, Nat.add_zero, Nat.add_sub_cancel, Nat.add_sub_cancel' hlow]

/-- A whole number is 53 bits and a power of two, told in units. -/
lemma exists_significand {n : Nat} (hpos : 0 < n) (h : n < 2 * binade) :
    ∃ q k, binade ≤ q ∧ q < 2 * binade ∧ k ≤ 1074 ∧ n * unitsPerOne = q * Nat.pow 2 k := by
  have hlog : n.log2 ≤ 52 := Nat.le_of_lt_succ ((Nat.log2_lt hpos.ne').mpr h)
  have hshift (k : Nat) : 2 ^ k * 2 ^ (52 - n.log2) = 2 ^ (k + (52 - n.log2)) :=
    (Nat.pow_add 2 k _).symm
  refine ⟨n * 2 ^ (52 - n.log2), n.log2 + 1022, ?_, ?_, by omega, ?_⟩
  · have hle := Nat.mul_le_mul_right (2 ^ (52 - n.log2)) (Nat.log2_self_le hpos.ne')
    rwa [hshift, Nat.add_sub_cancel' hlog] at hle
  · have hlt := Nat.mul_lt_mul_of_pos_right (Nat.lt_log2_self (n := n))
      (Nat.two_pow_pos (52 - n.log2))
    rwa [hshift, Nat.add_right_comm, Nat.add_sub_cancel' hlog] at hlt
  · have hshifts : 52 - n.log2 + (n.log2 + 1022) = 1074 := by omega
    rw [unitsPerOne_eq hshifts, Nat.pow_eq, Nat.pow_add, Nat.mul_assoc, Nat.pow_eq]

/-- A whole number of 53 bits is one of the format. -/
theorem exists_ofRatio_eq (negative : Bool) {n : Nat} (h : n < 2 * binade) :
    ∃ rank : Fin magnitudes, ofRatio negative n 1 = .finite negative rank ∧
      units rank = n * unitsPerOne := by
  rcases Nat.eq_zero_or_pos n with rfl | hpos
  · refine ⟨⟨0, by decide⟩, ?_, by rw [Nat.zero_mul]; rfl⟩
    rw [ofRatio, Nat.zero_mul]
    rfl
  · obtain ⟨q, k, hlow, hhigh, hk, hunits⟩ := exists_significand hpos h
    have hrank : nearestRank (n * unitsPerOne) 1 = k * binade + q := by
      rw [hunits, nearestRank_eq hlow hhigh]
    have hlt : k * binade + q < magnitudes := by
      have hle := Nat.mul_le_mul_right binade hk
      rw [magnitudes]
      omega
    refine ⟨⟨k * binade + q, hlt⟩, ?_, ?_⟩
    · rw [ofRatio, hrank, ofRank, dif_pos hlt]
    · rw [units_eq hlow hhigh, hunits]

/-! ### Digits -/

lemma isDigit_of_isDigit {c : Char} (h : c.isDigit = true) : isDigit c = true := by
  simpa [Char.isDigit, isDigit, Char.le_def] using h

lemma readSign_of_isDigit {s : List Char} (hs : ∀ c ∈ s, c.isDigit = true) :
    readSign s = (false, s) := by
  unfold readSign
  split
  · exact absurd (hs '-' List.mem_cons_self) (by decide)
  · exact absurd (hs '+' List.mem_cons_self) (by decide)
  · rfl

lemma readDecimal_of_isDigit {s : List Char} (hne : s ≠ []) (hs : ∀ c ∈ s, c.isDigit = true) :
    readDecimal s = some (Nat.ofDigitChars 10 s 0, 0) := by
  have hdigits : ∀ c ∈ s, isDigit c = true := fun c hc => isDigit_of_isDigit (hs c hc)
  have htake : s.takeWhile isDigit = s := List.takeWhile_eq_self_iff.mpr hdigits
  have hdrop : s.dropWhile isDigit = [] := List.dropWhile_eq_nil_iff.mpr hdigits
  have hempty : s.isEmpty = false := by simpa using hne
  rw [readDecimal, htake, hdrop]
  simp only [hempty, Bool.false_and, Bool.false_eq_true, if_false, List.append_nil]
  rfl

/-- A whole number of 53 bits has neither too many digits nor too few. -/
lemma ofDecimal_whole {n : Nat} (h : n < 2 * binade) : ofDecimal false n 0 = ofRatio false n 1 := by
  have hlength : (Nat.toDigits 10 n).length ≤ 16 :=
    (Nat.length_toDigits_le_iff (by decide) (by decide)).mpr (Nat.lt_trans h (by decide))
  by_cases hzero : n = 0
  · subst hzero
    rw [ofRatio, Nat.zero_mul]
    rfl
  · have hmany : ¬ 400 < ((Nat.toDigits 10 n).length : Int) + 0 := by omega
    have hfew : ¬ ((Nat.toDigits 10 n).length : Int) + 0 < -400 := by omega
    simp only [ofDecimal, if_neg hzero, if_neg hmany, if_neg hfew]
    exact congrArg (ofRatio false · 1) (Nat.mul_one n)

/-- A whole number of 53 bits that is written in digits is read as it is. -/
theorem exists_read?_eq {s : List Char} (hne : s ≠ []) (hs : ∀ c ∈ s, c.isDigit = true)
    (h : Nat.ofDigitChars 10 s 0 < 2 * binade) :
    ∃ rank : Fin magnitudes, read? s = some (.finite false rank) ∧
      wholePart rank = Nat.ofDigitChars 10 s 0 := by
  obtain ⟨rank, hratio, hunits⟩ := exists_ofRatio_eq false h
  refine ⟨rank, ?_, ?_⟩
  · rw [read?, readSign_of_isDigit hs]
    simp only [readDecimal_of_isDigit hne hs]
    rw [ofDecimal_whole h, hratio]
  · rw [wholePart, hunits, Nat.mul_div_cancel _ unitsPerOne_pos]

end DataDictionary.Binary64
