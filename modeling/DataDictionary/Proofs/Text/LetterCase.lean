import DataDictionary.Text.LetterCase
import Mathlib.Data.List.Basic

/-!
# Two ways of ignoring case

Texts that differ in the case of ASCII letters alone are the same in lower case: a capital has the
lower-case form of its small letter, and both count alike where the form of a sigma is decided. For
texts of ASCII characters the two ways of ignoring case come to the same.
-/

namespace DataDictionary.Text

/-! ### Characters -/

/-- Only the ASCII capitals have a small letter of their own. -/
lemma toLower_eq_or_capital (c : Char) : c.toLower = c ∨ ∃ i < 26, c = Char.ofNat (65 + i) := by
  by_cases h : c.val ≥ 'A'.val ∧ c.val ≤ 'Z'.val
  · right
    have hlower : 65 ≤ c.toNat := UInt32.le_iff_toNat_le.mp h.1
    have hupper : c.toNat ≤ 90 := UInt32.le_iff_toNat_le.mp h.2
    refine ⟨c.toNat - 65, by omega, ?_⟩
    rw [Nat.add_sub_cancel' hlower, Char.ofNat_toNat]
  · left
    exact dif_neg h

lemma isCased_toLower (c : Char) : isCased c.toLower = isCased c := by
  rcases toLower_eq_or_capital c with h | ⟨i, hi, rfl⟩
  · rw [h]
  · revert i
    decide +kernel

lemma isCaseIgnorable_toLower (c : Char) : isCaseIgnorable c.toLower = isCaseIgnorable c := by
  rcases toLower_eq_or_capital c with h | ⟨i, hi, rfl⟩
  · rw [h]
  · revert i
    decide +kernel

lemma lowerChar_toLower (c : Char) : lowerChar c.toLower = lowerChar c := by
  rcases toLower_eq_or_capital c with h | ⟨i, hi, rfl⟩
  · rw [h]
  · revert i
    decide +kernel

/-- What is no ASCII letter comes from itself only. -/
lemma toLower_eq_iff {c d : Char} (hd : d.isAlpha = false) : c.toLower = d ↔ c = d := by
  rcases toLower_eq_or_capital c with h | ⟨i, hi, rfl⟩
  · rw [h]
  · have hletters : ∀ i < 26, (Char.ofNat (65 + i)).toLower.isAlpha = true ∧
        (Char.ofNat (65 + i)).isAlpha = true := by decide
    refine iff_of_false ?_ ?_ <;> rintro rfl
    · exact absurd (hletters i hi).1 (Bool.eq_false_iff.mp hd)
    · exact absurd (hletters i hi).2 (Bool.eq_false_iff.mp hd)

/-! ### Texts -/

@[simp] lemma asciiLower_nil : asciiLower [] = [] := rfl

@[simp] lemma asciiLower_cons (c : Char) (s : List Char) :
    asciiLower (c :: s) = c.toLower :: asciiLower s := rfl

lemma mem_asciiLower_iff {s : List Char} {d : Char} (hd : d.isAlpha = false) :
    d ∈ asciiLower s ↔ d ∈ s := by
  rw [asciiLower, List.mem_map]
  constructor
  · rintro ⟨c, hc, hsame⟩
    exact (toLower_eq_iff hd).mp hsame ▸ hc
  · exact fun h => ⟨d, h, (toLower_eq_iff hd).mpr rfl⟩

/-- Of the characters of two texts that differ in the case of ASCII letters only, the same holds if
it does not tell capitals from other characters. -/
lemma forall_mem_of_sameAscii {p : Char → Bool}
    (hcapital : ∀ i < 26, p (Char.ofNat (65 + i)) = true) {s t : List Char}
    (h : sameAscii s t = true) (ht : (asciiLower t).all p = true) : ∀ c ∈ s, p c = true := by
  intro c hc
  rcases toLower_eq_or_capital c with hsmall | ⟨i, hi, rfl⟩
  · rw [← hsmall]
    apply List.all_eq_true.mp ht
    rw [← eq_of_beq h]
    exact List.mem_map_of_mem hc
  · exact hcapital i hi

lemma meetsCased_asciiLower (s : List Char) : meetsCased (asciiLower s) = meetsCased s := by
  have hignored : (isCaseIgnorable ∘ Char.toLower) = isCaseIgnorable :=
    funext isCaseIgnorable_toLower
  rw [asciiLower, meetsCased, meetsCased, List.dropWhile_map, hignored]
  cases s.dropWhile isCaseIgnorable with
  | nil => rfl
  | cons c rest => exact isCased_toLower c

lemma lowerAfter_cons {c : Char} (hsigma : c ≠ 'Σ') (hdotted : c ≠ 'İ') (before rest : List Char) :
    lowerAfter before (c :: rest) = lowerChar c :: lowerAfter (c :: before) rest := by
  rw [lowerAfter]
  · exact hsigma
  · exact hdotted

lemma lowerAfter_asciiLower (before s : List Char) :
    lowerAfter (asciiLower before) (asciiLower s) = lowerAfter before s := by
  induction s generalizing before with
  | nil => rfl
  | cons c s ih =>
    have hrest := ih (c :: before)
    rw [asciiLower_cons] at hrest ⊢
    by_cases hsigma : c = 'Σ'
    · subst hsigma
      have hkept : Char.toLower 'Σ' = 'Σ' := by decide
      rw [hkept] at hrest ⊢
      simp only [lowerAfter, hrest, meetsCased_asciiLower]
    by_cases hdotted : c = 'İ'
    · subst hdotted
      have hkept : Char.toLower 'İ' = 'İ' := by decide
      rw [hkept] at hrest ⊢
      simp only [lowerAfter, hrest]
    · have hsigma' : c.toLower ≠ 'Σ' := mt (toLower_eq_iff (by decide)).mp hsigma
      have hdotted' : c.toLower ≠ 'İ' := mt (toLower_eq_iff (by decide)).mp hdotted
      rw [lowerAfter_cons hsigma' hdotted', lowerAfter_cons hsigma hdotted, hrest,
        lowerChar_toLower]

/-- The case of ASCII letters makes no difference to a text in lower case. -/
theorem lower_asciiLower (s : List Char) : lower (asciiLower s) = lower s :=
  lowerAfter_asciiLower [] s

lemma lower_eq_of_sameAscii {s t : List Char} (h : sameAscii s t = true) : lower s = lower t := by
  rw [← lower_asciiLower s, eq_of_beq h, lower_asciiLower]

lemma lowered_eq_of_sameAscii {s t : String} (h : sameAscii s.toList t.toList = true) :
    lowered s = lowered t :=
  congrArg String.ofList (lower_eq_of_sameAscii h)

/-! ### Texts of ASCII characters -/

/-- The text has ASCII characters only. -/
def IsAscii (s : List Char) : Prop := ∀ c ∈ s, c.toNat < 128

instance : DecidablePred IsAscii := fun s => List.decidableBAll (fun c : Char => c.toNat < 128) s

lemma lowerChar_of_lt {c : Char} (h : c.toNat < 128) : lowerChar c = c.toLower := by
  have hall : ∀ n < 128, lowerChar (Char.ofNat n) = (Char.ofNat n).toLower := by decide +kernel
  rw [← Char.ofNat_toNat c]
  exact hall c.toNat h

lemma lowerAfter_of_isAscii (before : List Char) {s : List Char} (h : IsAscii s) :
    lowerAfter before s = asciiLower s := by
  induction s generalizing before with
  | nil => rfl
  | cons c s ih =>
    obtain ⟨hc, hs⟩ := List.forall_mem_cons.mp h
    have hsigma : c ≠ 'Σ' := by
      rintro rfl
      exact absurd hc (by decide)
    have hdotted : c ≠ 'İ' := by
      rintro rfl
      exact absurd hc (by decide)
    rw [lowerAfter_cons hsigma hdotted, lowerChar_of_lt hc, ih (c :: before) hs, asciiLower_cons]

/-- Texts of ASCII characters are the same in lower case only if their letters are. -/
theorem sameAscii_of_lowered_eq {s t : String} (hs : IsAscii s.toList) (ht : IsAscii t.toList)
    (h : lowered s = lowered t) : sameAscii s.toList t.toList = true := by
  have hlower : lower s.toList = lower t.toList := by
    rw [← toList_lowered, ← toList_lowered, h]
  rw [lower, lower, lowerAfter_of_isAscii [] hs, lowerAfter_of_isAscii [] ht] at hlower
  exact beq_iff_eq.mpr hlower

end DataDictionary.Text
