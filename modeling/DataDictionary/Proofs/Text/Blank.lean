import DataDictionary.Text.Blank
import Mathlib.Data.List.DropRight

/-!
# Trimmed texts

A text that has been trimmed neither starts nor ends with white space, so it is not changed by
being trimmed again. Nothing is left of a text only if it is all white space. White space that is
put around a text makes no difference to what is left of it.
-/

namespace DataDictionary.Text

lemma trimEnd_eq_rdropWhile (s : List Char) : trimEnd s = s.rdropWhile isBlank := rfl

lemma not_isBlank_head_trimStart {s : List Char} {c : Char} (h : (trimStart s).head? = some c) :
    isBlank c = false := by
  have hhead := List.head?_dropWhile_not isBlank s
  rw [← trimStart, h] at hhead
  simpa using hhead

/-- White space at the end is dropped without a new one at the start. -/
lemma trimStart_trimEnd_trimStart (s : List Char) :
    trimStart (trimEnd (trimStart s)) = trimEnd (trimStart s) := by
  cases hs : trimEnd (trimStart s) with
  | nil => rfl
  | cons c rest =>
    obtain ⟨behind, hbehind⟩ : trimEnd (trimStart s) <+: trimStart s :=
      List.rdropWhile_prefix isBlank _
    have hhead : (trimStart s).head? = some c := by
      rw [← hbehind, hs]
      rfl
    rw [trimStart, List.dropWhile_cons_of_neg]
    simp [not_isBlank_head_trimStart hhead]

lemma trim_trim (s : List Char) : trim (trim s) = trim s := by
  have hend : trimEnd (trimEnd (trimStart s)) = trimEnd (trimStart s) :=
    List.rdropWhile_idempotent isBlank _
  rw [trim, trim, trimStart_trimEnd_trimStart, hend]

lemma trimmed_trimmed (s : String) : trimmed (trimmed s) = trimmed s := by
  rw [trimmed, toList_trimmed, trim_trim, ← trimmed]

lemma trim_eq_nil_iff (s : List Char) : trim s = [] ↔ ∀ c ∈ s, isBlank c = true := by
  rw [trim, trimEnd_eq_rdropWhile, List.rdropWhile_eq_nil_iff]
  constructor
  · intro h
    have hstart : trimStart s = [] := by
      cases hs : trimStart s with
      | nil => rfl
      | cons c rest =>
        have hblank := h c (by rw [hs]; exact List.mem_cons_self ..)
        rw [not_isBlank_head_trimStart (by rw [hs]; rfl)] at hblank
        exact absurd hblank Bool.false_ne_true
    exact List.dropWhile_eq_nil_iff.mp hstart
  · intro h c hc
    exact h c ((List.dropWhile_suffix isBlank).subset hc)

/-- A character other than white space is not trimmed away. -/
lemma trim_ne_nil {s : List Char} {c : Char} (hc : c ∈ s) (hblank : isBlank c = false) :
    trim s ≠ [] := by
  intro h
  rw [(trim_eq_nil_iff s).mp h c hc] at hblank
  exact absurd hblank (by decide)

lemma trimmed_ne_empty {s : String} (h : trim s.toList ≠ []) : trimmed s ≠ "" := by
  intro hempty
  refine h ?_
  rw [← toList_trimmed, hempty]
  rfl

/-- No printed ASCII character is white space. -/
lemma isBlank_eq_false {c : Char} (hlow : 0x21 ≤ c.toNat) (hhigh : c.toNat ≤ 0x7E) :
    isBlank c = false := by
  simp only [isBlank, inRanges, blankRanges, List.any_cons, List.any_nil, Bool.or_eq_false_iff,
    Bool.and_eq_false_iff, decide_eq_false_iff_not, Nat.not_le, and_true]
  omega

lemma isBlank_of_isAlphanum {c : Char} (h : c.isAlphanum = true) : isBlank c = false := by
  have hc : 48 ≤ c.toNat ∧ c.toNat ≤ 122 := by
    rcases (Bool.or_eq_true _ _).mp h with hletter | hdigit
    · rcases (Bool.or_eq_true _ _).mp hletter with hcapital | hsmall
      · have hbounds : 65 ≤ c.toNat ∧ c.toNat ≤ 90 := of_decide_eq_true hcapital
        omega
      · obtain ⟨hlow, hhigh⟩ := (Bool.and_eq_true _ _).mp hsmall
        have hlow : 97 ≤ c.toNat := of_decide_eq_true hlow
        have hhigh : c.toNat ≤ 122 := of_decide_eq_true hhigh
        omega
    · have hbounds : 48 ≤ c.toNat ∧ c.toNat ≤ 57 := Char.isDigit_iff_toNat.mp hdigit
      omega
  exact isBlank_eq_false (by omega) (by omega)

lemma isBlank_of_isDigit {c : Char} (h : c.isDigit = true) : isBlank c = false :=
  isBlank_of_isAlphanum (by rw [Char.isAlphanum, h, Bool.or_true])

/-! ### White space around texts -/

/-- A text with nothing but white space put around it. -/
def Padded (s w : List Char) : Prop :=
  ∃ before after, (∀ c ∈ before, isBlank c = true) ∧ (∀ c ∈ after, isBlank c = true) ∧
    w = before ++ s ++ after

lemma notMem_of_blank {s : List Char} (h : ∀ c ∈ s, isBlank c = true) {c : Char}
    (hc : isBlank c = false) : c ∉ s :=
  fun hmem => Bool.false_ne_true (hc.symm.trans (h c hmem))

lemma trim_append_of_blank {after : List Char} (h : ∀ c ∈ after, isBlank c = true)
    (s : List Char) : trim (s ++ after) = trim s := by
  have hend (t : List Char) : trimEnd (t ++ after) = trimEnd t := by
    rw [trimEnd, List.reverse_append, List.dropWhile_append_of_pos (by simpa using h), ← trimEnd]
  rw [trim, trimStart, List.dropWhile_append]
  split
  · next hs =>
    rw [trim, trimStart, List.isEmpty_iff.mp hs, List.dropWhile_eq_nil_iff.mpr h]
  · rw [hend]
    rfl

lemma trim_append_left_of_blank {before : List Char} (h : ∀ c ∈ before, isBlank c = true)
    (s : List Char) : trim (before ++ s) = trim s := by
  rw [trim, trimStart, List.dropWhile_append_of_pos h]
  rfl

namespace Padded

variable {s w : List Char}

lemma trim_eq (h : Padded s w) : trim w = trim s := by
  obtain ⟨before, after, hbefore, hafter, rfl⟩ := h
  rw [trim_append_of_blank hafter, trim_append_left_of_blank hbefore]

lemma isInfix (h : Padded s w) : s <:+: w := by
  obtain ⟨before, after, -, -, rfl⟩ := h
  exact List.infix_append before s after

/-- A character other than white space stands in the text itself. -/
lemma notMem (h : Padded s w) {c : Char} (hc : isBlank c = false) (hs : c ∉ s) : c ∉ w := by
  obtain ⟨before, after, hbefore, hafter, rfl⟩ := h
  simp only [List.mem_append, not_or]
  exact ⟨⟨notMem_of_blank hbefore hc, hs⟩, notMem_of_blank hafter hc⟩

end Padded

lemma padded_trimStart (s : List Char) : Padded (trimStart s) s := by
  refine ⟨s.takeWhile isBlank, [], fun c => List.mem_takeWhile_imp, by simp, ?_⟩
  rw [List.append_nil, trimStart, List.takeWhile_append_dropWhile]

lemma padded_trimEnd (s : List Char) : Padded (trimEnd s) s := by
  refine ⟨[], s.rtakeWhile isBlank, by simp, fun c => List.mem_rtakeWhile_imp, ?_⟩
  rw [List.nil_append, trimEnd_eq_rdropWhile, List.rdropWhile_append_rtakeWhile]

lemma padded_trim (s : List Char) : Padded (trim s) s := by
  obtain ⟨before, after, hbefore, hafter, hs⟩ := padded_trimStart s
  obtain ⟨before', after', hbefore', hafter', hs'⟩ := padded_trimEnd (trimStart s)
  refine ⟨before ++ before', after' ++ after, ?_, ?_, ?_⟩
  · simpa [or_imp, forall_and] using ⟨hbefore, hbefore'⟩
  · simpa [or_imp, forall_and] using ⟨hafter', hafter⟩
  · calc s = before ++ trimStart s ++ after := hs
      _ = before ++ (before' ++ trim s ++ after') ++ after := by rw [trim, ← hs']
      _ = before ++ before' ++ trim s ++ (after' ++ after) := by simp

lemma padded_of_trim_eq {s w : List Char} (h : trim w = s) : Padded s w := by
  rw [← h]
  exact padded_trim w

/-- A text that neither starts nor ends with white space is trimmed. -/
lemma trim_eq_self {s : List Char} (hhead : ∀ c ∈ s.head?, isBlank c = false)
    (hlast : ∀ c ∈ s.getLast?, isBlank c = false) : trim s = s := by
  have hstart : trimStart s = s := by
    cases s with
    | nil => rfl
    | cons c rest => exact List.dropWhile_cons_of_neg (by simp [hhead c rfl])
  rw [trim, hstart, trimEnd_eq_rdropWhile, List.rdropWhile_eq_self_iff]
  intro hne
  rw [hlast _ (List.getLast?_eq_getLast_of_ne_nil hne)]
  exact Bool.false_ne_true

lemma trim_of_isDigit {s : List Char} (hs : ∀ c ∈ s, c.isDigit = true) : trim s = s :=
  trim_eq_self (fun c hc => isBlank_of_isDigit (hs c (List.mem_of_mem_head? hc)))
    (fun c hc => isBlank_of_isDigit (hs c (List.mem_of_mem_getLast? hc)))

/-- A character other than white space keeps what is next to it. -/
lemma trim_append_cons {c : Char} (hc : isBlank c = false) (x y : List Char) :
    trim (x ++ c :: y) = trimStart x ++ c :: trimEnd y := by
  have hstart : trimStart (x ++ c :: y) = trimStart x ++ c :: y := by
    rw [trimStart, List.dropWhile_append]
    split
    · next hx =>
      rw [trimStart, List.isEmpty_iff.mp hx, List.dropWhile_cons_of_neg (by simp [hc])]
      rfl
    · rfl
  have hend (t : List Char) : trimEnd (t ++ c :: y) = t ++ c :: trimEnd y := by
    rw [trimEnd, trimEnd, List.reverse_append, List.reverse_cons, List.append_assoc,
      List.dropWhile_append]
    split
    · next hy =>
      rw [List.isEmpty_iff.mp hy, List.singleton_append, List.dropWhile_cons_of_neg (by simp [hc])]
      simp
    · simp
  rw [trim, hstart, hend]

end DataDictionary.Text
