import DataDictionary.Json.Number
import Mathlib.Data.List.Basic

/-!
# Numbers in front of a text

A number is read the same whatever follows it, as long as that does not go on with the number.
-/

namespace DataDictionary.Json

open Binary64 (isDigit readSign)

/-- A character that goes on with a number. -/
def continuesNumber (c : Char) : Bool := isDigit c || c == '.' || c == 'e' || c == 'E'

/-- The text does not go on with a number. -/
def EndsNumber (s : List Char) : Prop := ∀ c ∈ s.head?, continuesNumber c = false

lemma endsNumber_nil : EndsNumber [] := by
  intro c h
  simp at h

lemma endsNumber_cons {c : Char} {s : List Char} (h : continuesNumber c = false) :
    EndsNumber (c :: s) := by
  intro d hd
  obtain rfl : c = d := by simpa using hd
  exact h

lemma EndsNumber.head {c : Char} {s : List Char} (h : EndsNumber (c :: s)) :
    isDigit c = false ∧ c ≠ '.' ∧ (c == 'e' || c == 'E') = false := by
  have hc := h c rfl
  simp only [continuesNumber, Bool.or_eq_false_iff, beq_eq_false_iff_ne] at hc
  simp [hc]

lemma takeWhile_append {s rest : List Char} (h : EndsNumber rest) :
    (s ++ rest).takeWhile isDigit = s.takeWhile isDigit := by
  induction s with
  | nil =>
    cases rest with
    | nil => rfl
    | cons c rest => simp [h.head.1]
  | cons c s ih =>
    by_cases hc : isDigit c
    · simp [hc, ih]
    · simp [hc]

lemma dropWhile_append {s rest : List Char} (h : EndsNumber rest) :
    (s ++ rest).dropWhile isDigit = s.dropWhile isDigit ++ rest := by
  induction s with
  | nil =>
    cases rest with
    | nil => rfl
    | cons c rest => simp [h.head.1]
  | cons c s ih =>
    by_cases hc : isDigit c
    · simp [hc, ih]
    · simp [hc]

variable {s rest t : List Char}

lemma readSign_append (h : s ≠ []) :
    readSign (s ++ rest) = ((readSign s).1, (readSign s).2 ++ rest) := by
  match s with
  | [] => exact absurd rfl h
  | c :: s =>
    by_cases hm : c = '-'
    · subst hm
      rfl
    · by_cases hp : c = '+'
      · subst hp
        rfl
      · simp [readSign, hm, hp]

lemma readExponent_append {e : Int} (hrest : EndsNumber rest) (h : readExponent s = some (e, t)) :
    readExponent (s ++ rest) = some (e, t ++ rest) := by
  have hs : s ≠ [] := by
    rintro rfl
    exact absurd h (by simp [readExponent, readSign])
  simp only [readExponent] at h ⊢
  rw [readSign_append hs]
  simp only [takeWhile_append hrest, dropWhile_append hrest]
  split at h
  · exact absurd h (by simp)
  · next hne =>
    rw [if_neg hne]
    simp only [Option.some.injEq, Prod.mk.injEq] at h ⊢
    exact ⟨h.1, congrArg (· ++ rest) h.2⟩

lemma readScale_append {negative : Bool} {d : Significand} {n : Number} (hrest : EndsNumber rest)
    (h : readScale negative d s = some (n, t)) :
    readScale negative d (s ++ rest) = some (n, t ++ rest) := by
  cases s with
  | nil =>
    obtain ⟨rfl, rfl⟩ : Number.ofSignificand negative d = n ∧ [] = t := by
      simpa [readScale] using h
    cases rest with
    | nil => rfl
    | cons c rest => simp [readScale, hrest.head.2.2]
  | cons c s =>
    simp only [List.cons_append, readScale] at h ⊢
    split at h
    · next hc =>
      obtain ⟨⟨e, u⟩, hexponent, hn⟩ := Option.bind_eq_some_iff.mp h
      obtain ⟨rfl, rfl⟩ : _ = n ∧ u = t := by simpa using hn
      rw [if_pos hc, readExponent_append hrest hexponent]
      rfl
    · next hc =>
      obtain ⟨rfl, rfl⟩ : Number.ofSignificand negative d = n ∧ c :: s = t := by simpa using h
      rw [if_neg hc]
      rfl

lemma readFraction_of_ne {negative : Bool} {d : Significand} {c : Char} (hc : c ≠ '.') :
    readFraction negative d (c :: s) =
      if c == 'e' || c == 'E' then readScale negative d (c :: s)
      else some (Number.ofWhole negative d, c :: s) := by
  rw [readFraction.eq_def]
  split
  · next heq => exact absurd (List.cons.inj heq).1 hc
  · next heq =>
    obtain ⟨rfl, rfl⟩ := List.cons.inj heq
    rfl
  · next heq => exact absurd heq (by simp)

lemma readFraction_append {negative : Bool} {d : Significand} {n : Number}
    (hrest : EndsNumber rest) (h : readFraction negative d s = some (n, t)) :
    readFraction negative d (s ++ rest) = some (n, t ++ rest) := by
  match s with
  | [] =>
    obtain ⟨rfl, rfl⟩ : Number.ofWhole negative d = n ∧ [] = t := by simpa [readFraction] using h
    cases rest with
    | nil => rfl
    | cons c rest =>
      obtain ⟨-, hpoint, hexponent⟩ := hrest.head
      rw [List.nil_append, readFraction_of_ne hpoint, hexponent]
      rfl
  | c :: s =>
    by_cases hpoint : c = '.'
    · subst hpoint
      simp only [List.cons_append, readFraction] at h ⊢
      rw [takeWhile_append hrest, dropWhile_append hrest]
      split at h
      · exact absurd h (by simp)
      · next hfraction =>
        rw [if_neg hfraction]
        exact readScale_append hrest h
    · rw [readFraction_of_ne hpoint] at h
      rw [List.cons_append, readFraction_of_ne hpoint]
      split at h
      · next hc =>
        rw [if_pos hc, ← List.cons_append]
        exact readScale_append hrest h
      · next hc =>
        obtain ⟨rfl, rfl⟩ : Number.ofWhole negative d = n ∧ c :: s = t := by simpa using h
        rw [if_neg hc]
        rfl

lemma readUnsigned_append {negative : Bool} {n : Number} (hrest : EndsNumber rest)
    (h : readUnsigned negative s = some (n, t)) :
    readUnsigned negative (s ++ rest) = some (n, t ++ rest) := by
  simp only [readUnsigned] at h ⊢
  rw [takeWhile_append hrest, dropWhile_append hrest]
  split at h
  · exact absurd h (by simp)
  · next hwhole =>
    rw [if_neg hwhole]
    exact readFraction_append hrest h

lemma readNumber_of_ne {c : Char} (hc : c ≠ '-') :
    readNumber (c :: s) = readUnsigned false (c :: s) := by
  rw [readNumber.eq_def]
  split
  · next heq => exact absurd (List.cons.inj heq).1 hc
  · rfl

/-- What follows a number is left over. -/
theorem readNumber_append {n : Number} (hrest : EndsNumber rest)
    (h : readNumber s = some (n, t)) : readNumber (s ++ rest) = some (n, t ++ rest) := by
  match s with
  | [] => exact absurd h (by simp [readNumber, readUnsigned])
  | c :: s =>
    by_cases hc : c = '-'
    · subst hc
      exact readUnsigned_append hrest h
    · rw [readNumber_of_ne hc] at h
      rw [List.cons_append, readNumber_of_ne hc, ← List.cons_append]
      exact readUnsigned_append hrest h

/-- A number starts with a sign or a digit. -/
theorem head_of_readNumber {c : Char} {n : Number} (h : readNumber (c :: s) = some (n, t)) :
    c = '-' ∨ isDigit c = true := by
  by_cases hc : c = '-'
  · exact .inl hc
  · right
    rw [readNumber_of_ne hc, readUnsigned] at h
    by_contra hd
    simp [hd] at h

end DataDictionary.Json
