import DataDictionary.Proofs.Text.Blank
import DataDictionary.Text.LetterCase
import DataDictionary.Text.Split
import Mathlib.Data.List.Infix

/-!
# Texts in texts

A text starts with another one if that can be dropped from it, and holds another one if it does so
from some character on. Without regard to the case of ASCII letters, what is held may be written in
any letters. Parts that hold no separator are read back from the text that joins them, and a text is
what its parts come to when they are joined.
-/

namespace DataDictionary.Text

lemma isSome_dropStart?_iff {pre s : List Char} :
    (dropStart? pre s).isSome = true ↔ pre <+: s := by
  induction pre generalizing s with
  | nil => simp [dropStart?]
  | cons p pre ih =>
    cases s with
    | nil => simp [dropStart?]
    | cons c s =>
      rw [List.cons_prefix_cons, dropStart?]
      by_cases hp : p = c
      · simp [hp, ih]
      · simp [hp]

lemma dropStart?_append (pre rest : List Char) : dropStart? pre (pre ++ rest) = some rest := by
  induction pre with
  | nil => rfl
  | cons p pre ih => simp [dropStart?, ih]

/-- A part occurs in a text just if the text is made up of the part and what stands around it. -/
theorem occurs_iff {part s : List Char} : occurs part s = true ↔ part <:+: s := by
  induction s with
  | nil => simp [occurs]
  | cons c s ih => rw [List.infix_cons_iff, occurs, Bool.or_eq_true, ih, isSome_dropStart?_iff]

/-- What begins with an item is not found to begin in a list without it. -/
lemma isInfix_of_append {α : Type} {c : α} {part s : List α} (hc : c ∉ s) {t : List α}
    (h : c :: part <:+: s ++ t) : c :: part <:+: t := by
  induction s with
  | nil => exact h
  | cons d s ih =>
    obtain ⟨hd, hs⟩ := not_or.mp (mt List.mem_cons.mpr hc)
    rcases List.infix_cons_iff.mp h with hprefix | h
    · exact absurd (List.cons_prefix_cons.mp hprefix).1 hd
    · exact ih hs h

/-- What ends with an item is not found to end in a list without it. -/
lemma isInfix_of_append_right {α : Type} {c : α} {part t : List α} (hc : c ∉ t) {s : List α}
    (h : part ++ [c] <:+: s ++ t) : part ++ [c] <:+: s := by
  rw [← List.reverse_infix, List.reverse_append, List.reverse_append] at h
  rw [← List.reverse_infix, List.reverse_append]
  exact isInfix_of_append (by simpa using hc) h

/-- A text in small letters occurs in the small letters of another one just if some part of that
differs from it in the case of ASCII letters only. -/
theorem occurs_asciiLower_iff {part s : List Char} (h : asciiLower part = part) :
    occurs part (asciiLower s) = true ↔
      ∃ written, written <:+: s ∧ sameAscii written part = true := by
  rw [occurs_iff, asciiLower, List.infix_map_iff]
  refine exists_congr fun written => and_congr_right fun _ => ?_
  rw [sameAscii, beq_iff_eq, h, eq_comm]
  rfl

/-! ### Parts between separators -/

lemma splitAt_eq_splitOn (sep : Char) (s : List Char) : splitAt sep s = s.splitOn sep := by
  rw [splitAt, List.splitOn]
  induction s with
  | nil => rfl
  | cons c s ih =>
    rw [splitWhere, List.splitOnP_cons_eq_if_modifyHead, ih]
    cases h : s.splitOnP (· == sep) with
    | nil => exact absurd h (List.splitOnP_ne_nil _ s)
    | cons part parts => rfl

lemma join_eq_intercalate (sep : List Char) (parts : List (List Char)) :
    join sep parts = sep.intercalate parts := by
  fun_induction join sep parts with
  | case1 => rfl
  | case2 part => exact List.intercalate_singleton.symm
  | case3 part parts hne ih =>
    obtain ⟨next, rest, rfl⟩ := List.exists_cons_of_ne_nil hne
    rw [ih, List.intercalate_cons_cons]

/-- Parts that hold no separator are read back from the text that joins them. -/
lemma splitAt_join {sep : Char} {parts : List (List Char)} (hne : parts ≠ [])
    (h : ∀ part ∈ parts, sep ∉ part) : splitAt sep (join [sep] parts) = parts := by
  rw [splitAt_eq_splitOn, join_eq_intercalate, List.splitOn_intercalate sep h hne]

lemma join_splitAt (sep : Char) (s : List Char) : join [sep] (splitAt sep s) = s := by
  rw [splitAt_eq_splitOn, join_eq_intercalate, List.intercalate_splitOn]

lemma notMem_of_mem_splitAt {sep : Char} {s part : List Char} (h : part ∈ splitAt sep s) :
    sep ∉ part := by
  intro hsep
  simpa using not_of_mem_splitWhere h hsep

lemma isInfix_join {sep part : List Char} {parts : List (List Char)} (h : part ∈ parts) :
    part <:+: join sep parts := by
  fun_induction join sep parts with
  | case1 => exact absurd h List.not_mem_nil
  | case2 first => rw [List.mem_singleton.mp h]
  | case3 first parts hne ih =>
    rcases List.mem_cons.mp h with rfl | h
    · rw [List.append_assoc]
      exact (List.prefix_append _ _).isInfix
    · exact (ih h).trans (List.suffix_append _ _).isInfix

lemma isInfix_of_mem_splitAt {sep : Char} {s part : List Char} (h : part ∈ splitAt sep s) :
    part <:+: s := by
  rw [← join_splitAt sep s]
  exact isInfix_join h

/-- A character of a joined text is one of the separator or of a part. -/
lemma mem_or_of_mem_join {sep : List Char} {parts : List (List Char)} {c : Char}
    (h : c ∈ join sep parts) : c ∈ sep ∨ ∃ part ∈ parts, c ∈ part := by
  fun_induction join sep parts with
  | case1 => exact absurd h List.not_mem_nil
  | case2 part => exact .inr ⟨part, List.mem_singleton_self _, h⟩
  | case3 part parts hne ih =>
    rw [List.mem_append, List.mem_append] at h
    rcases h with (h | h) | h
    · exact .inr ⟨part, List.mem_cons_self .., h⟩
    · exact .inl h
    · exact (ih h).imp_right fun ⟨other, hother, hc⟩ => ⟨other, List.mem_cons_of_mem _ hother, hc⟩

/-- What is put in front of a text goes to its first part. -/
lemma splitWhere_append_left {p : Char → Bool} {t : List Char} (ht : ∀ c ∈ t, p c = false)
    (s : List Char) : splitWhere p (t ++ s) = (splitWhere p s).modifyHead (t ++ ·) := by
  induction t with
  | nil => exact (congrFun List.modifyHead_id (splitWhere p s)).symm
  | cons c t ih =>
    obtain ⟨hc, ht⟩ := List.forall_mem_cons.mp ht
    cases hs : splitWhere p s with
    | nil => exact absurd hs (splitWhere_ne_nil p s)
    | cons part parts => simp [splitWhere, hc, ih ht, hs]

/-- What is put behind a text goes to its last part. -/
lemma exists_splitWhere_append {p : Char → Bool} {t : List Char} (ht : ∀ c ∈ t, p c = false)
    (s : List Char) : ∃ init last,
      splitWhere p s = init ++ [last] ∧ splitWhere p (s ++ t) = init ++ [last ++ t] := by
  induction s with
  | nil =>
    refine ⟨[], [], rfl, ?_⟩
    simpa [splitWhere] using splitWhere_append_left ht []
  | cons c s ih =>
    obtain ⟨init, last, hs, hst⟩ := ih
    by_cases hc : p c = true
    · exact ⟨[] :: init, last, by simp [splitWhere, hc, hs], by simp [splitWhere, hc, hst]⟩
    · cases init with
      | nil => exact ⟨[], c :: last, by simp [splitWhere, hc, hs], by simp [splitWhere, hc, hst]⟩
      | cons part init =>
        exact ⟨(c :: part) :: init, last, by simp [splitWhere, hc, hs],
          by simp [splitWhere, hc, hst]⟩

/-- White space around a text is white space around its parts. -/
lemma map_trim_splitAt {sep : Char} (hsep : isBlank sep = false) {s w : List Char}
    (h : Padded s w) : (splitAt sep w).map trim = (splitAt sep s).map trim := by
  obtain ⟨before, after, hbefore, hafter, rfl⟩ := h
  have hblank {around : List Char} (haround : ∀ c ∈ around, isBlank c = true) :
      ∀ c ∈ around, (c == sep) = false := by
    intro c hc
    rw [beq_eq_false_iff_ne]
    rintro rfl
    exact notMem_of_blank haround hsep hc
  have hstart : (splitAt sep (before ++ s)).map trim = (splitAt sep s).map trim := by
    rw [splitAt, splitAt, splitWhere_append_left (hblank hbefore)]
    cases splitWhere (· == sep) s with
    | nil => rfl
    | cons part parts => simp [trim_append_left_of_blank hbefore]
  obtain ⟨init, last, hs, hst⟩ := exists_splitWhere_append (hblank hafter) (before ++ s)
  rw [← hstart, splitAt, splitAt, hs, hst]
  simp [trim_append_of_blank hafter]

/-! ### Cuts -/

lemma cutAt_append_cons {sep : Char} {s : List Char} (h : sep ∉ s) (rest : List Char) :
    cutAt sep (s ++ sep :: rest) = some (s, rest) := by
  induction s with
  | nil => simp [cutAt]
  | cons c s ih =>
    obtain ⟨hc, hs⟩ := not_or.mp (mt List.mem_cons.mpr h)
    simp [cutAt, Ne.symm hc, ih hs]

lemma cutAt_of_notMem {sep : Char} {s : List Char} (h : sep ∉ s) : cutAt sep s = none := by
  induction s with
  | nil => rfl
  | cons c s ih =>
    obtain ⟨hc, hs⟩ := not_or.mp (mt List.mem_cons.mpr h)
    simp [cutAt, Ne.symm hc, ih hs]

lemma cutOn_eq_none_iff {sep s : List Char} (hsep : sep ≠ []) :
    cutOn sep s = none ↔ ¬ sep <:+: s := by
  rw [← occurs_iff]
  induction s with
  | nil => simp [cutOn, occurs, hsep]
  | cons c s ih =>
    rw [cutOn, occurs]
    cases dropStart? sep (c :: s) with
    | none => simp [ih]
    | some after => simp

/-- A separator of two different characters is found behind a text that does not hold it. The two
together hold no earlier one, whatever character the text ends with. -/
lemma cutOn_append {a b : Char} (hab : a ≠ b) {s : List Char} (h : ¬ [a, b] <:+: s)
    (rest : List Char) : cutOn [a, b] (s ++ [a, b] ++ rest) = some (s, rest) := by
  induction s with
  | nil => simp [cutOn, dropStart?]
  | cons c s ih =>
    rw [List.infix_cons_iff, not_or] at h
    have hstart : dropStart? [a, b] (c :: (s ++ [a, b] ++ rest)) = none := by
      rw [← Option.not_isSome_iff_eq_none, isSome_dropStart?_iff, List.cons_prefix_cons]
      rintro ⟨rfl, hb⟩
      cases s with
      | nil => exact hab (List.cons_prefix_cons.mp hb).1.symm
      | cons d s =>
        obtain ⟨rfl, -⟩ := List.cons_prefix_cons.mp hb
        exact h.1 ⟨s, rfl⟩
    rw [List.cons_append, List.cons_append, cutOn, hstart, ih h.2]
    rfl

/-! ### Characters replaced by texts -/

lemma replaceChar_append (c : Char) (new s t : List Char) :
    replaceChar c new (s ++ t) = replaceChar c new s ++ replaceChar c new t := List.flatMap_append

lemma replaceChar_of_notMem {c : Char} {s : List Char} (h : c ∉ s) (new : List Char) :
    replaceChar c new s = s := by
  induction s with
  | nil => rfl
  | cons d s ih =>
    obtain ⟨hd, hs⟩ := not_or.mp (mt List.mem_cons.mpr h)
    have hne : (d == c) = false := beq_eq_false_iff_ne.mpr (Ne.symm hd)
    have hrest := ih hs
    rw [replaceChar] at hrest
    rw [replaceChar, List.flatMap_cons, hne, hrest]
    rfl

lemma notMem_replaceChar {c : Char} {new : List Char} (h : c ∉ new) (s : List Char) :
    c ∉ replaceChar c new s := by
  rw [replaceChar, List.mem_flatMap]
  rintro ⟨d, -, hd⟩
  split at hd
  · exact h hd
  · next hne => exact hne (beq_iff_eq.mpr (List.mem_singleton.mp hd).symm)

end DataDictionary.Text
