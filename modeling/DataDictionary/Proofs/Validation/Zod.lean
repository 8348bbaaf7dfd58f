import DataDictionary.Proofs.Text.Split
import DataDictionary.Validation.Zod

/-!
# Labels that are read back

A label is written with its backslashes doubled and with a backslash in front of each quotation
mark. So its literal ends where it was closed and not before, and whatever the labels of a source
are, they are read back from it, with any calls behind them.
-/

namespace DataDictionary.Validation.Zod

open Text

/-! ### Literals -/

/-- What a literal that has begun stands for, and what follows it. It ends at the first single quote
without a backslash in front; behind a backslash any character stands for itself. -/
def readLiteral : List Char → Option (List Char × List Char)
  | [] => none
  | '\'' :: rest => some ([], rest)
  | '\\' :: c :: rest => (readLiteral rest).map fun (s, after) => (c :: s, after)
  | c :: rest => (readLiteral rest).map fun (s, after) => (c :: s, after)

lemma length_of_readLiteral {s held after : List Char} (h : readLiteral s = some (held, after)) :
    after.length < s.length := by
  induction s using readLiteral.induct generalizing held with
  | case1 => simp [readLiteral] at h
  | case2 rest =>
    obtain ⟨-, rfl⟩ : [] = held ∧ rest = after := by simpa [readLiteral] using h
    simp
  | case3 c rest ih =>
    simp only [readLiteral, Option.map_eq_some_iff, Prod.exists] at h
    obtain ⟨s, after, hs, heq⟩ := h
    obtain ⟨-, rfl⟩ := Prod.mk.inj heq
    have hlt := ih hs
    simp only [List.length_cons]
    omega
  | case4 c rest hquote hslash ih =>
    simp only [readLiteral, Option.map_eq_some_iff, Prod.exists] at h
    obtain ⟨s, after, hs, heq⟩ := h
    obtain ⟨-, rfl⟩ := Prod.mk.inj heq
    exact (ih hs).trans (Nat.lt_succ_self _)

/-- The literals of a list that has begun, with a comma and a blank between them, and what follows
the brackets that close it. -/
def readLiterals (s : List Char) : Option (List String × List Char) :=
  match s with
  | '\'' :: rest =>
    match _h : readLiteral rest with
    | none => none
    | some (held, after) =>
      match _hmore : dropStart? ", ".toList after with
      | some more =>
        (readLiterals more).map fun (labels, rest) => (String.ofList held :: labels, rest)
      | none => (dropStart? "])".toList after).map fun rest => ([String.ofList held], rest)
  | _ => none
termination_by s.length
decreasing_by
  have hlt := length_of_readLiteral _h
  have hle := congrArg List.length (dropStart?_eq_some _hmore)
  simp only [List.length_append, List.length_cons] at hle ⊢
  omega

/-- The labels that a source begins with, and what follows them. -/
def readLabels? (s : List Char) : Option (List String × List Char) :=
  match dropStart? "z.enum([".toList s with
  | none => none
  | some rest =>
    match dropStart? "])".toList rest with
    | some after => some ([], after)
    | none => readLiterals rest

/-! ### Labels in quotes -/

lemma escape_cons (c : Char) (s : List Char) :
    escape (c :: s) = escape [c] ++ escape s := by
  simp [escape]

/-- Marks are escaped as if the backslashes were doubled first, and then a backslash put in front of
each quotation mark. -/
lemma escape_eq (s : List Char) :
    escape s = replaceChar '\'' ['\\', '\''] (replaceChar '\\' ['\\', '\\'] s) := by
  rw [escape, replaceChar, replaceChar, List.flatMap_assoc]
  apply List.flatMap_congr
  intro c _
  by_cases hslash : c = '\\'
  · simp [hslash]
  · by_cases hquote : c = '\'' <;> simp [hslash, hquote]

lemma readLiteral_escape_cons (c : Char) (rest : List Char) :
    readLiteral (escape [c] ++ rest) =
      (readLiteral rest).map fun (s, after) => (c :: s, after) := by
  by_cases hslash : c = '\\'
  · subst hslash
    rfl
  by_cases hquote : c = '\''
  · subst hquote
    rfl
  · have hplain : escape [c] = [c] := by simp [escape, hslash, hquote]
    rw [hplain, List.singleton_append, readLiteral]
    · exact hquote
    · intro d rest hc
      exact absurd hc hslash

/-- A literal ends where it was closed, whatever it holds. -/
theorem readLiteral_escape (s rest : List Char) :
    readLiteral (escape s ++ '\'' :: rest) = some (s, rest) := by
  induction s with
  | nil => simp [escape, readLiteral]
  | cons c s ih => rw [escape_cons, List.append_assoc, readLiteral_escape_cons, ih, Option.map_some]

lemma readLiterals_quote (label : String) (after : List Char) :
    readLiterals (quote label ++ after) =
      match dropStart? ", ".toList after with
      | some more =>
        (readLiterals more).map fun (labels, rest) => (label :: labels, rest)
      | none => (dropStart? "])".toList after).map fun rest => ([label], rest) := by
  have hquote : quote label ++ after = '\'' :: (escape label.toList ++ '\'' :: after) := by
    simp [quote]
  rw [hquote, readLiterals]
  split
  · next hnone => simp [readLiteral_escape] at hnone
  · next held rest hsome =>
    rw [readLiteral_escape] at hsome
    obtain ⟨rfl, rfl⟩ := Prod.mk.inj (Option.some.inj hsome)
    split <;> simp_all

lemma readLiterals_join {values : List String} (hne : values ≠ []) (rest : List Char) :
    readLiterals (join ", ".toList (values.map quote) ++ ("])".toList ++ rest)) =
      some (values, rest) := by
  induction values with
  | nil => exact absurd rfl hne
  | cons label values ih =>
    cases values with
    | nil =>
      rw [List.map_singleton, join, readLiterals_quote]
      rfl
    | cons next values =>
      have hmore := ih (List.cons_ne_nil next values)
      rw [List.map_cons] at hmore
      rw [List.map_cons, List.map_cons, join, List.append_assoc, List.append_assoc,
        readLiterals_quote, dropStart?_append]
      · simp only [hmore, Option.map_some]
      · simp

lemma exists_join_quote (label : String) (values : List String) :
    ∃ literals, join ", ".toList ((label :: values).map quote) = '\'' :: literals := by
  cases values with
  | nil => exact ⟨_, rfl⟩
  | cons next values => exact ⟨_, rfl⟩

lemma labels_append (values : List String) (rest : List Char) :
    labels values ++ rest =
      "z.enum([".toList ++ (join ", ".toList (values.map quote) ++ ("])".toList ++ rest)) := by
  unfold labels
  simp only [List.append_assoc]

/-- The labels of a source are read back, whatever follows them. -/
lemma readLabels?_labels (values : List String) (rest : List Char) :
    readLabels? (labels values ++ rest) = some (values, rest) := by
  rw [labels_append, readLabels?]
  simp only [dropStart?_append]
  cases values with
  | nil => simp only [List.map_nil, join, List.nil_append, dropStart?_append]
  | cons label values =>
    obtain ⟨literals, hliterals⟩ := exists_join_quote label values
    -- A literal begins with its mark, so the list is not taken for an empty one.
    have hclosed : dropStart? "])".toList
        (join ", ".toList ((label :: values).map quote) ++ ("])".toList ++ rest)) = none := by
      rw [hliterals]
      simp [dropStart?]
    simp only [hclosed]
    exact readLiterals_join (List.cons_ne_nil _ _) rest

/-- Whatever labels a source has, with marks, backslashes, commas and brackets in any order, they
are read back from it, and what follows them is what was written behind them: so other labels give
another source. Each literal ends where it was closed. This is so because the backslashes are
doubled before the marks are escaped. -/
theorem readLabels?_reads_labels :
    (∀ (values : List String) (rest : List Char),
      readLabels? (labels values ++ rest) = some (values, rest)) ∧
    (∀ (values : List String) (message : String) (modifiers : List ModifierCheck)
      (enumerated : Bool),
      readLabels? (render ⟨⟨.oneOf values, message⟩, modifiers, enumerated⟩).toList =
        some (values, if enumerated then [] else modifiers.flatMap call)) ∧
    (∀ (label : String) (rest : List Char), ∃ literal,
      quote label ++ rest = '\'' :: literal ∧ readLiteral literal = some (label.toList, rest)) ∧
    (∀ (values others : List String) (rest after : List Char),
      labels values ++ rest = labels others ++ after ↔ values = others ∧ rest = after) ∧
    ∀ s : List Char,
      escape s = replaceChar '\'' ['\\', '\''] (replaceChar '\\' ['\\', '\\'] s) := by
  refine ⟨readLabels?_labels, ?_, ?_, ?_, escape_eq⟩
  · intro values message modifiers enumerated
    cases enumerated with
    | true => simpa [render, base] using readLabels?_labels values []
    | false => simp [render, base, readLabels?_labels]
  · intro label rest
    exact ⟨escape label.toList ++ '\'' :: rest, by simp [quote], readLiteral_escape _ _⟩
  · intro values others rest after
    constructor
    · intro h
      have hread := congrArg readLabels? h
      simpa [readLabels?_labels] using hread
    · rintro ⟨rfl, rfl⟩
      rfl

end DataDictionary.Validation.Zod
