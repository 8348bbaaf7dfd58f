/-!
# Cutting texts

Texts are cut at single characters, or at a separator of several characters. A text with `n`
separators has `n + 1` parts, empty ones included, and the parts joined again give the text.
-/

namespace DataDictionary.Text

/-- The parts of a text between the characters that satisfy `p`. -/
def splitWhere (p : Char → Bool) : List Char → List (List Char)
  | [] => [[]]
  | c :: rest =>
    if p c then
      [] :: splitWhere p rest
    else
      match splitWhere p rest with
      | part :: parts => (c :: part) :: parts
      | [] => [[c]]

theorem splitWhere_ne_nil (p : Char → Bool) (s : List Char) : splitWhere p s ≠ [] := by
  cases s with
  | nil => simp [splitWhere]
  | cons c rest =>
    simp only [splitWhere]
    split
    · simp
    · split <;> simp

/-- A separator ends the part before it and begins the one behind it. -/
theorem splitWhere_append_cons {p : Char → Bool} {c : Char} (hc : p c = true) (s t : List Char) :
    splitWhere p (s ++ c :: t) = splitWhere p s ++ splitWhere p t := by
  induction s with
  | nil => simp [splitWhere, hc]
  | cons d s ih =>
    by_cases hd : p d = true
    · simp [splitWhere, hd, ih]
    · simp only [List.cons_append, splitWhere, hd, ih]
      cases hs : splitWhere p s with
      | nil => exact absurd hs (splitWhere_ne_nil p s)
      | cons part parts => simp

/-- No part holds a separator. -/
theorem not_of_mem_splitWhere {p : Char → Bool} {s part : List Char} (h : part ∈ splitWhere p s)
    {c : Char} (hc : c ∈ part) : p c = false := by
  induction s generalizing part with
  | nil => simp_all [splitWhere]
  | cons d s ih =>
    by_cases hd : p d = true
    · simp only [splitWhere, hd, if_true, List.mem_cons] at h
      rcases h with rfl | h
      · simp at hc
      · exact ih h hc
    · cases hs : splitWhere p s with
      | nil => exact absurd hs (splitWhere_ne_nil p s)
      | cons first parts =>
        simp only [splitWhere, hd, hs, Bool.false_eq_true, if_false, List.mem_cons] at h
        rcases h with rfl | h
        · rcases List.mem_cons.1 hc with rfl | hc
          · simpa using hd
          · exact ih (hs ▸ List.mem_cons_self) hc
        · exact ih (hs ▸ List.mem_cons_of_mem _ h) hc

/-- The parts of a text between the occurrences of a character. -/
def splitAt (sep : Char) (s : List Char) : List (List Char) := splitWhere (· == sep) s

/-- What stands before and after the first occurrence of a character. -/
def cutAt (sep : Char) : List Char → Option (List Char × List Char)
  | [] => none
  | c :: rest => if c == sep then some ([], rest) else (cutAt sep rest).map fun (a, b) => (c :: a, b)

/-- The text behind `pre`, if it starts with that. -/
def dropStart? : List Char → List Char → Option (List Char)
  | [], s => some s
  | _ :: _, [] => none
  | p :: pre, c :: s => if p == c then dropStart? pre s else none

/-- What stands before and after the first occurrence of `sep`. -/
def cutOn (sep : List Char) : List Char → Option (List Char × List Char)
  | [] => none
  | c :: rest =>
    match dropStart? sep (c :: rest) with
    | some after => some ([], after)
    | none => (cutOn sep rest).map fun (a, b) => (c :: a, b)

def occurs (part : List Char) : List Char → Bool
  | [] => part.isEmpty
  | c :: rest => (dropStart? part (c :: rest)).isSome || occurs part rest

def endsWith (tail s : List Char) : Bool := (dropStart? tail.reverse s.reverse).isSome

theorem dropStart?_eq_some {pre s rest : List Char} (h : dropStart? pre s = some rest) :
    s = pre ++ rest := by
  induction pre generalizing s with
  | nil => simpa [dropStart?] using h
  | cons p pre ih =>
    cases s with
    | nil => simp [dropStart?] at h
    | cons c s =>
      simp only [dropStart?] at h
      split at h
      · next hp =>
        obtain rfl : p = c := by simpa using hp
        simp [ih h]
      · simp at h

/-- A cut gives back the text around the separator. -/
theorem cutOn_eq_some {sep s a b : List Char} (h : cutOn sep s = some (a, b)) :
    s = a ++ sep ++ b := by
  induction s generalizing a with
  | nil => simp [cutOn] at h
  | cons c s ih =>
    simp only [cutOn] at h
    split at h
    · next after hd =>
      obtain ⟨rfl, rfl⟩ : [] = a ∧ after = b := by simpa using h
      exact dropStart?_eq_some hd
    · obtain ⟨⟨a', b'⟩, hc, hab⟩ := Option.map_eq_some_iff.1 h
      obtain ⟨rfl, rfl⟩ : c :: a' = a ∧ b' = b := by simpa using hab
      rw [ih hc, List.cons_append, List.cons_append]

/-- Parts joined with a separator between them. -/
def join (sep : List Char) : List (List Char) → List Char
  | [] => []
  | [part] => part
  | part :: parts => part ++ sep ++ join sep parts

/-- A character replaced by a text wherever it occurs. -/
def replaceChar (c : Char) (new : List Char) (s : List Char) : List Char :=
  s.flatMap fun d => if d == c then new else [d]

end DataDictionary.Text
