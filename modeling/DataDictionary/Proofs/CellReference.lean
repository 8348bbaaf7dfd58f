import DataDictionary.CellReference
import DataDictionary.Proofs.Text.Whole
import Mathlib.Data.Nat.Digits.Defs

/-!
# Cell references that are read back

The reference of a cell names its row and its column, whose numbers are words. Only letters with
digits behind them name a cell: the letters are its column in bijective base 26 and the digits its
row, both counted from one.
-/

namespace DataDictionary.CellReference

open Text

lemma isDigit_eq (c : Char) : isDigit c = c.isDigit := by
  rw [Bool.eq_iff_iff]
  simp [isDigit, Char.isDigit, Char.le_def]

/-- A reference is cut in front of its first digit. -/
lemma read?_append {letters : List Char} (hletters : ∀ c ∈ letters, c.isDigit = false) {c : Char}
    (hc : c.isDigit = true) (rest : List Char) :
    read? (letters ++ c :: rest) =
      (column? letters).bind fun col => (row? (c :: rest)).map fun row => (row, col) := by
  have hbefore : ∀ c ∈ letters, (!isDigit c) = true := by
    intro c hc
    rw [isDigit_eq, hletters c hc, Bool.not_false]
  have hstop : isDigit c = true := by rw [isDigit_eq, hc]
  rw [read?, List.takeWhile_append_of_pos hbefore, List.dropWhile_append_of_pos hbefore,
    List.takeWhile_cons_of_neg (by simp [hstop]), List.dropWhile_cons_of_neg (by simp [hstop]),
    List.append_nil]
  simp only [Option.map_eq_bind]
  rfl

/-! ### References of cells -/

/-- The letter of a digit in bijective base 26. -/
lemma letterValue_ofNat : ∀ k < 26, isLetter (Char.ofNat (65 + k)) = true ∧
    isDigit (Char.ofNat (65 + k)) = false ∧ letterValue (Char.ofNat (65 + k)) = k + 1 := by
  decide

/-- The letters of a number are read as the number, and what follows them behind it. -/
lemma lettersFrom_lettersOf (n : Nat) (rest : List Char) (h : n < wordLimit) :
    lettersFrom 0 (lettersOf n rest) = lettersFrom n rest := by
  fun_induction lettersOf n rest with
  | case1 => rfl
  | case2 n rest hn ih =>
    obtain ⟨hletter, -, hvalue⟩ := letterValue_ofNat ((n - 1) % 26) (by omega)
    have hsum : (n - 1) / 26 * 26 + ((n - 1) % 26 + 1) = n := by omega
    rw [ih (by omega), lettersFrom, hletter]
    simp only [hvalue, hsum, if_pos h, Bool.not_true, Bool.false_eq_true, if_false]

lemma isDigit_of_mem_lettersOf (n : Nat) (rest : List Char)
    (h : ∀ c ∈ rest, isDigit c = false) : ∀ c ∈ lettersOf n rest, isDigit c = false := by
  fun_induction lettersOf n rest with
  | case1 => exact h
  | case2 n rest hn ih =>
    apply ih
    rw [List.forall_mem_cons]
    exact ⟨(letterValue_ofNat ((n - 1) % 26) (by omega)).2.1, h⟩

lemma lettersOf_ne_nil (n : Nat) (rest : List Char) (h : n ≠ 0 ∨ rest ≠ []) :
    lettersOf n rest ≠ [] := by
  fun_induction lettersOf n rest with
  | case1 => exact h.resolve_left (not_not_intro rfl)
  | case2 n rest hn ih => exact ih (.inr (List.cons_ne_nil _ _))

lemma column?_lettersOf {col : Nat} (h : col + 1 < wordLimit) :
    column? (lettersOf (col + 1) []) = some col := by
  have hne : (lettersOf (col + 1) []).isEmpty = false :=
    List.isEmpty_eq_false_iff.mpr (lettersOf_ne_nil _ [] (.inl (Nat.succ_ne_zero col)))
  rw [column?, hne, lettersFrom_lettersOf _ _ h, lettersFrom]
  rfl

/-- A reference names the cell that it was written for. -/
theorem read?_write {row col : Nat} (hrow : row + 1 < wordLimit) (hcol : col + 1 < wordLimit) :
    read? (write row col) = some (row, col) := by
  have hletters : ∀ c ∈ lettersOf (col + 1) [], c.isDigit = false := by
    intro c hc
    rw [← isDigit_eq, isDigit_of_mem_lettersOf _ [] (by simp) c hc]
  obtain ⟨c, s, hs⟩ : ∃ c s, decimal (row + 1) = c :: s :=
    List.exists_cons_of_ne_nil Nat.toDigits_ne_nil
  have hc : c.isDigit = true := isDigit_of_mem_decimal (hs ▸ List.mem_cons_self ..)
  have hrow' : row? (c :: s) = some row := by rw [row?, ← hs, readCount_decimal hrow]
  rw [write, hs, read?_append hletters hc, column?_lettersOf hcol, Option.bind_some, hrow',
    Option.map_some]

/-! ### Letters -/

/-- The digit that a letter is in bijective base 26, `A` and `a` being one. -/
def letterDigit (c : Char) : Nat := c.toUpper.toNat - 'A'.toNat + 1

lemma isLetter_eq (c : Char) : isLetter c = c.isAlpha := by
  have halpha : c.isAlpha =
      (decide ('A' ≤ c ∧ c ≤ 'Z') || (decide ('a' ≤ c) && decide (c ≤ 'z'))) := rfl
  rw [Bool.eq_iff_iff, halpha]
  simp [isLetter, or_comm]

lemma exists_of_isAlpha {c : Char} (h : c.isAlpha = true) :
    ∃ k < 26, c = Char.ofNat (65 + k) ∨ c = Char.ofNat (97 + k) := by
  have hc : (97 ≤ c.toNat ∧ c.toNat ≤ 122) ∨ (65 ≤ c.toNat ∧ c.toNat ≤ 90) := by
    rw [← isLetter_eq] at h
    simpa [isLetter, Char.le_def, UInt32.le_iff_toNat_le] using h
  rcases hc with ⟨hlow, hhigh⟩ | ⟨hlow, hhigh⟩
  · refine ⟨c.toNat - 97, by omega, .inr ?_⟩
    rw [Nat.add_sub_cancel' hlow, Char.ofNat_toNat]
  · refine ⟨c.toNat - 65, by omega, .inl ?_⟩
    rw [Nat.add_sub_cancel' hlow, Char.ofNat_toNat]

/-- A letter of either case is read as its digit, which is written as the capital. -/
lemma letterDigit_of_isAlpha {c : Char} (h : c.isAlpha = true) :
    c.isDigit = false ∧ letterValue c = letterDigit c ∧ 0 < letterDigit c ∧
      letterDigit c ≤ 26 ∧ Char.ofNat (65 + (letterDigit c - 1)) = c.toUpper := by
  -- There are 26 letters of either case, and each is checked by its code point.
  have hletters : ∀ first ∈ [65, 97], ∀ k < 26,
      let c := Char.ofNat (first + k)
      c.isDigit = false ∧ letterValue c = letterDigit c ∧ 0 < letterDigit c ∧
        letterDigit c ≤ 26 ∧ Char.ofNat (65 + (letterDigit c - 1)) = c.toUpper := by
    decide
  obtain ⟨k, hk, rfl | rfl⟩ := exists_of_isAlpha h
  · exact hletters 65 (by simp) k hk
  · exact hletters 97 (by simp) k hk

/-- The number that letters make behind `value`. -/
def numberFrom (value : Nat) (letters : List Char) : Nat :=
  letters.foldl (fun n c => n * 26 + letterDigit c) value

@[simp] lemma numberFrom_nil (value : Nat) : numberFrom value [] = value := rfl

@[simp] lemma numberFrom_cons (value : Nat) (c : Char) (letters : List Char) :
    numberFrom value (c :: letters) = numberFrom (value * 26 + letterDigit c) letters := rfl

lemma le_numberFrom (value : Nat) (letters : List Char) : value ≤ numberFrom value letters := by
  induction letters generalizing value with
  | nil => exact Nat.le_refl value
  | cons c letters ih =>
    have hstep := ih (value * 26 + letterDigit c)
    rw [numberFrom_cons]
    omega

lemma numberFrom_pos {letters : List Char} (hne : letters ≠ [])
    (h : ∀ c ∈ letters, c.isAlpha = true) : 0 < numberFrom 0 letters := by
  obtain ⟨c, letters, rfl⟩ := List.exists_cons_of_ne_nil hne
  have hle := le_numberFrom (0 * 26 + letterDigit c) letters
  have hpos := (letterDigit_of_isAlpha (h c (List.mem_cons_self ..))).2.2.1
  rw [numberFrom_cons]
  omega

/-- Letters and nothing else are read, as the number that they make if it is a word. -/
lemma lettersFrom_eq_some_iff {value n : Nat} (hvalue : value < wordLimit) {s : List Char} :
    lettersFrom value s = some n ↔
      (∀ c ∈ s, c.isAlpha = true) ∧ numberFrom value s = n ∧ n < wordLimit := by
  induction s generalizing value with
  | nil =>
    simp only [lettersFrom, numberFrom_nil, Option.some.injEq, List.not_mem_nil, false_implies,
      implies_true, true_and]
    constructor
    · rintro rfl
      exact ⟨rfl, hvalue⟩
    · exact And.left
  | cons c s ih =>
    rw [lettersFrom, isLetter_eq, List.forall_mem_cons]
    cases hc : c.isAlpha with
    | false => simp
    | true =>
      rw [(letterDigit_of_isAlpha hc).2.1]
      by_cases hbound : value * 26 + letterDigit c < wordLimit
      · simp [hbound, ih hbound]
      · -- A number that is too large stays so, whatever letters follow.
        have hle := le_numberFrom (value * 26 + letterDigit c) s
        simp only [hbound, if_false, Bool.not_true, Bool.false_eq_true, true_and, numberFrom_cons,
          reduceCtorEq, false_iff, not_and]
        rintro - rfl
        omega

/-- Letters are written as capitals of the number that they make. -/
lemma lettersOf_numberFrom (value : Nat) {letters : List Char}
    (h : ∀ c ∈ letters, c.isAlpha = true) (rest : List Char) :
    lettersOf (numberFrom value letters) rest =
      lettersOf value (letters.map Char.toUpper ++ rest) := by
  induction letters generalizing value with
  | nil => rfl
  | cons c letters ih =>
    rw [List.forall_mem_cons] at h
    obtain ⟨-, -, hpos, hle, hupper⟩ := letterDigit_of_isAlpha h.1
    have hdiv : (value * 26 + letterDigit c - 1) / 26 = value := by omega
    have hmod : (value * 26 + letterDigit c - 1) % 26 = letterDigit c - 1 := by omega
    rw [numberFrom_cons, ih _ h.2, lettersOf, dif_neg (by omega), hdiv, hmod, hupper]
    rfl

/-- A number below a power of 26 takes no more letters than the exponent says. -/
lemma length_lettersOf {n k : Nat} (h : n < 26 ^ k) (rest : List Char) :
    (lettersOf n rest).length ≤ k + rest.length := by
  induction k generalizing n rest with
  | zero =>
    obtain rfl : n = 0 := by simpa using h
    rw [lettersOf, dif_pos rfl, Nat.zero_add]
  | succ k ih =>
    rw [lettersOf]
    split
    · exact Nat.le_add_left _ _
    · have hdiv : (n - 1) / 26 < 26 ^ k := by
        rw [Nat.div_lt_iff_lt_mul (by decide), ← Nat.pow_succ]
        exact Nat.lt_of_le_of_lt (Nat.sub_le n 1) h
      have hlength := ih hdiv (Char.ofNat (65 + (n - 1) % 26) :: rest)
      rw [List.length_cons] at hlength
      omega

/-! ### Spellings -/

/-- Letters and digits behind them. -/
structure Spelling where
  letters : List Char
  digits : List Char
  letters_ne_nil : letters ≠ []
  digits_ne_nil : digits ≠ []
  isAlpha_letters : ∀ c ∈ letters, c.isAlpha = true
  isDigit_digits : ∀ c ∈ digits, c.isDigit = true

namespace Spelling

/-- The text of letters and digits. -/
def chars (spelling : Spelling) : List Char := spelling.letters ++ spelling.digits

/-- The number that the letters are in bijective base 26. -/
def columnNumber (spelling : Spelling) : Nat :=
  Nat.ofDigits 26 (spelling.letters.map letterDigit).reverse

/-- The decimal number that the digits are. -/
def rowNumber (spelling : Spelling) : Nat := Nat.ofDigitChars 10 spelling.digits 0

/-- The text in capitals and without leading zeros. -/
def plain (spelling : Spelling) : List Char :=
  spelling.letters.map Char.toUpper ++ spelling.digits.dropWhile (· == '0')

variable (spelling : Spelling)

lemma columnNumber_eq : spelling.columnNumber = numberFrom 0 spelling.letters := by
  rw [columnNumber, Nat.ofDigits_eq_foldr, List.foldr_reverse, List.foldl_map, numberFrom]
  refine congrArg (fun f => List.foldl f 0 spelling.letters) ?_
  funext n c
  rw [Nat.cast_id, Nat.mul_comm, Nat.add_comm]

/-- The reference of the cell that letters and digits name. -/
lemma write_eq {row col : Nat} (hrow : spelling.rowNumber = row + 1)
    (hcol : spelling.columnNumber = col + 1) : write row col = spelling.plain := by
  have hpos : 0 < Nat.ofDigitChars 10 spelling.digits 0 := by
    rw [← rowNumber, hrow]
    exact Nat.succ_pos row
  rw [write, ← hrow, ← hcol, columnNumber_eq, rowNumber, plain,
    lettersOf_numberFrom 0 spelling.isAlpha_letters,
    decimal_ofDigitChars spelling.isDigit_digits hpos, lettersOf, dif_pos rfl, List.append_nil]

end Spelling

/-! ### Reading spellings -/

lemma row?_eq_some_iff {c : Char} (hc : c.isDigit = true) {s : List Char} {row : Nat} :
    row? (c :: s) = some row ↔
      (∀ d ∈ c :: s, d.isDigit = true) ∧ Nat.ofDigitChars 10 (c :: s) 0 = row + 1 ∧
        row + 1 < wordLimit := by
  rw [← digitsFrom_eq_ok_iff (by decide), ← readWhole_of_isDigit 10 wordLimit hc, row?, readCount]
  split
  · next n hread => simp [hread]
  · next hread =>
    simp only [reduceCtorEq, false_iff]
    exact hread row

lemma column?_eq_some_iff {s : List Char} {col : Nat} :
    column? s = some col ↔
      s ≠ [] ∧ (∀ c ∈ s, c.isAlpha = true) ∧ numberFrom 0 s = col + 1 ∧ col + 1 < wordLimit := by
  cases s with
  | nil => simp [column?]
  | cons c s =>
    rw [column?, List.isEmpty_cons, if_neg Bool.false_ne_true, Option.map_eq_some_iff]
    simp only [lettersFrom_eq_some_iff (show 0 < wordLimit by decide)]
    constructor
    · rintro ⟨n, ⟨hletters, hn, hbound⟩, rfl⟩
      have hpos : 0 < n := hn ▸ numberFrom_pos (List.cons_ne_nil _ _) hletters
      refine ⟨List.cons_ne_nil _ _, hletters, ?_, ?_⟩ <;> omega
    · rintro ⟨-, hletters, hn, hbound⟩
      exact ⟨col + 1, ⟨hletters, hn, hbound⟩, rfl⟩

/-- A reference that is read consists of letters and digits. -/
lemma exists_spelling_of_read? {s : List Char} {row col : Nat} (h : read? s = some (row, col)) :
    ∃ spelling : Spelling, spelling.chars = s ∧ spelling.rowNumber = row + 1 ∧
      spelling.columnNumber = col + 1 ∧ row + 1 < wordLimit ∧ col + 1 < wordLimit := by
  rw [read?] at h
  split at h
  · cases h
  next digits hne =>
  obtain ⟨col', hcol, h⟩ := Option.bind_eq_some_iff.mp h
  obtain ⟨row', hrow, h⟩ := Option.bind_eq_some_iff.mp h
  obtain ⟨rfl, rfl⟩ := Prod.mk.inj (Option.some.inj h)
  -- The row begins at the first digit, so what stands before it holds none.
  obtain ⟨c, rest, hdrop⟩ := List.exists_cons_of_ne_nil hne
  have hc : c.isDigit = true := by
    have hstop := List.head?_dropWhile_not (!isDigit ·) s
    rw [hdrop] at hstop
    simpa [isDigit_eq] using hstop
  rw [hdrop, row?_eq_some_iff hc, ← hdrop] at hrow
  rw [column?_eq_some_iff] at hcol
  let spelling : Spelling := ⟨_, _, hcol.1, hne, hcol.2.1, hrow.1⟩
  exact ⟨spelling, List.takeWhile_append_dropWhile, hrow.2.1,
    spelling.columnNumber_eq.trans hcol.2.2.1, hrow.2.2, hcol.2.2.2⟩

/-- Letters and digits are read as the cell that they name. -/
lemma Spelling.read?_chars (spelling : Spelling) {row col : Nat}
    (hrow : spelling.rowNumber = row + 1) (hcol : spelling.columnNumber = col + 1)
    (hrow' : row + 1 < wordLimit) (hcol' : col + 1 < wordLimit) :
    read? spelling.chars = some (row, col) := by
  have hletters : ∀ c ∈ spelling.letters, c.isDigit = false :=
    fun c hc => (letterDigit_of_isAlpha (spelling.isAlpha_letters c hc)).1
  obtain ⟨c, rest, hdigits⟩ := List.exists_cons_of_ne_nil spelling.digits_ne_nil
  have hc := spelling.isDigit_digits c (hdigits ▸ List.mem_cons_self ..)
  rw [columnNumber_eq] at hcol
  have hcolumn : column? spelling.letters = some col :=
    column?_eq_some_iff.mpr ⟨spelling.letters_ne_nil, spelling.isAlpha_letters, hcol, hcol'⟩
  have hrows : row? (c :: rest) = some row := by
    rw [row?_eq_some_iff hc, ← hdigits]
    exact ⟨spelling.isDigit_digits, hrow, hrow'⟩
  rw [chars, hdigits, read?_append hletters hc, hcolumn, Option.bind_some, hrows, Option.map_some]

/-- A text names a cell just if it consists of letters and digits whose numbers are words above
zero, and the reference of the cell is the text in capitals and without leading zeros. The
reference of any cell names it; its letters are made one a round, in fourteen rounds at most. -/
theorem references_name_cells :
    (∀ row col, row + 1 < wordLimit → col + 1 < wordLimit →
      (lettersOf (col + 1) []).length ≤ 14 ∧ read? (write row col) = some (row, col)) ∧
    (∀ s row col, read? s = some (row, col) ↔
      ∃ spelling : Spelling, spelling.chars = s ∧ spelling.rowNumber = row + 1 ∧
        spelling.columnNumber = col + 1 ∧ row + 1 < wordLimit ∧ col + 1 < wordLimit) ∧
    ∀ (spelling : Spelling) row col, spelling.rowNumber = row + 1 →
      spelling.columnNumber = col + 1 → write row col = spelling.plain := by
  refine ⟨fun row col hrow hcol => ⟨?_, read?_write hrow hcol⟩, fun s row col => ⟨?_, ?_⟩, ?_⟩
  · exact length_lettersOf (hcol.trans (by decide)) []
  · exact exists_spelling_of_read?
  · rintro ⟨spelling, rfl, hrow, hcol, hrow', hcol'⟩
    exact spelling.read?_chars hrow hcol hrow' hcol'
  · exact fun spelling row col => spelling.write_eq

/-- The last cell that has a reference, and a reference in small letters with leading zeros. -/
theorem references_name_cells_last :
    (wordLimit - 2 + 1 < wordLimit ∧
      read? (write (wordLimit - 2) (wordLimit - 2)) = some (wordLimit - 2, wordLimit - 2)) ∧
    read? "zz007".toList = some (6, 701) ∧ write 6 701 = "ZZ7".toList := by
  obtain ⟨hwrite, hread, hplain⟩ := references_name_cells
  have hlast : wordLimit - 2 + 1 < wordLimit := by decide
  let spelling : Spelling :=
    ⟨"zz".toList, "007".toList, by decide, by decide, List.all_eq_true.mp (by decide),
      List.all_eq_true.mp (by decide)⟩
  have hrow : spelling.rowNumber = 6 + 1 := by decide
  have hcol : spelling.columnNumber = 701 + 1 := by decide
  refine ⟨⟨hlast, (hwrite _ _ hlast hlast).2⟩, (hread _ _ _).mpr ?_, hplain spelling _ _ hrow hcol⟩
  exact ⟨spelling, rfl, hrow, hcol, by decide, by decide⟩

end DataDictionary.CellReference
