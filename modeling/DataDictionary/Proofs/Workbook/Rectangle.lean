import DataDictionary.Proofs.Sheet
import DataDictionary.Text.Whole
import DataDictionary.Workbook.OpenDocument.Repetition
import Mathlib.Data.List.ProdSigma

/-!
# Rectangles of positions

A cell that is repeated over rows and columns covers a rectangle, and what a sheet has of it is a
rectangle as well. The positions of that one are told row by row, each by the quotient and the
remainder of its number, and the cell is made at the first of them, as many as are made of one cell.
All of them lie on the sheet, so that no row and no column is ever counted beyond a word.
-/

namespace DataDictionary.Workbook.OpenDocument

open Text

/-- Rows next to each other and columns next to each other, from a position on. -/
structure Rectangle where
  row : Nat
  col : Nat
  rows : Nat
  cols : Nat

namespace Rectangle

/-- How many positions there are. -/
def area (rectangle : Rectangle) : Nat := rectangle.rows * rectangle.cols

/-- The position lies in the rectangle. -/
def Contains (rectangle : Rectangle) (position : Nat × Nat) : Prop :=
  (rectangle.row ≤ position.1 ∧ position.1 < rectangle.row + rectangle.rows) ∧
    rectangle.col ≤ position.2 ∧ position.2 < rectangle.col + rectangle.cols

/-- The positions, row by row. -/
def positions (rectangle : Rectangle) : List (Nat × Nat) :=
  List.range' rectangle.row rectangle.rows ×ˢ List.range' rectangle.col rectangle.cols

variable {rectangle : Rectangle}

@[simp] lemma mem_positions {position : Nat × Nat} :
    position ∈ rectangle.positions ↔ rectangle.Contains position := by
  obtain ⟨i, j⟩ := position
  simp [positions, Contains]

@[simp] lemma length_positions : rectangle.positions.length = rectangle.area := by
  rw [positions, List.length_product, List.length_range', List.length_range', area]

lemma sorted_positions (rectangle : Rectangle) :
    rectangle.positions.Pairwise (comparePositions · · = .lt) := by
  apply List.pairwise_flatMap.mpr
  constructor
  · -- within a row the columns grow
    intro i _
    rw [List.pairwise_map]
    apply (List.pairwise_lt_range' 1).imp
    intro j j' hlt
    exact comparePositions_eq_lt_iff.mpr (.inr ⟨rfl, hlt⟩)
  · -- from row to row it makes no difference where the columns are
    apply (List.pairwise_lt_range' 1).imp
    intro i i' hlt p hp q hq
    obtain ⟨j, -, rfl⟩ := List.mem_map.mp hp
    obtain ⟨j', -, rfl⟩ := List.mem_map.mp hq
    exact comparePositions_eq_lt_iff.mpr (.inl hlt)

/-! ### Numbers of positions -/

/-- The positions of a further row are those with the numbers behind all before it. -/
lemma product_last (row col rows cols : Nat) :
    [row + rows] ×ˢ List.range' col cols =
      ((List.range cols).map (rows * cols + ·)).map fun i => (row + i / cols, col + i % cols) := by
  rw [List.product_cons, List.nil_product, List.append_nil, List.range'_eq_map_range,
    List.map_map, List.map_map]
  apply List.map_congr_left
  intro j hj
  have hlt : j < cols := List.mem_range.mp hj
  have hdiv : (rows * cols + j) / cols = rows := by
    rw [Nat.mul_comm, Nat.mul_add_div (by omega), Nat.div_eq_of_lt hlt, Nat.add_zero]
  have hmod : (rows * cols + j) % cols = j := by
    rw [Nat.mul_comm, Nat.mul_add_mod, Nat.mod_eq_of_lt hlt]
  simp [hdiv, hmod]

/-- The number of a position tells its row and its column. -/
lemma positions_eq_map (row col rows cols : Nat) :
    (Rectangle.mk row col rows cols).positions =
      (List.range (rows * cols)).map fun i => (row + i / cols, col + i % cols) := by
  induction rows with
  | zero => simp [positions]
  | succ rows ih =>
    have happend : (Rectangle.mk row col (rows + 1) cols).positions =
        (Rectangle.mk row col rows cols).positions ++ [row + rows] ×ˢ List.range' col cols := by
      simp only [positions, List.range'_1_concat]
      exact List.flatMap_append
    rw [happend, ih, product_last, Nat.succ_mul, List.range_add, List.map_append]

/-- The positions are those of a rectangle in the corner of a sheet, moved to where it stands. -/
lemma positions_eq_map_product (row col rows cols : Nat) :
    (Rectangle.mk row col rows cols).positions =
      (List.range rows ×ˢ List.range cols).map fun (i, j) => (row + i, col + j) := by
  simp [positions, List.range'_eq_map_range, SProd.sprod, List.product, List.map_flatMap,
    List.flatMap_map, Function.comp_def]

/-! ### First positions -/

/-- So many different positions of the rectangle, row by row, and with each of them all positions
of the rectangle that come before it. -/
structure IsFirst (rectangle : Rectangle) (n : Nat) (first : List (Nat × Nat)) : Prop where
  length_eq : first.length = n
  nodup : first.Nodup
  sorted : first.Pairwise (comparePositions · · = .lt)
  contains : ∀ position ∈ first, rectangle.Contains position
  mem_of_lt : ∀ position ∈ first, ∀ earlier, rectangle.Contains earlier →
    comparePositions earlier position = .lt → earlier ∈ first

lemma isFirst_take (rectangle : Rectangle) (n : Nat) :
    rectangle.IsFirst (min n rectangle.area) (rectangle.positions.take n) := by
  have hsorted := rectangle.sorted_positions.sublist (List.take_sublist n _)
  constructor
  case length_eq => simp
  case sorted => exact hsorted
  case nodup =>
    apply hsorted.imp
    rintro p _ hlt rfl
    rw [comparePositions_eq_iff.mpr rfl] at hlt
    cases hlt
  case contains =>
    intro position hposition
    exact mem_positions.mp (List.mem_of_mem_take hposition)
  case mem_of_lt =>
    intro position hposition earlier hcontains hearlier
    have hmem := mem_positions.mpr hcontains
    rw [← List.take_append_drop n rectangle.positions, List.mem_append] at hmem
    rcases hmem with htake | hdrop
    · exact htake
    · -- what is dropped comes behind every position that is taken
      have hall := rectangle.sorted_positions
      rw [← List.take_append_drop n rectangle.positions, List.pairwise_append] at hall
      have hlater := hall.2.2 position hposition earlier hdrop
      rw [comparePositions_eq_lt_iff] at hearlier hlater
      omega

/-- What a sheet has of so many rows and columns from a position on. -/
def onSheet (row col rowCount colCount : Nat) : Rectangle where
  row
  col
  rows := min rowCount (maxRows - row)
  cols := min colCount (maxCols - col)

end Rectangle

/-! ### Repeated cells -/

variable {row col rowCount colCount : Nat}

lemma repeatedPositions_eq :
    repeatedPositions row col rowCount colCount =
      (Rectangle.onSheet row col rowCount colCount).positions.take maxRepeated := by
  rw [Rectangle.onSheet, Rectangle.positions_eq_map, ← List.map_take, List.take_range]
  rfl

/-- A cell is repeated over positions of a sheet, from its own on. -/
lemma repeatedPositions_lt {position : Nat × Nat}
    (h : position ∈ repeatedPositions row col rowCount colCount) :
    (row ≤ position.1 ∧ position.1 < maxRows) ∧ col ≤ position.2 ∧ position.2 < maxCols := by
  rw [repeatedPositions_eq] at h
  have hcontains := Rectangle.mem_positions.mp (List.mem_of_mem_take h)
  simp only [Rectangle.Contains, Rectangle.onSheet] at hcontains
  omega

/-- The sum of two words, if it is one. -/
def wordSum? (a b : Nat) : Option Nat := if a + b < wordLimit then some (a + b) else none

lemma wordSum?_of_lt {a b : Nat} (h : a + b < wordLimit) : wordSum? a b = some (a + b) := if_pos h

/-- The positions of a repeated cell, found in words: as many offsets as are taken are each added
to the row and the column of the cell, and a sum that is no word is refused. -/
def wordPositions? (row col rowCount colCount : Nat) : Option (List (Nat × Nat)) :=
  let rows := List.range (min rowCount (maxRows - row))
  let cols := List.range (min colCount (maxCols - col))
  ((rows ×ˢ cols).take maxRepeated).mapM fun (i, j) => do
    return (← wordSum? row i, ← wordSum? col j)

lemma mapM_eq_some_map {α β : Type} {f : α → Option β} {g : α → β} {l : List α}
    (h : ∀ a ∈ l, f a = some (g a)) : l.mapM f = some (l.map g) := by
  induction l with
  | nil => rfl
  | cons a l ih =>
    rw [List.forall_mem_cons] at h
    rw [List.mapM_cons, h.1, ih h.2]
    rfl

lemma wordPositions?_eq :
    wordPositions? row col rowCount colCount =
      some (repeatedPositions row col rowCount colCount) := by
  rw [repeatedPositions_eq, Rectangle.onSheet, Rectangle.positions_eq_map_product, ← List.map_take]
  apply mapM_eq_some_map
  rintro ⟨i, j⟩ hoffset
  obtain ⟨hi, hj⟩ := List.mem_product.mp (List.mem_of_mem_take hoffset)
  rw [List.mem_range] at hi hj
  -- what is left of a sheet behind the cell leaves room in a word
  have hrows : maxRows < wordLimit := by decide
  have hcols : maxCols < wordLimit := by decide
  have hrow : wordSum? row i = some (row + i) := wordSum?_of_lt (by omega)
  have hcol : wordSum? col j = some (col + j) := wordSum?_of_lt (by omega)
  simp [hrow, hcol]

/-- A repeated cell is made at the first positions, row by row, of what the sheet has of the
rectangle that it covers: at all of them, or at as many as are made of one cell. Finding them in
words refuses none, and all of them lie on the sheet. -/
theorem repeatedPositions_first (row col rowCount colCount : Nat) :
    wordPositions? row col rowCount colCount =
      some (repeatedPositions row col rowCount colCount) ∧
    (Rectangle.onSheet row col rowCount colCount).IsFirst
      (min maxRepeated (min rowCount (maxRows - row) * min colCount (maxCols - col)))
      (repeatedPositions row col rowCount colCount) ∧
    ∀ position ∈ repeatedPositions row col rowCount colCount,
      position.1 < maxRows ∧ position.2 < maxCols := by
  have hfirst := (Rectangle.onSheet row col rowCount colCount).isFirst_take maxRepeated
  rw [← repeatedPositions_eq] at hfirst
  refine ⟨wordPositions?_eq, hfirst, ?_⟩
  intro position hposition
  obtain ⟨⟨-, hrow⟩, -, hcol⟩ := repeatedPositions_lt hposition
  exact ⟨hrow, hcol⟩

/-- In the last row, two columns are left of a sheet. -/
example : repeatedPositions (maxRows - 1) (maxCols - 2) 5 5 =
    [(1048575, 16382), (1048575, 16383)] := by decide

end DataDictionary.Workbook.OpenDocument
