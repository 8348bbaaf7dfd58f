/-!
# Repeated cells

A row or a cell may stand for many. Only so many of them are made as fit the sheet, and of one cell
no more than a full row has.
-/

namespace DataDictionary.Workbook.OpenDocument

def maxRows : Nat := 1048576

def maxCols : Nat := 16384

/-- How many cells are made of one repeated cell at most. -/
def maxRepeated : Nat := 16384

/-- The positions of a cell at a position that is repeated over rows and columns, row by row. -/
def repeatedPositions (row col rowCount colCount : Nat) : List (Nat × Nat) :=
  let rows := min rowCount (maxRows - row)
  let cols := min colCount (maxCols - col)
  (List.range (min maxRepeated (rows * cols))).map fun i => (row + i / cols, col + i % cols)

end DataDictionary.Workbook.OpenDocument
