import DataDictionary.Cell
import Std.Data.TreeMap

/-!
# Sheets

A sheet holds at most one cell per position. Cells are listed in the order in which their positions
were first filled; a later cell at a position takes the place of the earlier one. Beside the list
stand two indexes of places in it: by position, for single cells, and by row, for the cells of a
row and the filled rows from the top.
-/

namespace DataDictionary

/-- Positions are ordered by row, those of a row by column. -/
def comparePositions : Nat × Nat → Nat × Nat → Ordering :=
  compareLex (compareOn Prod.fst) (compareOn Prod.snd)

/-- All cells of one worksheet. -/
structure Sheet where
  /-- The workbook that the sheet was read from. -/
  file : String
  /-- The name on the tab of the sheet. -/
  name : String
  /-- The cells in reading order. -/
  cells : Array Cell := #[]
  /-- The place of the cell at each filled position. -/
  places : Std.TreeMap (Nat × Nat) Nat comparePositions := ∅
  /-- The places of the cells of each filled row, in reading order. -/
  rows : Std.TreeMap Nat (Array Nat) := ∅

namespace Sheet

def new (file name : String) : Sheet := { file, name }

def get? (sheet : Sheet) (row col : Nat) : Option Cell :=
  sheet.places[(row, col)]?.bind (sheet.cells[·]?)

/-- Put a place behind those of a row. -/
def addPlace (place : Nat) (places : Option (Array Nat)) : Option (Array Nat) :=
  some ((places.getD #[]).push place)

def push (sheet : Sheet) (cell : Cell) : Sheet :=
  match sheet.places[cell.position]? with
  | some place => { sheet with cells := sheet.cells.setIfInBounds place cell }
  | none =>
    let place := sheet.cells.size
    { sheet with
      cells := sheet.cells.push cell
      places := sheet.places.insert cell.position place
      rows := sheet.rows.alter cell.row (addPlace place) }

def pushAll (sheet : Sheet) (cells : List Cell) : Sheet := cells.foldl push sheet

/-- The places of the cells of a row, in reading order. -/
def placesOf (sheet : Sheet) (row : Nat) : List Nat := (sheet.rows.getD row #[]).toList

/-- The cells of a row by column. -/
def row (sheet : Sheet) (row : Nat) : List Cell :=
  ((sheet.placesOf row).filterMap (sheet.cells[·]?)).mergeSort (·.col ≤ ·.col)

/-- The filled rows from `lower` on, from the top. -/
def rowsFrom (sheet : Sheet) (lower : Nat) : List Nat := sheet.rows.keys.filter (lower ≤ ·)

end Sheet

end DataDictionary
