import DataDictionary.Calendar.Serial
import DataDictionary.Text.Split

/-!
# Cells

A cell holds its value as the workbook stores it, with a kind that says how to read it. The display
text is what the rest of the library works on: dates as ISO text, truth values as words.
-/

namespace DataDictionary

/-- How the stored value of a cell is meant. -/
inductive CellKind where
  | empty
  | boolean
  | number
  /-- A number with a date or time format. -/
  | serial (kind : SerialKind) (epoch : Epoch)
  /-- An ISO 8601 date, with or without a time of day. -/
  | isoDateTime
  /-- An ISO 8601 duration. -/
  | isoDuration
  | text
  /-- The number of a text in the shared list of the workbook. -/
  | sharedText
  | error
deriving DecidableEq, Repr

/-- A cell of a sheet. Rows and columns are counted from zero. -/
structure Cell where
  row : Nat
  col : Nat
  kind : CellKind
  value : String
deriving DecidableEq, Repr

namespace Cell

open Text

def position (cell : Cell) : Nat × Nat := (cell.row, cell.col)

/-- A text without every `PT`, read from the left. -/
def dropPeriodMark : List Char → List Char
  | 'P' :: 'T' :: rest => dropPeriodMark rest
  | c :: rest => c :: dropPeriodMark rest
  | [] => []

/-- A duration with colons in place of its unit letters. -/
def durationChars (value : List Char) : List Char :=
  replaceChar 'S' [] (replaceChar 'M' [':'] (replaceChar 'H' [':'] (dropPeriodMark value)))

/-- The display text; `none` for empty cells and errors. -/
def text (cell : Cell) : Option String :=
  match cell.kind with
  | .empty | .error => none
  | .boolean => some (if cell.value == "1" then "true" else "false")
  | .serial kind epoch =>
    match Serial.chars kind epoch cell.value.toList with
    | some chars => some (String.ofList chars)
    | none => some cell.value
  | .isoDateTime => some (String.ofList (replaceChar 'T' [' '] cell.value.toList))
  | .isoDuration => some (String.ofList (durationChars cell.value.toList))
  | .number | .text | .sharedText => some cell.value

end Cell

end DataDictionary
