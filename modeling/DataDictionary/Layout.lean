import DataDictionary.Binary64.Reader
import DataDictionary.Json.Decode
import DataDictionary.Record
import DataDictionary.Sheet
import DataDictionary.Text.LetterCase

/-!
# Layouts

Where a sheet has the name of its table, its headers and its data. Headers are told apart by their
trimmed text in lower case. A row is a record if it has a value in the column of names; rows at or
above the headers never are.
-/

namespace DataDictionary

/-- Where the parts of a table stand on a sheet. -/
structure Layout where
  tableNameRow : Nat := 0
  tableNameCol : Nat := 1
  headerRow : Nat := 1
  firstDataRow : Nat := 2
deriving DecidableEq, Repr

/-- The header of the column that holds the names of fields. -/
def Record.nameHeader : String := "column"

/-- The value of a cell with its type. Numbers that are not finite are texts. -/
def Cell.scalar? (cell : Cell) : Option Scalar :=
  match cell.kind with
  | .empty | .error => none
  | .boolean => some (.boolean (cell.value == "1"))
  | .number =>
    match Binary64.read? (Text.trim cell.value.toList) with
    | some x => some (if x.isFinite then .number x else .text cell.value)
    | none => some (.text cell.value)
  | _ => cell.text.map .text

namespace Layout

open Text

/-- The name of the table on a sheet: what its cell says, or the name of the sheet. -/
def tableName (layout : Layout) (sheet : Sheet) : String :=
  match (sheet.get? layout.tableNameRow layout.tableNameCol).bind (·.text) with
  | some name => if (trim name.toList).isEmpty then sheet.name else trimmed name
  | none => sheet.name

/-- The column and the key of a header cell, unless it is blank. -/
def header? (cell : Cell) : Option (Nat × String) :=
  match cell.text.map fun text => lowered (trimmed text) with
  | some key => if key.isEmpty then none else some (cell.col, key)
  | none => none

/-- The columns that have headers, by column. -/
def headers (layout : Layout) (sheet : Sheet) : List (Nat × String) :=
  (sheet.row layout.headerRow).filterMap header?

def record (sheet : Sheet) (headers : List (Nat × String)) (row : Nat) : Record :=
  .ofValues row <| headers.filterMap fun (col, key) =>
    ((sheet.get? row col).bind (·.scalar?)).map (key, ·)

/-- The first row that may hold a record. -/
def firstRow (layout : Layout) : Nat := max layout.firstDataRow (layout.headerRow + 1)

def records (layout : Layout) (sheet : Sheet) : List Record :=
  let headers := layout.headers sheet
  ((sheet.rowsFrom layout.firstRow).map (record sheet headers)).filter fun record =>
    (record.scalar? Record.nameHeader).isSome

/-- The records of a sheet, if the row behind the headers is a word. -/
def records? (layout : Layout) (sheet : Sheet) : Option (List Record) :=
  (next? layout.headerRow).map fun _ => layout.records sheet

/-! ### JSON -/

open Json (fields? withDefault? count?)

/-- Read a layout; what is missing has its default. -/
def ofJson? (json : Json) : Option Layout := do
  let fields ← fields? ["table_name_row", "table_name_col", "header_row", "first_data_row"] json
  let tableNameRow ← withDefault? 0 count? fields "table_name_row"
  let tableNameCol ← withDefault? 1 count? fields "table_name_col"
  let headerRow ← withDefault? 1 count? fields "header_row"
  let firstDataRow ← withDefault? 2 count? fields "first_data_row"
  some { tableNameRow, tableNameCol, headerRow, firstDataRow }

end Layout

end DataDictionary
