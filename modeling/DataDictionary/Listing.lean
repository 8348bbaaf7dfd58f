import DataDictionary.Extraction.Basic
import DataDictionary.Json.Writer
import DataDictionary.Validation.Codec
import DataDictionary.Validation.Zod

/-!
# Listings

The fields of a workbook as the rows of a table with fixed columns, one row for each field. A
listing may be narrowed to sheets by patterns and to tables by a name, and is handed out in chunks
of rows.
-/

namespace DataDictionary

inductive Listing.Value where
  | text (s : String)
  | boolean (b : Bool)
  | null
deriving DecidableEq, Repr

inductive Listing.Column where
  | tableName
  | fieldName
  | semanticType
  | rawType
  | required
  | unique
  | indexed
  | primary
  | foreign
  | foreignTable
  | foreignKey
  | defaultValue
  | enumValues
  | uiHint
  | exportable
  | validation
  | zod
deriving DecidableEq, Repr

namespace Listing

/-! ### Columns -/

namespace Column

def all : List Column := [
  .tableName, .fieldName, .semanticType, .rawType, .required, .unique, .indexed, .primary,
  .foreign, .foreignTable, .foreignKey, .defaultValue, .enumValues, .uiHint, .exportable,
  .validation, .zod]

def name : Column → String
  | .tableName => "table_name"
  | .fieldName => "field_name"
  | .semanticType => "semantic_type"
  | .rawType => "raw_type"
  | .required => "required"
  | .unique => "unique"
  | .indexed => "indexed"
  | .primary => "primary"
  | .foreign => "foreign"
  | .foreignTable => "foreign_table"
  | .foreignKey => "foreign_key"
  | .defaultValue => "default_value"
  | .enumValues => "enum_values"
  | .uiHint => "ui_hint"
  | .exportable => "exportable"
  | .validation => "validation"
  | .zod => "zod"

/-- The column holds truth values; the others hold texts. -/
def isBoolean : Column → Bool
  | .required | .unique | .indexed | .primary | .foreign | .exportable => true
  | _ => false

/-- A text that may be absent. -/
def ofText? : Option String → Value
  | some s => .text s
  | none => .null

/-- The value of a column for a field. Lists and validations are written as compact JSON. -/
def value (table : Table) (field : Field) : Column → Value
  | .tableName => .text table.name
  | .fieldName => .text field.name
  | .semanticType => .text field.type.name
  | .rawType => .text field.rawType
  | .required => .boolean field.required
  | .unique => .boolean field.unique
  | .indexed => .boolean field.indexed
  | .primary => .boolean field.isPrimary
  | .foreign => .boolean field.isForeign
  | .foreignTable => ofText? (field.reference.bind (·.table))
  | .foreignKey => ofText? (field.reference.bind (·.key))
  | .defaultValue => ofText? (field.default.map (·.display))
  | .enumValues => ofText? (field.enumValues.map fun labels => (Json.ofStrings labels).compact)
  | .uiHint => ofText? field.uiHint
  | .exportable => .boolean field.exportable
  | .validation => .text field.validation.toJson.compact
  | .zod => .text (Validation.Zod.render field.validation)

end Column

/-- A row has a value for each column. -/
abbrev Row := List Value

def row (table : Table) (field : Field) : Row := Column.all.map (Column.value table field)

/-- The rows of tables: one for each field, table by table. -/
def rows (tables : List Table) : List Row :=
  tables.flatMap fun table => table.fields.map (row table)

/-! ### Parameters -/

open Text

/-- The names of the parameters besides the workbook. -/
def parameterNames : List String := ["sheets", "table_name"]

/-- A parameter trimmed; a blank one counts as absent. -/
def given? (parameter : Option String) : Option String :=
  (parameter.map trimmed).filter (!·.isEmpty)

/-- The patterns of a list with commas. -/
def splitPatterns (patterns : String) : List String :=
  (((splitAt ',' patterns.toList).map trim).filter (!·.isEmpty)).map String.ofList

/-- A pattern that is well-formed. -/
def checkPattern (pattern : String) : Except Workbook.Error String :=
  match Glob.read pattern.toList with
  | .ok _ => .ok pattern
  | .error fault => .error (.invalidParameter "sheets" s!"'{pattern}' {fault.message}")

/-- The patterns of the parameter for sheets. If it is given, it must hold some. -/
def readPatterns (sheets : Option String) : Except Workbook.Error (List String) :=
  match given? sheets with
  | none => .ok []
  | some list =>
    match splitPatterns list with
    | [] => .error (.invalidParameter "sheets" "no sheet name pattern given")
    | patterns => patterns.mapM checkPattern

/-- The tables of the given name, ignoring the case of ASCII letters, or all where none is given.
There must be one. -/
def selectTables (file : String) (tables : List Table) :
    Option String → Except Workbook.Error (List Table)
  | none => .ok tables
  | some name =>
    match tables.filter fun table => sameAscii table.name.toList name.toList with
    | [] => .error (.unknownTable file name)
    | selected => .ok selected

def ofWorkbook (disk : Disk) (file : String) (sheets tableName : Option String) :
    Except Workbook.Error (List Row) := do
  let sheetPatterns ← readPatterns sheets
  let extraction ← Extraction.ofWorkbook disk file { sheetPatterns }
  let tables ← selectTables file extraction.tables (given? tableName)
  pure (rows tables)

/-! ### Chunks -/

/-- The greatest number of rows in a chunk. -/
def chunkSize : Nat := 2048

/-- Rows that are handed out together, as a vector for each column. -/
structure Chunk where
  size : Nat
  /-- The vectors of the columns that are written, from the first. -/
  columns : List (Array Value) := []
deriving DecidableEq, Repr

/-- The value in a row and a column. -/
def Chunk.value? (chunk : Chunk) (row col : Nat) : Option Value :=
  chunk.columns[col]?.bind (·[row]?)

def Chunk.rows (chunk : Chunk) : List Row :=
  (List.range chunk.size).map fun row => chunk.columns.map (·.getD row .null)

/-- The rows from `lower` on that go into one chunk. -/
def part (rows : List Row) (lower : Nat) : List Row :=
  rows.extract lower (min rows.length (saturatingAdd lower chunkSize))

def column (rows : List Row) (index : Nat) : Array Value :=
  (rows.map (·.getD index .null)).toArray

/-- A call that hands out the rows from `lower` on. -/
structure Call where
  lower : Nat
  chunk : Chunk
deriving DecidableEq, Repr

def Call.start (rows : List Row) (lower : Nat) : Call :=
  { lower, chunk := { size := (part rows lower).length } }

/-- There is nothing left to write. -/
def Call.isDone (call : Call) : Bool :=
  call.chunk.size == 0 || decide (Column.all.length ≤ call.chunk.columns.length)

/-- Write the next column. -/
def Call.step (rows : List Row) (call : Call) : Call :=
  if call.isDone then call
  else
    { call with chunk := { call.chunk with
        columns := call.chunk.columns ++
          [column (part rows call.lower) call.chunk.columns.length] } }

/-- Where the reading of a listing stands. -/
structure Cursor where
  next : Nat := 0
deriving DecidableEq, Repr

/-- The cursor behind a chunk. It is a word, and does not stop at the end of the listing. -/
def Cursor.advance (cursor : Cursor) : Cursor :=
  { next := (cursor.next + chunkSize) % wordLimit }

/-- The next chunk; it is empty at the end of the listing and ever after. -/
def Cursor.take (rows : List Row) (cursor : Cursor) : Chunk × Cursor :=
  ((Nat.repeat (Call.step rows) Column.all.length (.start rows cursor.next)).chunk, cursor.advance)

/-- The chunks of a listing from the cursor on, up to the first that is empty. -/
def Cursor.chunks (rows : List Row) (cursor : Cursor) : List Chunk :=
  if cursor.next < rows.length ∧ cursor.next + chunkSize < wordLimit then
    (cursor.take rows).1 :: (cursor.take rows).2.chunks rows
  else [(cursor.take rows).1]
termination_by rows.length - cursor.next
decreasing_by
  next h =>
    have hnext : (cursor.next + chunkSize) % wordLimit = cursor.next + chunkSize :=
      Nat.mod_eq_of_lt h.2
    have hsize : 0 < chunkSize := by decide
    simp only [Cursor.take, Cursor.advance, hnext]
    omega

/-- The chunks of a listing, the empty one behind the others. -/
def chunks (rows : List Row) : List (List Row) := (Cursor.chunks rows {}).map Chunk.rows

end Listing

end DataDictionary
