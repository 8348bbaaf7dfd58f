import DataDictionary.Extraction.Options
import DataDictionary.Model.Integrity
import DataDictionary.Model.OfRecord
import DataDictionary.Workbook.Basic

/-!
# Extraction

A sheet defines one table: a field for each name among its records, in the order in which the names
first come, each by the last record that has it. A sheet without records gives no table. The
tables of a workbook stand in the order of its sheets, with what was found on the way.
-/

namespace DataDictionary

structure Extraction where
  tables : List Table := []
  findings : List Finding := []
deriving DecidableEq, Repr

namespace Extraction

/-! ### One sheet -/

/-- The fields of a table so far, and the findings about its records. -/
structure Draft where
  fields : List Field := []
  findings : List Finding := []
deriving DecidableEq, Repr

/-- Take up a record of a table. Its field takes the place of one of the same name. -/
def Draft.step (table : String) (draft : Draft) (record : Record) : Draft :=
  let field := record.toField
  let repeated := draft.fields.any (·.name == field.name)
  { fields := upsert (·.name) field draft.fields
    findings := draft.findings ++ (record.typeFinding? table).toList ++
      (if repeated then [.duplicateField table field.name] else []) }

/-- Take up a sheet behind those before it. -/
def addSheet (layout : Layout) (extraction : Extraction) (sheet : Sheet) : Extraction :=
  let name := layout.tableName sheet
  let draft := (layout.records sheet).foldl (Draft.step name) {}
  let findings := extraction.findings ++ draft.findings
  match draft.fields with
  | [] => { extraction with findings := findings ++ [.emptyTable sheet.name] }
  | fields => { tables := extraction.tables ++ [{ name, fields }], findings }

/-- Take up a sheet, if the row behind its headers is a word. -/
def addSheet? (layout : Layout) (extraction : Extraction) (sheet : Sheet) :
    Except Workbook.Error Extraction := do
  let _ ← Workbook.ofWord (Text.next? layout.headerRow)
  .ok (addSheet layout extraction sheet)

/-! ### Workbooks -/

def ofSheets (layout : Layout) (sheets : List Sheet) : Extraction :=
  sheets.foldl (addSheet layout) {}

/-- An extraction, and whether its tables fit together. -/
def checked (options : Options) (extraction : Extraction) : Extraction :=
  if options.checkIntegrity then
    { extraction with findings := extraction.findings ++ integrityFindings extraction.tables }
  else extraction

/-- What sheets define, and whether their tables fit together. -/
def assemble (options : Options) (sheets : List Sheet) : Extraction :=
  checked options (ofSheets options.layout sheets)

/-- Assemble sheets as far as words can tell the rows behind their headers. -/
def assemble? (options : Options) (sheets : List Sheet) : Except Workbook.Error Extraction :=
  (sheets.foldlM (addSheet? options.layout) {}).map (checked options)

/-- What the selected sheets of a workbook define. Patterns are read before the workbook is opened,
and errors in its sheets tell which workbook they were met in. -/
def ofWorkbook (disk : Disk) (file : String) (options : Options) :
    Except Workbook.Error Extraction :=
  match options.selection with
  | .error fault => .error (.pattern fault)
  | .ok selection =>
    match Workbook.load disk file with
    | .error error => .error error
    | .ok workbook =>
      match workbook.readSheets selection with
      | .error error => .error (error.whileReading file)
      | .ok sheets => assemble? options sheets

end Extraction

end DataDictionary
