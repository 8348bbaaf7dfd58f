import DataDictionary.Markup.Content
import DataDictionary.Selection
import DataDictionary.Sheet
import DataDictionary.Workbook.OpenDocument.Package
import DataDictionary.Workbook.OpenDocument.Repetition

/-!
# Tables of an OpenDocument spreadsheet

The tables of a document are read one after the other. Rows and cells stand where they follow each
other, repetitions counted. The value of a cell is in its attributes, or, for text, in its
paragraphs; annotations are no part of it. Tables inside a table that is read belong to that one.
-/

namespace DataDictionary.Workbook.OpenDocument

open Markup Text

/-- Where the reading of a table stands. -/
structure Cursor where
  sheet : Sheet
  row : Nat := 0
  col : Nat := 0
  rowCount : Nat := 1
  colCount : Nat := 1
  kind : CellKind := .empty
  value : String := ""
  /-- The text of the cell is its value. -/
  inText : Bool := false
  inAnnotation : Bool := false
  /-- How many paragraphs of the cell have begun. -/
  paragraphs : Nat := 0
  /-- How many inner tables are open. -/
  depth : Nat := 0

namespace Cursor

def startRow (cursor : Cursor) (tag : Tag) : Except Error Cursor := do
  let count ← ofMarkup (tag.count? "table:number-rows-repeated")
  .ok { cursor with rowCount := count.getD 1, col := 0 }

def endRow (cursor : Cursor) : Cursor :=
  { cursor with row := saturatingAdd cursor.row cursor.rowCount }

def kindOfType (isError : Bool) : Option String → CellKind
  | none => .empty
  | some type =>
    if isError then .error
    else if type == "string" then .text
    else if type == "boolean" then .boolean
    else if type == "date" then .isoDateTime
    else if type == "time" then .isoDuration
    else .number

def valueAttribute : CellKind → Option String
  | .boolean => some "office:boolean-value"
  | .isoDateTime => some "office:date-value"
  | .isoDuration => some "office:time-value"
  | .number => some "office:value"
  | _ => none

/-- The value that an attribute gives. -/
def valueOf (kind : CellKind) (data : String) : String :=
  if kind == .boolean then (if data == "true" || data == "1" then "1" else "0") else data

def startCell (cursor : Cursor) (tag : Tag) : Except Error Cursor := do
  let count ← ofMarkup (tag.count? "table:number-columns-repeated")
  let type ← ofMarkup (tag.attribute? "office:value-type")
  let errorType ← ofMarkup (tag.attribute? "calcext:value-type")
  let kind := kindOfType (errorType == some "error") type
  let data ←
    match valueAttribute kind with
    | some name => ofMarkup (tag.attribute? name)
    | none => .ok none
  let value := (data.map (valueOf kind)).getD ""
  .ok { cursor with
    colCount := count.getD 1, kind, value, inText := kind == .text, paragraphs := 0 }

/-- The cells that the current one stands for. -/
def cells (cursor : Cursor) : List Cell :=
  if cursor.kind == .empty || cursor.kind == .error || cursor.value == "" then []
  else
    (repeatedPositions cursor.row cursor.col cursor.rowCount cursor.colCount).map
      fun (row, col) => ⟨row, col, cursor.kind, cursor.value⟩

def endCell (cursor : Cursor) : Cursor :=
  { cursor with
    sheet := cursor.sheet.pushAll cursor.cells
    col := saturatingAdd cursor.col cursor.colCount
    kind := .empty
    inText := false
    inAnnotation := false }

def append (cursor : Cursor) (s : String) : Cursor := { cursor with value := cursor.value ++ s }

/-- Begin a paragraph: it is set off from the one before it by a line feed. -/
def startParagraph (cursor : Cursor) : Cursor :=
  let cursor := if 0 < cursor.paragraphs then cursor.append "\n" else cursor
  { cursor with paragraphs := cursor.paragraphs + 1 }

/-- A name of cell elements; covered cells lie under a merged one. -/
def isCellName (name : Name) : Bool :=
  name.is "table:table-cell" || name.is "table:covered-table-cell"

/-- Take up a start tag inside the text of a cell. -/
def startInText (cursor : Cursor) (tag : Tag) : Except Error Cursor :=
  if tag.name.is "office:annotation" then .ok { cursor with inAnnotation := true }
  else if cursor.inAnnotation then .ok cursor
  else if tag.name.is "text:p" then .ok cursor.startParagraph
  else if tag.name.is "text:s" then do
    let count ← ofMarkup (tag.count? "text:c")
    let spaces ← ofWord (spaces? (count.getD 1))
    .ok (cursor.append spaces)
  else if tag.name.is "text:tab" then .ok (cursor.append "\t")
  else if tag.name.is "text:line-break" then .ok (cursor.append "\n")
  else .ok cursor

/-- Take up character data, which counts in the text of a cell outside annotations. -/
def appendContent (cursor : Cursor) (content : Except Markup.Error String) :
    Except Error Cursor :=
  if cursor.inText && !cursor.inAnnotation then
    goOn (fun value => { cursor with value }) (pushContent cursor.value content)
  else .ok cursor

/-- Take up an event inside a table, the end of the table aside. -/
def step (cursor : Cursor) : Event → Except Error Cursor
  | .start tag =>
    if tag.name.is "table:table" then .ok { cursor with depth := cursor.depth + 1 }
    else if tag.name.is "table:table-row" then cursor.startRow tag
    else if isCellName tag.name then cursor.startCell tag
    else if cursor.inText then cursor.startInText tag
    else .ok cursor
  | .finish name =>
    if name.is "table:table" then .ok { cursor with depth := cursor.depth - 1 }
    else if name.is "table:table-row" then .ok cursor.endRow
    else if isCellName name then .ok cursor.endCell
    else if cursor.inText && name.is "office:annotation" then
      .ok { cursor with inAnnotation := false }
    else .ok cursor
  | .text s => cursor.appendContent (content s)
  | .reference name => cursor.appendContent (referenceContent name)
  | _ => .ok cursor

def isTableEnd (cursor : Cursor) : Event → Bool
  | .finish name => name.is "table:table" && cursor.depth == 0
  | _ => false

end Cursor

/-- Read the selected tables from events, behind `sheets` that were read; `table` if the events
begin inside one that is read. -/
def readTables (file : String) (selection : Selection) (error : Option Markup.Error)
    (sheets : Array Sheet) : Option Cursor → List Event → Except Error (Array Sheet)
  | table, [] =>
    match error, table with
    | some error, _ => .error (.markup error)
    | none, some cursor => .ok (sheets.push cursor.sheet)
    | none, none => .ok sheets
  | some cursor, event :: events =>
    if cursor.isTableEnd event then
      readTables file selection error (sheets.push cursor.sheet) none events
    else
      match cursor.step event with
      | .error error => .error error
      | .ok cursor => readTables file selection error sheets (some cursor) events
  | none, .finish name :: events =>
    if name.is "office:spreadsheet" then .ok sheets
    else readTables file selection error sheets none events
  | none, .start tag :: events =>
    if tag.name.is "table:table" then
      match tag.attribute? "table:name" with
      | .error error => .error (.markup error)
      | .ok name =>
        let name := name.getD ""
        if selection.isFull sheets.size then .ok sheets
        else if selection.accepts name then
          readTables file selection error sheets (some { sheet := .new file name }) events
        else readTables file selection error sheets none events
    else readTables file selection error sheets none events
  | none, _ :: events => readTables file selection error sheets none events

def Package.readSheets (package : Package) (selection : Selection) : Except Error (List Sheet) :=
  match package.archive.find? "content.xml" with
  | none => .error (.missingPart "content.xml")
  | some part =>
    let content := Document.ofBytes part.bytes
    (readTables package.file selection content.error #[] none content.events).map (·.toList)

end DataDictionary.Workbook.OpenDocument
