import DataDictionary.CellReference
import DataDictionary.Selection
import DataDictionary.Sheet
import DataDictionary.Workbook.OpenXml.Package

/-!
# Worksheets of an Office Open XML workbook

Rows and cells may say where they stand; those that do not follow the one before them. The type of
a cell says how its value is meant, and for numbers its style says whether they are dates. Cells
without a value, and errors, are left out.
-/

namespace DataDictionary.Workbook.OpenXml

open Markup Text

/-- What the cells of a worksheet refer to. -/
structure Context where
  file : String
  shared : Array String
  kinds : Array CellKind

/-- Where the reading of a worksheet stands. -/
structure Cursor where
  sheet : Sheet
  /-- The row of the next row element that names none. -/
  nextRow : Nat := 0
  /-- The column of the next cell that names none. -/
  nextCol : Nat := 0
  row : Nat := 0
  col : Nat := 0
  kind : CellKind := .empty
  value : String := ""
  /-- The text that is being collected, and the element that ends it. -/
  collecting : Option (String × ItemText) := none

namespace Cursor

/-- The position behind `n`. Behind the last word there is none. -/
def following (n : Nat) : Except Error Nat := ofWord (next? n)

def startRow (cursor : Cursor) (tag : Tag) : Except Error Cursor := do
  let number ← ofMarkup (tag.count? "r")
  let row :=
    match number with
    | some (n + 1) => n
    | _ => cursor.nextRow
  .ok { cursor with row, nextCol := 0 }

/-- The kind of a cell of the given type, before its style is looked at. -/
def kindOfType : Option String → CellKind
  | some "inlineStr" => .text
  | some "str" => .text
  | some "s" => .sharedText
  | some "d" => .isoDateTime
  | some "b" => .boolean
  | some "e" => .error
  | _ => .number

def startCell (context : Context) (cursor : Cursor) (tag : Tag) : Except Error Cursor := do
  let reference ← ofMarkup (tag.attribute? "r")
  let (row, col) :=
    (reference.bind fun r => CellReference.read? r.toList).getD (cursor.row, cursor.nextCol)
  let nextCol ← following col
  let type ← ofMarkup (tag.attribute? "t")
  let kind ←
    if kindOfType type == .number then do
      let style ← ofMarkup (tag.count? "s")
      .ok ((style.bind (context.kinds[·]?)).getD .number)
    else .ok (kindOfType type)
  .ok { cursor with row, col, nextCol, kind, value := "" }

def endRow (cursor : Cursor) : Except Error Cursor := do
  let nextRow ← following cursor.row
  .ok { cursor with nextRow }

/-- The kind and value of a cell at its end, shared texts looked up. -/
def settled (context : Context) (cursor : Cursor) : Except Error (CellKind × String) :=
  if cursor.kind == .sharedText then
    match readCount (trim cursor.value.toList) with
    | .error fault => .error (.number fault)
    | .ok index =>
      match context.shared[index]? with
      | some text => .ok (.text, text)
      | none => .error (.missingSharedText context.file index)
  else .ok (cursor.kind, cursor.value)

/-- End a cell: it goes into the sheet if it has a value and is no error. -/
def endCell (context : Context) (cursor : Cursor) : Except Error Cursor := do
  let (kind, value) ← cursor.settled context
  if kind == .error || value == "" then .ok { cursor with kind := .empty, value }
  else
    let cell : Cell := ⟨cursor.row, cursor.col, kind, value⟩
    .ok { cursor with sheet := cursor.sheet.push cell, kind := .empty, value := "" }

/-- Take up an event outside the texts of cells. -/
def stepOutside (context : Context) (cursor : Cursor) : Event → Except Error Cursor
  | .start tag =>
    if tag.name.is "row" then cursor.startRow tag
    else if tag.name.is "c" then cursor.startCell context tag
    else if tag.name.is "is" then .ok { cursor with collecting := some ("is", .ofItem) }
    else if tag.name.is "v" then .ok { cursor with collecting := some ("v", .ofValue) }
    else .ok cursor
  | .finish name =>
    if name.is "row" then cursor.endRow
    else if name.is "c" then cursor.endCell context
    else .ok cursor
  | _ => .ok cursor

def step (context : Context) (cursor : Cursor) (event : Event) : Except Error Cursor :=
  match cursor.collecting with
  | none => cursor.stepOutside context event
  | some (name, item) =>
    if ends name event then .ok { cursor with value := item.text, collecting := none }
    else (item.step event).map fun item => { cursor with collecting := some (name, item) }

end Cursor

def readWorksheet (context : Context) (name : String) (document : Document) : Except Error Sheet :=
  (foldDocument (Cursor.step context) { sheet := .new context.file name } document).map (·.sheet)

namespace Package

/-- Read the selected sheets in order, behind `count` that were read. -/
def readEntries (package : Package) (shared : Array String) (selection : Selection) (count : Nat) :
    List SheetEntry → Except Error (List Sheet)
  | [] => .ok []
  | entry :: entries =>
    if selection.isFull count then .ok []
    else if !selection.accepts entry.name then package.readEntries shared selection count entries
    else do
      let document ← document package.archive entry.path
      let sheet ← readWorksheet ⟨package.file, shared, package.kinds⟩ entry.name document
      let sheets ← package.readEntries shared selection (count + 1) entries
      .ok (sheet :: sheets)

def sharedTexts (package : Package) : Except Error (Array String) :=
  match document? package.archive "xl/sharedStrings.xml" with
  | some document => SharedTexts.ofDocument document
  | none => .ok #[]

def readSheets (package : Package) (selection : Selection) : Except Error (List Sheet) := do
  let shared ← package.sharedTexts
  package.readEntries shared selection 0 package.sheets

end Package

end DataDictionary.Workbook.OpenXml
