import DataDictionary.Markup.Lexer
import DataDictionary.NumberFormat
import DataDictionary.Workbook.Disk
import DataDictionary.Workbook.OpenXml.ItemText

/-!
# Parts that describe an Office Open XML workbook

Three parts say what a workbook holds: its relationships name the parts of the worksheets, the
workbook part lists the sheets and the epoch of dates, and the styles give each cell style the kind
of number that it shows.
-/

namespace DataDictionary.Workbook.OpenXml

open Markup Text

/-! ### Relationships -/

/-- Paths of worksheet parts by the ids of their relationships, the latest first. -/
abbrev Relationships := List (String × String)

/-- The part that a target names: targets are relative to the directory of the workbook unless
they begin at the root. -/
def partPath (target : String) : String :=
  match target.toList with
  | '/' :: rest => String.ofList rest
  | chars => if (dropStart? "xl/".toList chars).isSome then target else "xl/" ++ target

/-- A relationship of this kind leads to a worksheet; one of no kind is taken to. -/
def isWorksheet (kind : Option String) : Bool :=
  match kind with
  | some kind => endsWith "/worksheet".toList kind.toList
  | none => true

def Relationships.step (relationships : Relationships) : Event → Except Error Relationships
  | .start tag =>
    if tag.name.localPart.is "Relationship" then do
      let id ← ofMarkup (tag.attribute? "Id")
      let kind ← ofMarkup (tag.attribute? "Type")
      let target ← ofMarkup (tag.attribute? "Target")
      match id, target with
      | some id, some target =>
        .ok (if isWorksheet kind then (id, partPath target) :: relationships else relationships)
      | _, _ => .ok relationships
    else .ok relationships
  | _ => .ok relationships

/-! ### Sheets -/

/-- A sheet of the workbook and the path of its part. -/
structure SheetEntry where
  name : String
  path : String
deriving DecidableEq, Repr

/-- The sheets in order and the epoch of dates. -/
structure Contents where
  sheets : Array SheetEntry := #[]
  epoch : Epoch := .from1900

/-- The name and the id that the attributes of a sheet element give, under any prefix. -/
def sheetAttributes (name id : Option String) :
    List (Except AttributeFault Attribute) → Except Error (Option String × Option String)
  | [] => .ok (name, id)
  | .error fault :: _ => .error (.markup (.attribute fault))
  | .ok a :: rest =>
    if a.name.localPart.is "name" then do
      let text ← ofMarkup a.text
      sheetAttributes (some text) id rest
    else if a.name.localPart.is "id" then do
      let text ← ofMarkup a.text
      sheetAttributes name (some text) rest
    else sheetAttributes name id rest

def Contents.step (relationships : Relationships) (contents : Contents) :
    Event → Except Error Contents
  | .start tag =>
    if tag.name.localPart.is "sheet" then do
      let (name, id) ← sheetAttributes none none tag.distinctAttributes
      match name, id.bind (List.lookup · relationships) with
      | some name, some path => .ok { contents with sheets := contents.sheets.push ⟨name, path⟩ }
      | _, _ => .ok contents
    else if tag.name.localPart.is "workbookPr" then do
      let value ← ofMarkup (tag.attribute? "date1904")
      .ok (if value == some "1" || value == some "true" then { contents with epoch := .from1904 }
        else contents)
    else .ok contents
  | _ => .ok contents

/-! ### Styles -/

/-- What the styles part has said so far. -/
structure Styles where
  /-- Kinds of format codes by their ids, the latest first. -/
  custom : List (String × CellKind) := []
  /-- The format id of each cell style. -/
  ids : Array String := #[]
  inFormats : Bool := false
  inCellStyles : Bool := false

namespace Styles

def start (epoch : Epoch) (styles : Styles) (tag : Tag) : Except Error Styles :=
  if tag.name.is "numFmts" then .ok { styles with inFormats := true }
  else if tag.name.is "numFmt" && styles.inFormats then do
    let id ← ofMarkup (tag.attribute? "numFmtId")
    let code ← ofMarkup (tag.attribute? "formatCode")
    match id, code with
    | some id, some code =>
      .ok { styles with custom := (id, NumberFormat.custom epoch code) :: styles.custom }
    | _, _ => .ok styles
  else if tag.name.is "cellXfs" then .ok { styles with inCellStyles := true }
  else if tag.name.is "xf" && styles.inCellStyles then do
    let id ← ofMarkup (tag.attribute? "numFmtId")
    .ok { styles with ids := styles.ids.push (id.getD "") }
  else .ok styles

def step (epoch : Epoch) (styles : Styles) : Event → Except Error Styles
  | .start tag => styles.start epoch tag
  | .finish name =>
    if name.is "numFmts" then .ok { styles with inFormats := false }
    else if name.is "cellXfs" then .ok { styles with inCellStyles := false }
    else .ok styles
  | _ => .ok styles

/-- The kind of the numbers of a format id: formats of the workbook come before built-in ones. -/
def kindOf (epoch : Epoch) (styles : Styles) (id : String) : CellKind :=
  match styles.custom.lookup id with
  | some kind => kind
  | none => (NumberFormat.builtin? epoch id).getD .number

def kinds (epoch : Epoch) (styles : Styles) : Array CellKind := styles.ids.map (styles.kindOf epoch)

end Styles

/-! ### The package -/

structure Package where
  file : String
  archive : Archive
  sheets : List SheetEntry
  /-- The kind of the numbers of each cell style. -/
  kinds : Array CellKind

def document? (archive : Archive) (name : String) : Option Document :=
  (archive.find? name).map fun part => Document.ofBytes part.bytes

/-- The document in a part that must be there. -/
def document (archive : Archive) (name : String) : Except Error Document :=
  match document? archive name with
  | some document => .ok document
  | none => .error (.missingPart name)

def Package.load (disk : Disk) (file : String) : Except Error Package := do
  let archive ← disk.readArchive file
  let relations ← document archive "xl/_rels/workbook.xml.rels"
  let relationships ← foldDocument Relationships.step [] relations
  let workbook ← document archive "xl/workbook.xml"
  let contents ← foldDocument (Contents.step relationships) {} workbook
  if contents.sheets.isEmpty then .error (.noSheets file)
  else
    let styles ←
      match document? archive "xl/styles.xml" with
      | some styles => foldDocument (Styles.step contents.epoch) {} styles
      | none => .ok {}
    .ok { file, archive, sheets := contents.sheets.toList, kinds := styles.kinds contents.epoch }

end DataDictionary.Workbook.OpenXml
