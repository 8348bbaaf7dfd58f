import DataDictionary.Extraction.Basic
import DataDictionary.Proofs.Markup.Written
import DataDictionary.Proofs.Sheet

/-!
# Pages of texts

A workbook is written from pages: named grids of texts, whose rows may differ in length and whose
empty texts are no cells. What a page comes to as a sheet does not depend on the format.
-/

namespace DataDictionary.Workbook

open Markup (lined)

/-- A named grid of texts. -/
structure Page where
  name : String
  rows : List (List String)

namespace Page

/-- The cell of a text, which has none if it is empty. -/
def textCells (row col : Nat) (text : String) : List Cell :=
  if text = "" then [] else [⟨row, col, .text, lined text⟩]

/-- The cells of texts that stand side by side in a row. -/
def rowCells (row : Nat) (texts : List String) : List Cell :=
  texts.zipIdx.flatMap fun p => textCells row p.2 p.1

/-- The cells of a page, row by row. -/
def cells (page : Page) : List Cell := page.rows.zipIdx.flatMap fun p => rowCells p.2 p.1

/-- The sheet of a page. -/
def sheet (file : String) (page : Page) : Sheet := (Sheet.new file page.name).pushAll page.cells

/-- The page has no more rows and columns than a sheet. -/
structure Fits (page : Page) : Prop where
  rows : page.rows.length ≤ 1048576
  cols : ∀ texts ∈ page.rows, texts.length ≤ 16384

/-- The pages that a selection takes, behind `count` that were taken. -/
def selected (selection : Selection) (count : Nat) : List Page → List Page
  | [] => []
  | page :: pages =>
    if selection.isFull count then []
    else if selection.accepts page.name then page :: selected selection (count + 1) pages
    else selected selection count pages

end Page

/-! ### Sheets of different files -/

/-- The sheet as one of another file. -/
def withFile (file : String) (sheet : Sheet) : Sheet := { sheet with file }

lemma withFile_push (file : String) (sheet : Sheet) (cell : Cell) :
    withFile file (sheet.push cell) = (withFile file sheet).push cell := by
  simp only [withFile, Sheet.push]
  split <;> rfl

lemma withFile_pushAll (file : String) (sheet : Sheet) (cells : List Cell) :
    withFile file (sheet.pushAll cells) = (withFile file sheet).pushAll cells := by
  induction cells generalizing sheet with
  | nil => rfl
  | cons cell cells ih =>
    rw [Sheet.pushAll, List.foldl_cons, ← Sheet.pushAll, ih, withFile_push]
    rfl

lemma Page.withFile_sheet (file other : String) (page : Page) :
    withFile file (page.sheet other) = page.sheet file :=
  withFile_pushAll file (Sheet.new other page.name) page.cells

/-- Nothing that is extracted depends on the file of a sheet. -/
lemma assemble?_withFile (options : Options) (file : String) (sheets : List Sheet) :
    Extraction.assemble? options (sheets.map (withFile file)) =
      Extraction.assemble? options sheets := by
  rw [Extraction.assemble?, List.foldlM_map]
  rfl

end DataDictionary.Workbook
