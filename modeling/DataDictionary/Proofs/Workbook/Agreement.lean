import DataDictionary.Proofs.Workbook.OpenDocument
import DataDictionary.Proofs.Workbook.OpenXml

/-!
# Agreement of the formats

A workbook with pages gives the same sheets in either format, up to the file that they name, and so
the same extraction. Each reader is compared with the sheets of the pages, never with the other.
-/

namespace DataDictionary.Workbook

open Markup

/-- The archive is that of a workbook of the format with pages. -/
def Format.Holds : Format → Archive → List Page → Prop
  | .openXml => OpenXml.Holds
  | .openDocument => OpenDocument.Holds

/-- The disk has a workbook of the format with pages in a file whose name tells the format. -/
structure Stores (disk : Disk) (file : String) (format : Format) (pages : List Page) : Prop where
  format_eq : Format.ofName? file = some format
  archive : ∃ archive, disk.readArchive file = .ok archive ∧ format.Holds archive pages

section

variable {disk : Disk} {file : String} {format : Format} {pages : List Page}

/-- A workbook with pages opens, and the sheets of the selected pages are read. -/
lemma Stores.readSheets (h : Stores disk file format pages) (hne : pages ≠ [])
    (hfits : ∀ page ∈ pages, page.Fits) :
    ∃ workbook, load disk file = .ok workbook ∧ ∀ selection : Selection,
      workbook.readSheets selection =
        .ok ((Page.selected selection 0 pages).map (Page.sheet file)) := by
  obtain ⟨archive, hdisk, hholds⟩ := h.archive
  cases format with
  | openXml =>
    obtain ⟨package, hload, hread⟩ := OpenXml.readSheets_load hdisk hne hholds hfits
    refine ⟨.openXml package, ?_, hread⟩
    rw [load, h.format_eq]
    simp only [hload, Except.map]
  | openDocument =>
    obtain ⟨package, hload, hread⟩ := OpenDocument.readSheets_load hdisk hholds hfits
    refine ⟨.openDocument package, ?_, hread⟩
    rw [load, h.format_eq]
    simp only [hload, Except.map]

/-- What is extracted from a workbook with pages is what the sheets of the selected pages define. -/
lemma Stores.ofWorkbook (h : Stores disk file format pages) (hne : pages ≠ [])
    (hfits : ∀ page ∈ pages, page.Fits) {options : Options} {selection : Selection}
    (hselection : options.selection = .ok selection) :
    Extraction.ofWorkbook disk file options =
      Extraction.assemble? options
        ((Page.selected selection 0 pages).map (Page.sheet file)) := by
  obtain ⟨workbook, hload, hread⟩ := h.readSheets hne hfits
  rw [Extraction.ofWorkbook, hselection]
  simp only [hload, hread]

end

/-- The sheets of pages differ from file to file in nothing but the file. -/
lemma map_withFile_sheet (file other : String) (pages : List Page) :
    (pages.map (Page.sheet other)).map (withFile file) = pages.map (Page.sheet file) := by
  rw [List.map_map]
  exact List.map_congr_left fun page _ => page.withFile_sheet file other

/-- The two readers agree: from a workbook with the same pages they read sheets of the same names
with the same cells in the same order, and the same is extracted. -/
theorem readers_agree {disk : Disk} {xml ods : String} {pages : List Page} (hne : pages ≠ [])
    (hfits : ∀ page ∈ pages, page.Fits) (hxml : Stores disk xml .openXml pages)
    (hods : Stores disk ods .openDocument pages) :
    (∀ selection : Selection, ∃ left right,
      (load disk xml).bind (·.readSheets selection) = .ok left ∧
      (load disk ods).bind (·.readSheets selection) = .ok right ∧
      left.map (·.name) = right.map (·.name) ∧ left.map (·.cells) = right.map (·.cells)) ∧
    ∀ options : Options,
      Extraction.ofWorkbook disk xml options = Extraction.ofWorkbook disk ods options := by
  constructor
  · intro selection
    obtain ⟨left, hleft, hreadLeft⟩ := hxml.readSheets hne hfits
    obtain ⟨right, hright, hreadRight⟩ := hods.readSheets hne hfits
    have hsheets := map_withFile_sheet xml ods (Page.selected selection 0 pages)
    refine ⟨(Page.selected selection 0 pages).map (Page.sheet xml),
      (Page.selected selection 0 pages).map (Page.sheet ods), ?_, ?_, ?_, ?_⟩
    · rw [hleft]
      exact hreadLeft selection
    · rw [hright]
      exact hreadRight selection
    · rw [← hsheets, List.map_map]
      rfl
    · rw [← hsheets, List.map_map]
      rfl
  · intro options
    cases hselection : options.selection with
    | error fault => simp only [Extraction.ofWorkbook, hselection]
    | ok selection =>
      rw [hxml.ofWorkbook hne hfits hselection, hods.ofWorkbook hne hfits hselection,
        ← map_withFile_sheet xml ods, assemble?_withFile]

/-! ### A workbook in both formats -/

deriving instance DecidableEq for Tag, Event, Document

/-- A page with a gap, an empty row and a character that is escaped. -/
def unitsPage : Page := ⟨"Units", [["Name", "", "a<b"], [], ["kg"]]⟩

/-- An Office Open XML workbook with the page. -/
def unitsXml : Archive := ⟨[
  ⟨"xl/workbook.xml", bytesOf <|
    "<workbook xmlns=\"http://schemas.openxmlformats.org/spreadsheetml/2006/main\"" ++
    " xmlns:r=\"http://schemas.openxmlformats.org/officeDocument/2006/relationships\"><sheets>" ++
    "<sheet name=\"Units\" sheetId=\"1\" r:id=\"rId1\"/></sheets></workbook>"⟩,
  ⟨"xl/_rels/workbook.xml.rels", bytesOf <|
    "<Relationships xmlns=\"http://schemas.openxmlformats.org/package/2006/relationships\">" ++
    "<Relationship Id=\"rId1\" Type=\"http://schemas.openxmlformats.org/officeDocument/2006/" ++
    "relationships/worksheet\" Target=\"worksheets/sheet1.xml\"/></Relationships>"⟩,
  ⟨"xl/worksheets/sheet1.xml", bytesOf <|
    "<worksheet xmlns=\"http://schemas.openxmlformats.org/spreadsheetml/2006/main\"><sheetData>" ++
    "<row r=\"1\"><c r=\"A1\" t=\"inlineStr\"><is><t>Name</t></is></c>" ++
    "<c r=\"C1\" t=\"inlineStr\"><is><t>a&lt;b</t></is></c></row><row r=\"2\"></row>" ++
    "<row r=\"3\"><c r=\"A3\" t=\"inlineStr\"><is><t>kg</t></is></c></row>" ++
    "</sheetData></worksheet>"⟩]⟩

/-- An OpenDocument spreadsheet with the page. -/
def unitsOds : Archive := ⟨[
  ⟨"mimetype", bytesOf OpenDocument.mediaType⟩,
  ⟨"content.xml", bytesOf <|
    "<office:document-content xmlns:office=\"urn:oasis:names:tc:opendocument:xmlns:office:1.0\"" ++
    " xmlns:table=\"urn:oasis:names:tc:opendocument:xmlns:table:1.0\"" ++
    " xmlns:text=\"urn:oasis:names:tc:opendocument:xmlns:text:1.0\"><office:body>" ++
    "<office:spreadsheet><table:table table:name=\"Units\"><table:table-row>" ++
    "<table:table-cell office:value-type=\"string\"><text:p>Name</text:p></table:table-cell>" ++
    "<table:table-cell/><table:table-cell office:value-type=\"string\"><text:p>a&lt;b</text:p>" ++
    "</table:table-cell></table:table-row><table:table-row></table:table-row><table:table-row>" ++
    "<table:table-cell office:value-type=\"string\"><text:p>kg</text:p></table:table-cell>" ++
    "</table:table-row></table:table></office:spreadsheet></office:body>" ++
    "</office:document-content>"⟩]⟩

/-- A disk with the page in a workbook of either format. -/
def unitsDisk : Disk where
  files := [(["srv", "units.xlsx"], .archive unitsXml), (["srv", "units.ods"], .archive unitsOds)]

lemma fits_unitsPage : unitsPage.Fits := ⟨by decide, by decide⟩

lemma holds_unitsXml : OpenXml.Holds unitsXml [unitsPage] where
  relationships := by decide +kernel
  workbook := by decide +kernel
  worksheets := by decide +kernel
  shared := by decide +kernel
  styles := by decide +kernel

lemma holds_unitsOds : OpenDocument.Holds unitsOds [unitsPage] where
  mediaType := by decide +kernel
  encrypted := by decide +kernel
  content := ⟨_, rfl, by decide +kernel⟩

lemma stores_unitsXml : Stores unitsDisk "/srv/units.xlsx" .openXml [unitsPage] :=
  ⟨by decide +kernel, unitsXml, rfl, holds_unitsXml⟩

lemma stores_unitsOds : Stores unitsDisk "/srv/units.ods" .openDocument [unitsPage] :=
  ⟨by decide +kernel, unitsOds, rfl, holds_unitsOds⟩

theorem readers_agree_units :
    (Stores unitsDisk "/srv/units.xlsx" .openXml [unitsPage] ∧
      Stores unitsDisk "/srv/units.ods" .openDocument [unitsPage]) ∧
    ∀ options : Options, Extraction.ofWorkbook unitsDisk "/srv/units.xlsx" options =
      Extraction.ofWorkbook unitsDisk "/srv/units.ods" options :=
  ⟨⟨stores_unitsXml, stores_unitsOds⟩,
    (readers_agree (List.cons_ne_nil _ _) (List.forall_mem_singleton.mpr fits_unitsPage)
      stores_unitsXml stores_unitsOds).2⟩

end DataDictionary.Workbook
