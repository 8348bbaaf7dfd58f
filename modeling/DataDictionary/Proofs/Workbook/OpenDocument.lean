import DataDictionary.Proofs.Workbook.Page
import DataDictionary.Workbook.OpenDocument.Content

/-!
# Pages in an OpenDocument spreadsheet

Pages are written with an element for every row and every text, an empty one for the empty text.
The reader counts rows and columns as they come, so every element moves those behind it.
-/

namespace DataDictionary.Workbook.OpenDocument

open Markup Text

/-! ### Tables -/

/-- The events of a cell. -/
def cellEvents (text : String) : List Event :=
  if text = "" then element "table:table-cell" [] []
  else
    element "table:table-cell" [("office:value-type", "string")]
      (element "text:p" [] (textEvents text))

/-- The events of a row. -/
def rowEvents (texts : List String) : List Event :=
  element "table:table-row" [] (texts.flatMap cellEvents)

/-- The events of the table of a page. -/
def tableEvents (page : Page) : List Event :=
  element "table:table" [("table:name", page.name)] (page.rows.flatMap rowEvents)

namespace Cursor

/-- A step of reading inside a table. -/
def Steps (cursor : Cursor) (event : Event) (next : Cursor) : Prop :=
  cursor.isTableEnd event = false ∧ cursor.step event = .ok next

lemma readTables_of_runs {cursor next : Cursor} {events : List Event}
    (h : Runs Steps cursor events next) (file : String) (selection : Selection)
    (error : Option Markup.Error) (sheets : Array Sheet) (rest : List Event) :
    readTables file selection error sheets (some cursor) (events ++ rest) =
      readTables file selection error sheets (some next) rest := by
  induction h with
  | nil => rfl
  | cons hstep _ ih =>
    rw [List.cons_append, readTables, hstep.1, hstep.2]
    exact ih

/-- The cursor stands between the cells of a row. -/
structure InRow (cursor : Cursor) (row col : Nat) : Prop where
  row_eq : cursor.row = row
  col_eq : cursor.col = col
  rowCount_eq : cursor.rowCount = 1
  inText_eq : cursor.inText = false
  inAnnotation_eq : cursor.inAnnotation = false
  depth_eq : cursor.depth = 0

/-- The cursor stands between the rows of a table. -/
structure InTable (cursor : Cursor) (row : Nat) : Prop where
  row_eq : cursor.row = row
  inText_eq : cursor.inText = false
  inAnnotation_eq : cursor.inAnnotation = false
  depth_eq : cursor.depth = 0

lemma runs_spells (cursor : Cursor) (hinText : cursor.inText = true)
    (hremark : cursor.inAnnotation = false) {events : List Event} {text : String}
    (h : Spells events text) : Runs Steps cursor events (cursor.append text) := by
  induction h generalizing cursor with
  | nil =>
    rw [append, String.append_empty]
    exact .nil cursor
  | @text bytes s t events hcontent _ ih =>
    have hstep : Steps cursor (.text bytes) (cursor.append s) := by
      simp [Steps, isTableEnd, step, appendContent, append, hinText, hremark, hcontent]
    have hrest := ih (cursor.append s) hinText hremark
    rw [append, append, String.append_assoc] at hrest
    exact .cons hstep hrest
  | @reference name s t events hcontent _ ih =>
    have hstep : Steps cursor (.reference name) (cursor.append s) := by
      simp [Steps, isTableEnd, step, appendContent, append, hinText, hremark, hcontent]
    have hrest := ih (cursor.append s) hinText hremark
    rw [append, append, String.append_assoc] at hrest
    exact .cons hstep hrest

lemma repeatedPositions_one {row col : Nat} (hrow : row < maxRows) (hcol : col < maxCols) :
    repeatedPositions row col 1 1 = [(row, col)] := by
  have hrows : min 1 (maxRows - row) = 1 := by omega
  have hcols : min 1 (maxCols - col) = 1 := by omega
  rw [repeatedPositions, hrows, hcols]
  simp [maxRepeated]

lemma saturatingAdd_one {n : Nat} (h : n + 1 < wordLimit) : saturatingAdd n 1 = n + 1 := by
  rw [saturatingAdd]
  omega

/-- Where a cell ends, the cursor moves on by one. -/
lemma inRow_endCell {cursor : Cursor} {row col : Nat} (hrow : cursor.row = row)
    (hcol : cursor.col = col) (hcounts : cursor.rowCount = 1 ∧ cursor.colCount = 1)
    (hdepth : cursor.depth = 0) (hlt : col < maxCols) : cursor.endCell.InRow row (col + 1) := by
  have hlimit : maxCols < wordLimit := by decide
  have hnext : saturatingAdd cursor.col cursor.colCount = col + 1 := by
    rw [hcol, hcounts.2]
    exact saturatingAdd_one (by omega)
  exact ⟨hrow, hnext, hcounts.1, rfl, rfl, hdepth⟩

lemma steps_endCell (cursor : Cursor) :
    Steps cursor (.finish ⟨bytesOf "table:table-cell"⟩) cursor.endCell := by
  simp [Steps, isTableEnd, step, isCellName]

/-- The cursor inside a cell, whose value is the text of so many paragraphs. -/
def inCell (cursor : Cursor) (kind : CellKind) (inText : Bool) (paragraphs : Nat)
    (value : String) : Cursor :=
  { cursor with colCount := 1, kind, value, inText, paragraphs }

/-- A cell without text leaves the sheet as it is. -/
lemma runs_emptyCell {cursor : Cursor} {row col : Nat} (h : cursor.InRow row col)
    (hcol : col < maxCols) :
    ∃ next, Runs Steps cursor (element "table:table-cell" [] []) next ∧ next.InRow row (col + 1) ∧
      next.sheet = cursor.sheet := by
  have hcount : (Tag.written "table:table-cell" []).count? "table:number-columns-repeated" =
      .ok none := Tag.count?_written_none rfl
  have hstart : Steps cursor (.start (.written "table:table-cell" []))
      (cursor.inCell .empty false 0 "") := by
    simp [Steps, isTableEnd, step, isCellName, startCell, hcount, ofMarkup, kindOfType,
      valueAttribute, inCell, bind, Except.bind]
  refine ⟨(cursor.inCell .empty false 0 "").endCell,
    .element hstart (.nil _) (steps_endCell _), ?_, rfl⟩
  exact inRow_endCell h.row_eq h.col_eq ⟨h.rowCount_eq, rfl⟩ h.depth_eq hcol

/-- A cell with a text is put into the sheet where the cursor stands. -/
lemma runs_textCell {cursor : Cursor} {row col : Nat} (h : cursor.InRow row col)
    (hrow : row < maxRows) (hcol : col < maxCols) {text : String} (htext : text ≠ "") :
    ∃ next, Runs Steps cursor (element "table:table-cell" [("office:value-type", "string")]
        (element "text:p" [] (textEvents text))) next ∧ next.InRow row (col + 1) ∧
      next.sheet = cursor.sheet.push ⟨row, col, .text, lined text⟩ := by
  have hcount : (Tag.written "table:table-cell" [("office:value-type", "string")]).count?
      "table:number-columns-repeated" = .ok none := Tag.count?_written_none (by simp)
  have hstart : Steps cursor
      (.start (.written "table:table-cell" [("office:value-type", "string")]))
      (cursor.inCell .text true 0 "") := by
    simp [Steps, isTableEnd, step, isCellName, startCell, hcount, ofMarkup, kindOfType,
      valueAttribute, inCell, bind, Except.bind]
  have hparagraph : Steps (cursor.inCell .text true 0 "") (.start (.written "text:p" []))
      (cursor.inCell .text true 1 "") := by
    simp [Steps, isTableEnd, step, isCellName, startInText, startParagraph, inCell,
      h.inAnnotation_eq]
  have hspelled := runs_spells (cursor.inCell .text true 1 "") rfl h.inAnnotation_eq
    (spells_textEvents text)
  have hparagraphEnd : Steps ((cursor.inCell .text true 1 "").append (lined text))
      (.finish ⟨bytesOf "text:p"⟩) (cursor.inCell .text true 1 (lined text)) := by
    simp [Steps, isTableEnd, step, isCellName, append, inCell]
  refine ⟨(cursor.inCell .text true 1 (lined text)).endCell,
    .element hstart (.element hparagraph hspelled hparagraphEnd) (steps_endCell _), ?_, ?_⟩
  · exact inRow_endCell h.row_eq h.col_eq ⟨h.rowCount_eq, rfl⟩ h.depth_eq hcol
  · simp [endCell, cells, inCell, lined_ne_empty htext, h.row_eq, h.col_eq, h.rowCount_eq,
      repeatedPositions_one hrow hcol, Sheet.pushAll]

/-- A cell is put into the sheet where the cursor stands, which moves on by one. -/
lemma runs_cellEvents {cursor : Cursor} {row col : Nat} (h : cursor.InRow row col)
    (hrow : row < maxRows) (hcol : col < maxCols) (text : String) :
    ∃ next, Runs Steps cursor (cellEvents text) next ∧ next.InRow row (col + 1) ∧
      next.sheet = cursor.sheet.pushAll (Page.textCells row col text) := by
  by_cases htext : text = ""
  · rw [cellEvents, Page.textCells, if_pos htext, if_pos htext]
    exact runs_emptyCell h hcol
  · rw [cellEvents, Page.textCells, if_neg htext, if_neg htext]
    exact runs_textCell h hrow hcol htext

/-- The cells of a row stand side by side. -/
lemma runs_cells {cursor : Cursor} {row col : Nat} (h : cursor.InRow row col)
    (hrow : row < maxRows) {texts : List String} (hcols : col + texts.length ≤ maxCols) :
    ∃ next, Runs Steps cursor (texts.flatMap cellEvents) next ∧
      next.InRow row (col + texts.length) ∧
      next.sheet = cursor.sheet.pushAll
        ((texts.zipIdx col).flatMap fun p => Page.textCells row p.2 p.1) := by
  induction texts generalizing cursor col with
  | nil => exact ⟨cursor, .nil cursor, h, rfl⟩
  | cons text texts ih =>
    rw [List.length_cons] at hcols
    obtain ⟨next, hnext, hinRow, hsheet⟩ := runs_cellEvents h hrow (by omega) text
    obtain ⟨last, hlast, hinRow', hsheet'⟩ := ih hinRow (by omega)
    refine ⟨last, hnext.append hlast, ?_, ?_⟩
    · rw [List.length_cons, ← Nat.add_assoc, Nat.add_right_comm]
      exact hinRow'
    · rw [hsheet', hsheet, List.zipIdx_cons, List.flatMap_cons, Sheet.pushAll_append]

/-- A row holds the cells of its texts, and those behind it stand in the next. -/
lemma runs_rowEvents {cursor : Cursor} {row : Nat} (h : cursor.InTable row) (hrow : row < maxRows)
    {texts : List String} (hcols : texts.length ≤ maxCols) :
    ∃ next, Runs Steps cursor (rowEvents texts) next ∧ next.InTable (row + 1) ∧
      next.sheet = cursor.sheet.pushAll (Page.rowCells row texts) := by
  have hlimit : maxRows < wordLimit := by decide
  have hcount : (Tag.written "table:table-row" []).count? "table:number-rows-repeated" =
      .ok none := Tag.count?_written_none rfl
  have hstart : Steps cursor (.start (.written "table:table-row" []))
      { cursor with rowCount := 1, col := 0 } := by
    simp [Steps, isTableEnd, step, startRow, hcount, ofMarkup, bind, Except.bind]
  have hfirst : ({ cursor with rowCount := 1, col := 0 } : Cursor).InRow row 0 :=
    ⟨h.row_eq, rfl, rfl, h.inText_eq, h.inAnnotation_eq, h.depth_eq⟩
  have hfits : 0 + texts.length ≤ maxCols := by omega
  obtain ⟨next, hnext, hinRow, hsheet⟩ := runs_cells hfirst hrow hfits
  have hfinish : Steps next (.finish ⟨bytesOf "table:table-row"⟩) next.endRow := by
    simp [Steps, isTableEnd, step]
  refine ⟨next.endRow, .element hstart hnext hfinish, ?_, hsheet⟩
  have hrow' : saturatingAdd next.row next.rowCount = row + 1 := by
    rw [hinRow.row_eq, hinRow.rowCount_eq]
    exact saturatingAdd_one (by omega)
  exact ⟨hrow', hinRow.inText_eq, hinRow.inAnnotation_eq, hinRow.depth_eq⟩

/-- The rows of a table follow each other. -/
lemma runs_rows {cursor : Cursor} {row : Nat} (h : cursor.InTable row) {rows : List (List String)}
    (hrows : row + rows.length ≤ maxRows) (hcols : ∀ texts ∈ rows, texts.length ≤ maxCols) :
    ∃ next, Runs Steps cursor (rows.flatMap rowEvents) next ∧ next.InTable (row + rows.length) ∧
      next.sheet = cursor.sheet.pushAll
        ((rows.zipIdx row).flatMap fun p => Page.rowCells p.2 p.1) := by
  induction rows generalizing cursor row with
  | nil => exact ⟨cursor, .nil cursor, h, rfl⟩
  | cons texts rows ih =>
    rw [List.length_cons] at hrows
    rw [List.forall_mem_cons] at hcols
    obtain ⟨next, hnext, hinTable, hsheet⟩ := runs_rowEvents h (by omega) hcols.1
    obtain ⟨last, hlast, hinTable', hsheet'⟩ := ih hinTable (by omega) hcols.2
    refine ⟨last, hnext.append hlast, ?_, ?_⟩
    · rw [List.length_cons, ← Nat.add_assoc, Nat.add_right_comm]
      exact hinTable'
    · rw [hsheet', hsheet, List.zipIdx_cons, List.flatMap_cons, Sheet.pushAll_append]

end Cursor

/-! ### Documents -/

/-- Attributes of the root of a document. -/
def namespaces : List (String × String) := [
  ("xmlns:office", "urn:oasis:names:tc:opendocument:xmlns:office:1.0"),
  ("xmlns:table", "urn:oasis:names:tc:opendocument:xmlns:table:1.0"),
  ("xmlns:text", "urn:oasis:names:tc:opendocument:xmlns:text:1.0")]

/-- The events of the document of pages. -/
def contentEvents (pages : List Page) : List Event :=
  element "office:document-content" namespaces
    (element "office:body" [] (element "office:spreadsheet" [] (pages.flatMap tableEvents)))

/-- The event neither begins a table nor ends the tables. -/
def IsInert : Event → Prop
  | .start tag => tag.name.is "table:table" = false
  | .finish name => name.is "office:spreadsheet" = false
  | _ => True

section

variable (file : String) (selection : Selection)

/-- Between tables, inert events are passed over. -/
lemma readTables_of_isInert {sheets : Array Sheet} {events : List Event}
    (h : ∀ event ∈ events, IsInert event) (rest : List Event) :
    readTables file selection none sheets none (events ++ rest) =
      readTables file selection none sheets none rest := by
  induction events with
  | nil => rfl
  | cons event events ih =>
    rw [List.forall_mem_cons] at h
    rw [List.cons_append, ← ih h.2]
    cases event with
    | start tag =>
      have htag : tag.name.is "table:table" = false := h.1
      rw [readTables, htag]
      rfl
    | finish name =>
      have hname : name.is "office:spreadsheet" = false := h.1
      rw [readTables, hname]
      rfl
    | _ => rfl

end

lemma isInert_of_spells {events : List Event} {text : String} (h : Spells events text) :
    ∀ event ∈ events, IsInert event := by
  induction h with
  | nil =>
    intro event hevent
    exact absurd hevent List.not_mem_nil
  | text _ _ ih => exact List.forall_mem_cons.mpr ⟨trivial, ih⟩
  | reference _ _ ih => exact List.forall_mem_cons.mpr ⟨trivial, ih⟩

lemma isInert_element {name : String} (hname : name ≠ "table:table" ∧ name ≠ "office:spreadsheet")
    {attributes : List (String × String)} {content : List Event}
    (h : ∀ event ∈ content, IsInert event) :
    ∀ event ∈ element name attributes content, IsInert event := by
  intro event hevent
  rcases List.mem_cons.mp hevent with rfl | hevent
  · simp [IsInert, hname.1]
  rcases List.mem_append.mp hevent with hevent | hevent
  · exact h event hevent
  · rw [List.mem_singleton.mp hevent]
    simp [IsInert, hname.2]

lemma isInert_cellEvents (text : String) : ∀ event ∈ cellEvents text, IsInert event := by
  rw [cellEvents]
  split
  · exact isInert_element (by decide) (by simp)
  · exact isInert_element (by decide)
      (isInert_element (by decide) (isInert_of_spells (spells_textEvents text)))

lemma isInert_rowEvents (texts : List String) : ∀ event ∈ rowEvents texts, IsInert event := by
  refine isInert_element (by decide) fun event hevent => ?_
  obtain ⟨text, -, hevent⟩ := List.mem_flatMap.mp hevent
  exact isInert_cellEvents text event hevent

section

variable (file : String) (selection : Selection)

/-- A table that is selected is read as the sheet of its page. -/
lemma readTables_accepted {page : Page} (h : page.Fits) {sheets : Array Sheet}
    (hfull : selection.isFull sheets.size = false) (haccepts : selection.accepts page.name = true)
    (rest : List Event) :
    readTables file selection none sheets none (tableEvents page ++ rest) =
      readTables file selection none (sheets.push (page.sheet file)) none rest := by
  have hrows : 0 + page.rows.length ≤ maxRows := by
    rw [Nat.zero_add]
    exact h.rows
  have hnew : ({ sheet := .new file page.name } : Cursor).InTable 0 := ⟨rfl, rfl, rfl, rfl⟩
  obtain ⟨next, hnext, hinTable, hsheet⟩ := Cursor.runs_rows hnew hrows h.cols
  have hend : next.isTableEnd (.finish ⟨bytesOf "table:table"⟩) = true := by
    simp [Cursor.isTableEnd, hinTable.depth_eq]
  rw [tableEvents, element, List.cons_append, readTables]
  simp only [Tag.name_written, Name.is_bytesOf, BEq.rfl, if_true, Tag.attribute?_written,
    List.lookup_cons_self, Option.getD_some, hfull, haccepts, Bool.false_eq_true, if_false]
  rw [List.append_assoc, Cursor.readTables_of_runs hnext, List.singleton_append, readTables, hend,
    if_pos rfl, hsheet]
  rfl

/-- A table that is not selected is passed over. -/
lemma readTables_passed {page : Page} {sheets : Array Sheet}
    (hfull : selection.isFull sheets.size = false) (haccepts : selection.accepts page.name = false)
    (rest : List Event) :
    readTables file selection none sheets none (tableEvents page ++ rest) =
      readTables file selection none sheets none rest := by
  have hinert : ∀ event ∈ page.rows.flatMap rowEvents ++ [.finish ⟨bytesOf "table:table"⟩],
      IsInert event := by
    intro event hevent
    rcases List.mem_append.mp hevent with hevent | hevent
    · obtain ⟨texts, -, hevent⟩ := List.mem_flatMap.mp hevent
      exact isInert_rowEvents texts event hevent
    · rw [List.mem_singleton.mp hevent]
      simp [IsInert]
  rw [tableEvents, element, List.cons_append, readTables]
  simp only [Tag.name_written, Name.is_bytesOf, BEq.rfl, if_true, Tag.attribute?_written,
    List.lookup_cons_self, Option.getD_some, hfull, haccepts, Bool.false_eq_true, if_false]
  exact readTables_of_isInert file selection hinert rest

/-- The selected tables are read one after the other up to the end of the tables. -/
lemma readTables_flatMap {pages : List Page} (h : ∀ page ∈ pages, page.Fits) (sheets : Array Sheet)
    (rest : List Event) :
    readTables file selection none sheets none
        (pages.flatMap tableEvents ++ .finish ⟨bytesOf "office:spreadsheet"⟩ :: rest) =
      .ok (sheets ++
        ((Page.selected selection sheets.size pages).map (Page.sheet file)).toArray) := by
  induction pages generalizing sheets with
  | nil => simp [readTables, Page.selected]
  | cons page pages ih =>
    rw [List.forall_mem_cons] at h
    rw [List.flatMap_cons, List.append_assoc, Page.selected]
    cases hfull : selection.isFull sheets.size with
    | true =>
      rw [tableEvents, element, List.cons_append, readTables]
      simp [hfull]
    | false =>
      cases haccepts : selection.accepts page.name with
      | true =>
        rw [readTables_accepted file selection h.1 hfull haccepts, ih h.2]
        simp
      | false =>
        rw [readTables_passed file selection hfull haccepts, ih h.2]
        simp

/-- The tables of a document are read as the sheets of the selected pages. -/
theorem readTables_contentEvents {pages : List Page} (h : ∀ page ∈ pages, page.Fits) :
    readTables file selection none #[] none (contentEvents pages) =
      .ok ((Page.selected selection 0 pages).map (Page.sheet file)).toArray := by
  have hevents : contentEvents pages =
      [.start (.written "office:document-content" namespaces), .start (.written "office:body" []),
        .start (.written "office:spreadsheet" [])] ++
      (pages.flatMap tableEvents ++ .finish ⟨bytesOf "office:spreadsheet"⟩ ::
        [.finish ⟨bytesOf "office:body"⟩, .finish ⟨bytesOf "office:document-content"⟩]) := by
    simp [contentEvents, element]
  rw [hevents, readTables_of_isInert file selection (by simp [IsInert]),
    readTables_flatMap file selection h]
  simp

end

/-! ### Archives -/

/-- The archive is that of a spreadsheet with pages, as far as it is read. -/
structure Holds (archive : Archive) (pages : List Page) : Prop where
  /-- The archive states no media type but that of a spreadsheet. -/
  mediaType : hasMediaType archive = true
  /-- The manifest tells of no encryption. -/
  encrypted : isEncrypted archive = .ok false
  content : ∃ part, archive.find? "content.xml" = some part ∧
    Document.ofBytes part.bytes = { events := contentEvents pages }

/-- A spreadsheet with pages opens, and the sheets of the selected pages are read. -/
theorem readSheets_load {disk : Disk} {file : String} {archive : Archive}
    (hdisk : disk.readArchive file = .ok archive) {pages : List Page} (h : Holds archive pages)
    (hfits : ∀ page ∈ pages, page.Fits) :
    ∃ package, Package.load disk file = .ok package ∧ ∀ selection : Selection,
      package.readSheets selection =
        .ok ((Page.selected selection 0 pages).map (Page.sheet file)) := by
  refine ⟨⟨file, archive⟩, ?_, ?_⟩
  · rw [Package.load, hdisk]
    simp [h.mediaType, h.encrypted, bind, Except.bind]
  · intro selection
    obtain ⟨part, hpart, hdocument⟩ := h.content
    rw [Package.readSheets, hpart]
    simp only [hdocument, readTables_contentEvents file selection hfits, Except.map]

end DataDictionary.Workbook.OpenDocument
