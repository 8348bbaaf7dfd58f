import DataDictionary.Proofs.CellReference
import DataDictionary.Proofs.Workbook.Page
import DataDictionary.Proofs.Workbook.Steps

/-!
# Pages in an Office Open XML workbook

Pages are written with a number for every row, and with an inline text and a reference for every
cell that has a text. The reader goes by the numbers and the references, so what is left out moves
nothing.
-/

namespace DataDictionary.Workbook.OpenXml

open Markup Text

/-! ### Worksheets -/

/-- The events of a cell. An empty text is left out. -/
def cellEvents (row col : Nat) (text : String) : List Event :=
  if text = "" then []
  else
    element "c" [("r", String.ofList (CellReference.write row col)), ("t", "inlineStr")]
      (element "is" [] (element "t" [] (textEvents text)))

/-- The events of a row. -/
def rowEvents (row : Nat) (texts : List String) : List Event :=
  element "row" [("r", String.ofList (decimal (row + 1)))]
    (texts.zipIdx.flatMap fun p => cellEvents row p.2 p.1)

/-- The namespace of worksheets and workbooks. -/
def mainNamespace : String := "http://schemas.openxmlformats.org/spreadsheetml/2006/main"

/-- The events of the worksheet of a page. -/
def worksheetEvents (page : Page) : List Event :=
  element "worksheet" [("xmlns", mainNamespace)]
    (element "sheetData" [] (page.rows.zipIdx.flatMap fun p => rowEvents p.2 p.1))

/-- A step of reading that succeeds. -/
def Steps {σ : Type} (step : σ → Event → Except Error σ) (state : σ) (event : Event) (next : σ) :
    Prop :=
  step state event = .ok next

lemma foldDocument_of_runs {σ : Type} {step : σ → Event → Except Error σ} {state next : σ}
    {events : List Event} (h : Runs (Steps step) state events next) :
    foldDocument step state { events } = .ok next := by
  have hfold : events.foldlM step state = .ok next := by
    induction h with
    | nil => rfl
    | cons hstep _ ih =>
      rw [List.foldlM_cons, hstep]
      exact ih
  rw [foldDocument, hfold]

namespace Cursor

variable (context : Context) {cursor : Cursor}

/-- The cursor behind a cell of text. -/
def filled (cursor : Cursor) (row col : Nat) (value : String) : Cursor :=
  { cursor with
    sheet := cursor.sheet.push ⟨row, col, .text, value⟩
    row, col, nextCol := col + 1, kind := .empty, value := "", collecting := none }

lemma runs_spells (cursor : Cursor) (name : String) (item : ItemText) (hitem : item.inText = true)
    {events : List Event} {text : String} (h : Spells events text) :
    Runs (Steps (step context)) { cursor with collecting := some (name, item) } events
      { cursor with collecting := some (name, { item with text := item.text ++ text }) } := by
  induction h generalizing item with
  | nil =>
    rw [String.append_empty]
    exact .nil _
  | text hcontent _ ih =>
    rw [← String.append_assoc]
    refine .cons ?_ (ih { item with text := item.text ++ _ } hitem)
    simp [Steps, step, ends, ItemText.step, ItemText.append, hitem, hcontent, Except.map]
  | reference hcontent _ ih =>
    rw [← String.append_assoc]
    refine .cons ?_ (ih { item with text := item.text ++ _ } hitem)
    simp [Steps, step, ends, ItemText.step, ItemText.append, hitem, hcontent, Except.map]

/-- The text of an inline element is collected as the value. -/
lemma runs_inlineText (cursor : Cursor) (hcollecting : cursor.collecting = none) (text : String) :
    Runs (Steps (step context)) cursor (element "is" [] (element "t" [] (textEvents text)))
      { cursor with value := lined text, collecting := none } := by
  have hinline : Steps (step context) cursor (.start (.written "is" []))
      { cursor with collecting := some ("is", { inText := false }) } := by
    simp [Steps, step, hcollecting, stepOutside, ItemText.ofItem]
  have htext : Steps (step context) { cursor with collecting := some ("is", { inText := false }) }
      (.start (.written "t" [])) { cursor with collecting := some ("is", { inText := true }) } := by
    simp [Steps, step, ends, ItemText.step, Except.map]
  have hspelled := runs_spells context cursor "is" { inText := true } rfl (spells_textEvents text)
  have htextEnd : Steps (step context)
      { cursor with collecting := some ("is", { inText := true, text := "" ++ lined text }) }
      (.finish ⟨bytesOf "t"⟩)
      { cursor with collecting := some ("is", { inText := false, text := lined text }) } := by
    simp [Steps, step, ends, ItemText.step, Except.map]
  have hinlineEnd : Steps (step context)
      { cursor with collecting := some ("is", { inText := false, text := lined text }) }
      (.finish ⟨bytesOf "is"⟩) { cursor with value := lined text, collecting := none } := by
    simp [Steps, step, ends]
  exact .element hinline (.element htext hspelled htextEnd) hinlineEnd

/-- A cell with a text is put into the sheet at its reference. -/
lemma runs_cellEvents (hcollecting : cursor.collecting = none) {row col : Nat}
    (hrow : row + 1 < wordLimit) (hcol : col + 1 < wordLimit) {text : String} (htext : text ≠ "") :
    Runs (Steps (step context)) cursor (cellEvents row col text)
      (cursor.filled row col (lined text)) := by
  have hstart : Steps (step context) cursor
      (.start (.written "c"
        [("r", String.ofList (CellReference.write row col)), ("t", "inlineStr")]))
      { cursor with row, col, nextCol := col + 1, kind := .text, value := "" } := by
    simp [Steps, step, hcollecting, stepOutside, startCell, ofMarkup, List.lookup_cons,
      CellReference.read?_write hrow hcol, following_of_lt hcol, kindOfType, bind, Except.bind]
  have hvalue := runs_inlineText context
    { cursor with row, col, nextCol := col + 1, kind := .text, value := "" } hcollecting text
  have hfinish : Steps (step context)
      { cursor with
        row, col, nextCol := col + 1, kind := .text, value := lined text, collecting := none }
      (.finish ⟨bytesOf "c"⟩) (cursor.filled row col (lined text)) := by
    simp [Steps, step, stepOutside, endCell, settled, filled, bind, Except.bind,
      lined_ne_empty htext]
  rw [cellEvents, if_neg htext]
  exact .element hstart hvalue hfinish

/-- The cursor stands outside the texts of cells, and not in the last row that a word tells. -/
structure IsOutside (cursor : Cursor) : Prop where
  collecting_eq : cursor.collecting = none
  row_lt : cursor.row + 1 < wordLimit

/-- Outside the texts of cells, the events put cells into the sheet and end outside. -/
def Reads (events : List Event) (cells : List Cell) : Prop :=
  ∀ cursor : Cursor, cursor.IsOutside →
    ∃ next, Runs (Steps (step context)) cursor events next ∧ next.IsOutside ∧
      next.sheet = cursor.sheet.pushAll cells

variable {context}

lemma Reads.nil : Reads context [] [] :=
  fun cursor houtside => ⟨cursor, .nil cursor, houtside, rfl⟩

lemma Reads.append {a b : List Event} {as bs : List Cell} (ha : Reads context a as)
    (hb : Reads context b bs) : Reads context (a ++ b) (as ++ bs) := by
  intro cursor houtside
  obtain ⟨next, hnext, houtside', hsheet⟩ := ha cursor houtside
  obtain ⟨last, hlast, houtside'', hsheet'⟩ := hb next houtside'
  refine ⟨last, hnext.append hlast, houtside'', ?_⟩
  rw [hsheet', hsheet, Sheet.pushAll_append]

lemma Reads.flatMap {α : Type} {l : List α} {events : α → List Event} {cells : α → List Cell}
    (h : ∀ a ∈ l, Reads context (events a) (cells a)) :
    Reads context (l.flatMap events) (l.flatMap cells) := by
  induction l with
  | nil => exact .nil
  | cons a l ih =>
    rw [List.forall_mem_cons] at h
    exact h.1.append (ih h.2)

/-- Elements that are none of a row, a cell and a value are passed over. -/
lemma Reads.passed {name : String} (hname : name ∉ ["row", "c", "is", "v"])
    {attributes : List (String × String)} {events : List Event} {cells : List Cell}
    (h : Reads context events cells) : Reads context (element name attributes events) cells := by
  intro cursor houtside
  simp only [List.mem_cons, List.not_mem_nil, or_false, not_or] at hname
  obtain ⟨next, hnext, houtside', hsheet⟩ := h cursor houtside
  refine ⟨next, .element ?_ hnext ?_, houtside', hsheet⟩
  · simp [Steps, step, houtside.collecting_eq, stepOutside, hname]
  · simp [Steps, step, houtside'.collecting_eq, stepOutside, hname]

lemma Reads.cell {row col : Nat} (hrow : row + 1 < wordLimit) (hcol : col + 1 < wordLimit)
    (text : String) : Reads context (cellEvents row col text) (Page.textCells row col text) := by
  by_cases htext : text = ""
  · rw [cellEvents, Page.textCells, if_pos htext, if_pos htext]
    exact .nil
  · rw [Page.textCells, if_neg htext]
    intro cursor houtside
    have hruns := runs_cellEvents context houtside.collecting_eq hrow hcol htext
    exact ⟨_, hruns, ⟨rfl, hrow⟩, rfl⟩

/-- A row with a number holds the cells of its texts. -/
lemma Reads.row {row : Nat} (hrow : row + 1 < wordLimit) {texts : List String}
    (hcols : texts.length < wordLimit) :
    Reads context (rowEvents row texts) (Page.rowCells row texts) := by
  intro cursor houtside
  have hcells : Reads context (texts.zipIdx.flatMap fun p => cellEvents row p.2 p.1)
      (Page.rowCells row texts) := by
    refine .flatMap fun p hp => .cell hrow ?_ p.1
    have hcol := List.snd_lt_of_mem_zipIdx hp
    omega
  obtain ⟨next, hnext, houtside', hsheet⟩ :=
    hcells { cursor with row, nextCol := 0 } ⟨houtside.collecting_eq, hrow⟩
  refine ⟨{ next with nextRow := next.row + 1 }, .element ?_ hnext ?_,
    ⟨houtside'.collecting_eq, houtside'.row_lt⟩, hsheet⟩
  · have hcount : (Tag.written "row" [("r", String.ofList (decimal (row + 1)))]).count? "r" =
        .ok (some (row + 1)) := Tag.count?_written_decimal (by simp) hrow
    simp [Steps, step, houtside.collecting_eq, stepOutside, startRow, hcount, ofMarkup, bind,
      Except.bind]
  · simp [Steps, step, houtside'.collecting_eq, stepOutside, endRow,
      following_of_lt houtside'.row_lt, bind, Except.bind]

end Cursor

/-- A worksheet is read as the sheet of its page. -/
theorem readWorksheet_worksheetEvents (context : Context) {page : Page} (h : page.Fits) :
    readWorksheet context page.name { events := worksheetEvents page } =
      .ok (page.sheet context.file) := by
  have hlimit : 1048577 < wordLimit := by decide
  have hrows : Cursor.Reads context (page.rows.zipIdx.flatMap fun p => rowEvents p.2 p.1)
      page.cells := by
    refine .flatMap fun p hp => .row ?_ ?_
    · have hrow := List.snd_lt_of_mem_zipIdx hp
      have hfits := h.rows
      omega
    · have hcols := h.cols p.1 (List.fst_mem_of_mem_zipIdx hp)
      omega
  have hsheet : Cursor.Reads context (worksheetEvents page) page.cells :=
    .passed (by decide) (.passed (by decide) hrows)
  have hfirst : 0 + 1 < wordLimit := by decide
  obtain ⟨next, hnext, -, hsheet⟩ := hsheet { sheet := .new context.file page.name } ⟨rfl, hfirst⟩
  rw [readWorksheet, foldDocument_of_runs hnext, Except.map, hsheet]
  rfl

/-! ### Relationships -/

/-- The id of the relationship of a worksheet, which worksheets are numbered by. -/
def relationshipId (n : Nat) : String := String.ofList ("rId".toList ++ decimal (n + 1))

/-- The target of the relationship of a worksheet. -/
def worksheetTarget (n : Nat) : String :=
  String.ofList ("worksheets/sheet".toList ++ decimal (n + 1) ++ ".xml".toList)

/-- The part of a worksheet. -/
def worksheetPath (n : Nat) : String := "xl/" ++ worksheetTarget n

/-- The kind of the relationships of worksheets. -/
def worksheetKind : String :=
  "http://schemas.openxmlformats.org/officeDocument/2006/relationships/worksheet"

/-- The events of the relationship of a worksheet. -/
def relationshipEvents (n : Nat) : List Event :=
  element "Relationship"
    [("Id", relationshipId n), ("Type", worksheetKind), ("Target", worksheetTarget n)] []

/-- The events of the relationships of so many worksheets. -/
def relationshipsEvents (count : Nat) : List Event :=
  element "Relationships"
    [("xmlns", "http://schemas.openxmlformats.org/package/2006/relationships")]
    ((List.range count).flatMap relationshipEvents)

/-- The relationships of so many worksheets, the latest first. -/
def relationshipsOf (count : Nat) : Relationships :=
  ((List.range count).map fun n => (relationshipId n, worksheetPath n)).reverse

lemma relationshipId_injective : Function.Injective relationshipId := by
  intro m n h
  have hlist := congrArg String.toList h
  simp only [relationshipId, String.toList_ofList, List.append_cancel_left_eq] at hlist
  have hnumber := decimal_injective hlist
  omega

lemma relationshipsOf_succ (count : Nat) :
    relationshipsOf (count + 1) =
      (relationshipId count, worksheetPath count) :: relationshipsOf count := by
  simp [relationshipsOf, List.range_succ]

/-- A worksheet is found by the id of its relationship. -/
lemma lookup_relationshipsOf {n count : Nat} (h : n < count) :
    (relationshipsOf count).lookup (relationshipId n) = some (worksheetPath n) := by
  induction count with
  | zero => exact absurd h (Nat.not_lt_zero n)
  | succ count ih =>
    rw [relationshipsOf_succ, List.lookup_cons]
    by_cases hn : n = count
    · rw [hn, BEq.rfl]
    · have hid : (relationshipId n == relationshipId count) = false := by
        rw [beq_eq_false_iff_ne]
        exact relationshipId_injective.ne hn
      rw [hid]
      exact ih (by omega)

lemma partPath_worksheetTarget (n : Nat) : partPath (worksheetTarget n) = worksheetPath n := by
  have htarget : (worksheetTarget n).toList =
      "worksheets/sheet".toList ++ decimal (n + 1) ++ ".xml".toList := String.toList_ofList
  have hhead (s t : List Char) : "worksheets/sheet".toList ++ s ++ t =
      'w' :: ("orksheets/sheet".toList ++ s ++ t) := rfl
  rw [partPath, htarget, hhead]
  rfl

lemma isWorksheet_worksheetKind : isWorksheet (some worksheetKind) = true := by decide

/-- Relationships are taken up one after the other. -/
lemma runs_relationshipEvents (n : Nat) :
    Runs (Steps Relationships.step) (relationshipsOf n) (relationshipEvents n)
      (relationshipsOf (n + 1)) := by
  have hname : (Name.mk (bytesOf "Relationship")).localPart = ⟨bytesOf "Relationship"⟩ := by decide
  refine .element ?_ (.nil _) rfl
  rw [relationshipsOf_succ]
  simp [Steps, Relationships.step, hname, ofMarkup, List.lookup_cons,
    isWorksheet_worksheetKind, partPath_worksheetTarget, bind, Except.bind]

lemma runs_relationshipsEvents (count : Nat) :
    Runs (Steps Relationships.step) [] (relationshipsEvents count) (relationshipsOf count) := by
  have hname : (Name.mk (bytesOf "Relationships")).localPart = ⟨bytesOf "Relationships"⟩ := by
    decide
  have hstart (attributes : List (String × String)) : Steps Relationships.step []
      (.start (.written "Relationships" attributes)) (relationshipsOf 0) := by
    simp [Steps, Relationships.step, hname, relationshipsOf]
  have hcontent : Runs (Steps Relationships.step) (relationshipsOf 0)
      ((List.range count).flatMap relationshipEvents) (relationshipsOf count) := by
    induction count with
    | zero => exact .nil _
    | succ count ih =>
      rw [List.range_succ, List.flatMap_append, List.flatMap_singleton]
      exact ih.append (runs_relationshipEvents count)
  exact .element (hstart _) hcontent rfl

/-! ### Workbooks -/

/-- The events of the sheet of a page. -/
def sheetEvents (n : Nat) (page : Page) : List Event :=
  element "sheet"
    [("name", page.name), ("sheetId", String.ofList (decimal (n + 1))),
     ("r:id", relationshipId n)] []

/-- The events of the workbook of pages. -/
def workbookEvents (pages : List Page) : List Event :=
  element "workbook"
    [("xmlns", mainNamespace),
     ("xmlns:r", "http://schemas.openxmlformats.org/officeDocument/2006/relationships")]
    (element "sheets" [] (pages.zipIdx.flatMap fun p => sheetEvents p.2 p.1))

/-- The entry of a page with a number. -/
def entryOf (p : Page × Nat) : SheetEntry := ⟨p.1.name, worksheetPath p.2⟩

/-- A sheet is entered with the part that its relationship leads to. -/
lemma runs_sheetEvents {contents : Contents} {n count : Nat} (h : n < count) (page : Page) :
    Runs (Steps (Contents.step (relationshipsOf count))) contents (sheetEvents n page)
      { contents with sheets := contents.sheets.push (entryOf (page, n)) } := by
  have hsheet : (Name.mk (bytesOf "sheet")).localPart = ⟨bytesOf "sheet"⟩ := by decide
  have hname : (Name.mk (bytesOf "name")).localPart = ⟨bytesOf "name"⟩ := by decide
  have hsheetId : (Name.mk (bytesOf "sheetId")).localPart = ⟨bytesOf "sheetId"⟩ := by decide
  have hid : (Name.mk (bytesOf "r:id")).localPart = ⟨bytesOf "id"⟩ := by decide
  refine .element ?_ (.nil _) rfl
  simp [Steps, Contents.step, hsheet, Tag.distinctAttributes_written, sheetAttributes, hname,
    hsheetId, hid, ofMarkup, lookup_relationshipsOf h, entryOf, bind, Except.bind]

/-- The sheets of a workbook are entered in order. -/
lemma runs_sheets {count : Nat} {numbered : List (Page × Nat)} (h : ∀ p ∈ numbered, p.2 < count)
    (contents : Contents) :
    Runs (Steps (Contents.step (relationshipsOf count))) contents
      (numbered.flatMap fun p => sheetEvents p.2 p.1)
      { contents with sheets := contents.sheets ++ (numbered.map entryOf).toArray } := by
  induction numbered generalizing contents with
  | nil =>
    rw [List.map_nil, Array.append_empty]
    exact .nil contents
  | cons p numbered ih =>
    rw [List.forall_mem_cons] at h
    have hsheets : contents.sheets ++ ((p :: numbered).map entryOf).toArray =
        contents.sheets.push (entryOf p) ++ (numbered.map entryOf).toArray := by
      simp
    rw [hsheets, List.flatMap_cons]
    exact (runs_sheetEvents h.1 p.1).append
      (ih h.2 { contents with sheets := contents.sheets.push (entryOf p) })

lemma runs_workbookEvents (pages : List Page) :
    Runs (Steps (Contents.step (relationshipsOf pages.length))) {} (workbookEvents pages)
      { sheets := (pages.zipIdx.map entryOf).toArray } := by
  have hworkbook : (Name.mk (bytesOf "workbook")).localPart = ⟨bytesOf "workbook"⟩ := by decide
  have hsheets : (Name.mk (bytesOf "sheets")).localPart = ⟨bytesOf "sheets"⟩ := by decide
  have hnumbered : ∀ p ∈ pages.zipIdx, p.2 < pages.length := by
    intro p hp
    simpa using List.snd_lt_of_mem_zipIdx hp
  have hcontent := runs_sheets hnumbered {}
  rw [Array.empty_append] at hcontent
  have hworkbookStart (attributes : List (String × String)) : Steps (Contents.step
      (relationshipsOf pages.length)) {} (.start (.written "workbook" attributes)) {} := by
    simp [Steps, Contents.step, hworkbook]
  have hsheetsStart : Steps (Contents.step (relationshipsOf pages.length)) {}
      (.start (.written "sheets" [])) {} := by
    simp [Steps, Contents.step, hsheets]
  exact .element (hworkbookStart _) (.element hsheetsStart hcontent rfl) rfl

/-! ### Archives -/

/-- The archive is that of a workbook with pages, as far as it is read. -/
structure Holds (archive : Archive) (pages : List Page) : Prop where
  relationships : document archive "xl/_rels/workbook.xml.rels" =
    .ok { events := relationshipsEvents pages.length }
  workbook : document archive "xl/workbook.xml" = .ok { events := workbookEvents pages }
  worksheets : ∀ p ∈ pages.zipIdx,
    document archive (worksheetPath p.2) = .ok { events := worksheetEvents p.1 }
  shared : document? archive "xl/sharedStrings.xml" = none
  styles : document? archive "xl/styles.xml" = none

lemma readEntries_map (package : Package) (shared : Array String) (selection : Selection)
    {numbered : List (Page × Nat)}
    (h : ∀ p ∈ numbered, p.1.Fits ∧
      document package.archive (worksheetPath p.2) = .ok { events := worksheetEvents p.1 })
    (count : Nat) :
    package.readEntries shared selection count (numbered.map entryOf) =
      .ok ((Page.selected selection count (numbered.map Prod.fst)).map
        (Page.sheet package.file)) := by
  induction numbered generalizing count with
  | nil => rfl
  | cons p numbered ih =>
    rw [List.forall_mem_cons] at h
    obtain ⟨⟨hfits, hdocument⟩, hnumbered⟩ := h
    have hworksheet := readWorksheet_worksheetEvents ⟨package.file, shared, package.kinds⟩ hfits
    rw [List.map_cons, List.map_cons, Package.readEntries, Page.selected]
    cases hfull : selection.isFull count with
    | true => rfl
    | false =>
      cases haccepts : selection.accepts p.1.name with
      | true =>
        simp [entryOf, haccepts, hdocument, hworksheet, ih hnumbered, bind, Except.bind]
      | false =>
        simp [entryOf, haccepts, ih hnumbered]

/-- A workbook with pages opens, and the sheets of the selected pages are read. -/
theorem readSheets_load {disk : Disk} {file : String} {archive : Archive}
    (hdisk : disk.readArchive file = .ok archive) {pages : List Page} (hne : pages ≠ [])
    (h : Holds archive pages) (hfits : ∀ page ∈ pages, page.Fits) :
    ∃ package, Package.load disk file = .ok package ∧ ∀ selection : Selection,
      package.readSheets selection =
        .ok ((Page.selected selection 0 pages).map (Page.sheet file)) := by
  have hnumbered : ∀ p ∈ pages.zipIdx, p.1.Fits ∧
      document archive (worksheetPath p.2) = .ok { events := worksheetEvents p.1 } :=
    fun p hp => ⟨hfits p.1 (List.fst_mem_of_mem_zipIdx hp), h.worksheets p hp⟩
  have hnonempty : (pages.zipIdx.map entryOf).toArray.isEmpty = false := by
    simpa using hne
  have hrelationships := foldDocument_of_runs (runs_relationshipsEvents pages.length)
  have hworkbook := foldDocument_of_runs (runs_workbookEvents pages)
  have hkinds : ({} : Styles).kinds .from1900 = #[] := by simp [Styles.kinds]
  refine ⟨⟨file, archive, pages.zipIdx.map entryOf, #[]⟩, ?_, ?_⟩
  · rw [Package.load, hdisk]
    simp only [bind, Except.bind, h.relationships, hrelationships, h.workbook, hworkbook, hnonempty,
      h.styles, Bool.false_eq_true, if_false, hkinds]
  · intro selection
    rw [Package.readSheets, Package.sharedTexts, h.shared]
    have hread := readEntries_map ⟨file, archive, pages.zipIdx.map entryOf, #[]⟩ #[] selection
      hnumbered 0
    rw [List.zipIdx_map_fst] at hread
    exact hread

end DataDictionary.Workbook.OpenXml
