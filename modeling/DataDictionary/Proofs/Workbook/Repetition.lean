import DataDictionary.Proofs.Markup.Attributes
import DataDictionary.Proofs.Workbook.OpenDocument
import DataDictionary.Proofs.Workbook.Rectangle
import DataDictionary.Proofs.Workbook.Steps

/-!
# Repeated rows and cells

A row or a cell that states a count is read as if it were written out so often, one after the
other. What a table says is a list of lines of values; a table with counts and the table written
out say the same lines, and each of them is read to the sheet that has a cell for every value of a
line that lies within the bounds of a sheet.
-/

namespace DataDictionary

namespace Workbook.OpenDocument

open Markup Text

/-! ### Elements of a table -/

/-- The name is one that the reading of a table goes by: that of tables, rows or cells. -/
def isGridName (name : Name) : Bool :=
  name.is "table:table" || name.is "table:table-row" || Cursor.isCellName name

/-- The event neither begins nor ends a table, a row or a cell. -/
def isWithin : Event → Bool
  | .start tag => !isGridName tag.name
  | .finish name => !isGridName name
  | _ => true

/-- The attribute with the count of a cell. -/
abbrev cellCountName : String := "table:number-columns-repeated"

/-- The attribute with the count of a row. -/
abbrev rowCountName : String := "table:number-rows-repeated"

/-- How often the element of a tag stands there. -/
def countOf (name : String) (tag : Tag) : Nat :=
  match tag.count? name with
  | .ok (some count) => count
  | _ => 1

/-- A cell element, and what stands before it in its row. -/
structure CellElement where
  before : List Event := []
  tag : Tag
  content : List Event := []

/-- A row element, and what stands before it in its table. -/
structure RowElement where
  before : List Event := []
  tag : Tag
  cells : List CellElement
  after : List Event := []

/-- A table element. -/
structure TableElement where
  tag : Tag
  rows : List RowElement
  after : List Event := []

/-- A value with what it is. -/
abbrev Value : Type := CellKind × String

/-- A cursor that stands nowhere in particular. -/
def Cursor.loose : Cursor := { sheet := .new "" "" }

/-- The value of a cell that has been read. -/
def Cursor.value? (cursor : Cursor) : Option Value :=
  if cursor.kind == .empty || cursor.kind == .error || cursor.value == "" then none
  else some (cursor.kind, cursor.value)

namespace CellElement

def events (cell : CellElement) : List Event :=
  cell.before ++ .start cell.tag :: cell.content ++ [.finish cell.tag.name]

def count (cell : CellElement) : Nat := countOf cellCountName cell.tag

/-- Read the element by itself. -/
def read (cell : CellElement) : Except Error Cursor := do
  let cursor ← Cursor.loose.startCell cell.tag
  cell.content.foldlM Cursor.step cursor

/-- What the element yields. -/
def value? (cell : CellElement) : Option Value := cell.read.toOption.bind Cursor.value?

/-- The element for one cell. -/
def single (cell : CellElement) : CellElement :=
  { cell with tag := cell.tag.without cellCountName }

/-- As many elements as the element counts for. -/
def expanded (cell : CellElement) : List CellElement := List.replicate cell.count cell.single

/-- The element can be read. -/
structure IsReadable (cell : CellElement) : Prop where
  before : cell.before.all isWithin = true
  name : Cursor.isCellName cell.tag.name = true
  faultless : cell.tag.IsFaultless
  content : cell.content.all isWithin = true
  read : ∃ cursor, cell.read = .ok cursor

end CellElement

namespace RowElement

def events (row : RowElement) : List Event :=
  row.before ++ .start row.tag :: row.cells.flatMap CellElement.events ++ row.after ++
    [.finish row.tag.name]

def count (row : RowElement) : Nat := countOf rowCountName row.tag

/-- The element for one row, whose cells are written out. -/
def single (row : RowElement) : RowElement :=
  { row with
    tag := row.tag.without rowCountName
    cells := row.cells.flatMap CellElement.expanded }

/-- As many elements as the element counts for. -/
def expanded (row : RowElement) : List RowElement := List.replicate row.count row.single

/-- The element can be read. -/
structure IsReadable (row : RowElement) : Prop where
  before : row.before.all isWithin = true
  name : row.tag.name.is "table:table-row" = true
  faultless : row.tag.IsFaultless
  count : ∃ count?, row.tag.count? rowCountName = .ok count?
  cells : ∀ cell ∈ row.cells, cell.IsReadable
  after : row.after.all isWithin = true

end RowElement

namespace TableElement

def events (table : TableElement) : List Event :=
  .start table.tag :: table.rows.flatMap RowElement.events ++ table.after ++
    [.finish table.tag.name]

/-- The table with every row and every cell written out. -/
def expanded (table : TableElement) : TableElement :=
  { table with rows := table.rows.flatMap RowElement.expanded }

/-- The element can be read. -/
structure IsReadable (table : TableElement) : Prop where
  name : table.tag.name.is "table:table" = true
  title : ∃ title?, table.tag.attribute? "table:name" = .ok title?
  rows : ∀ row ∈ table.rows, row.IsReadable
  after : table.after.all isWithin = true

/-- Wherever the table stands in a document, it is read as the sheet if it is selected. -/
def ReadsAs (table : TableElement) (file : String) (sheet : Sheet) : Prop :=
  ∀ (selection : Selection) (error : Option Markup.Error) (sheets : Array Sheet)
    (rest : List Event),
    (∀ title?, table.tag.attribute? "table:name" = .ok title? →
      selection.isFull sheets.size = false ∧ selection.accepts (title?.getD "") = true) →
    readTables file selection error sheets none (table.events ++ rest) =
      readTables file selection error (sheets.push sheet) none rest

end TableElement

/-! ### Reading a cell at another place -/

namespace Cursor

lemma not_isGridName {name : Name} (h : isGridName name = false) :
    name.is "table:table" = false ∧ name.is "table:table-row" = false ∧
      isCellName name = false := by
  simpa [isGridName, and_assoc] using h

/-- The start of an element within a cell is looked at in the text of the cell only. -/
lemma step_start_within (cursor : Cursor) {tag : Tag} (h : isGridName tag.name = false) :
    cursor.step (.start tag) = if cursor.inText then cursor.startInText tag else .ok cursor := by
  obtain ⟨htable, hrow, hcell⟩ := not_isGridName h
  simp [step, htable, hrow, hcell]

/-- The end of an element within a cell counts if the element is an annotation. -/
lemma step_finish_within (cursor : Cursor) {name : Name} (h : isGridName name = false) :
    cursor.step (.finish name) =
      if cursor.inText && name.is "office:annotation" then
        .ok { cursor with inAnnotation := false }
      else .ok cursor := by
  obtain ⟨htable, hrow, hcell⟩ := not_isGridName h
  simp only [step, htable, hrow, hcell, Bool.false_eq_true, if_false]

/-- A change of the cursor that leaves alone what is read within a cell. -/
structure IsFrame (f : Cursor → Cursor) : Prop where
  inText_eq : ∀ cursor, (f cursor).inText = cursor.inText
  inAnnotation_eq : ∀ cursor, Cursor.inAnnotation (f cursor) = cursor.inAnnotation
  paragraphs_eq : ∀ cursor, (f cursor).paragraphs = cursor.paragraphs
  append_eq : ∀ cursor s, (f cursor).append s = f (cursor.append s)
  annotated_eq : ∀ cursor isOpen,
    { f cursor with inAnnotation := isOpen } = f { cursor with inAnnotation := isOpen }
  counted_eq : ∀ cursor paragraphs, { f cursor with paragraphs } = f { cursor with paragraphs }

namespace IsFrame

variable {f : Cursor → Cursor} (h : IsFrame f) (cursor : Cursor)

include h

lemma startParagraph_eq : (f cursor).startParagraph = f cursor.startParagraph := by
  have hparagraphs := h.paragraphs_eq cursor
  by_cases hbegun : 0 < cursor.paragraphs
  · have happend : (f cursor).append "\n" = f (cursor.append "\n") := h.append_eq cursor "\n"
    simp only [startParagraph, hparagraphs, if_pos hbegun, happend, h.paragraphs_eq]
    exact h.counted_eq _ _
  · simp only [startParagraph, hparagraphs, if_neg hbegun]
    exact h.counted_eq _ _

lemma startInText_eq (tag : Tag) :
    (f cursor).startInText tag = (cursor.startInText tag).map f := by
  rw [startInText, startInText, h.inAnnotation_eq]
  split
  · exact congrArg Except.ok (h.annotated_eq cursor true)
  split
  · rfl
  split
  · exact congrArg Except.ok (h.startParagraph_eq cursor)
  split
  · cases ofMarkup (tag.count? "text:c") with
    | error error => rfl
    | ok count =>
      simp only [bind, Except.bind]
      cases spaces? (count.getD 1) with
      | none => rfl
      | some spaces => exact congrArg Except.ok (h.append_eq cursor spaces)
  split
  · exact congrArg Except.ok (h.append_eq cursor _)
  split
  · exact congrArg Except.ok (h.append_eq cursor _)
  · rfl

lemma appendContent_eq (content : Except Markup.Error String) :
    (f cursor).appendContent content = (cursor.appendContent content).map f := by
  rw [Cursor.appendContent_eq, Cursor.appendContent_eq, h.inText_eq, h.inAnnotation_eq]
  split
  · cases content with
    | error error => rfl
    | ok s => exact congrArg Except.ok (h.append_eq cursor s)
  · rfl

lemma step_eq {event : Event} (hevent : isWithin event = true) :
    (f cursor).step event = (cursor.step event).map f := by
  cases event with
  | start tag =>
    have hgrid : isGridName tag.name = false := by simpa [isWithin] using hevent
    rw [step_start_within _ hgrid, step_start_within _ hgrid, h.inText_eq]
    split
    · exact h.startInText_eq cursor tag
    · rfl
  | finish name =>
    have hgrid : isGridName name = false := by simpa [isWithin] using hevent
    rw [step_finish_within _ hgrid, step_finish_within _ hgrid]
    by_cases hends : (cursor.inText && name.is "office:annotation") = true
    · rw [if_pos hends, if_pos (by rwa [h.inText_eq])]
      exact congrArg Except.ok (h.annotated_eq cursor false)
    · rw [if_neg hends, if_neg (by rwa [h.inText_eq])]
      rfl
  | text s => exact h.appendContent_eq cursor _
  | reference name => exact h.appendContent_eq cursor _
  | _ => rfl

/-- What is read within a cell goes through the change. -/
lemma foldlM_eq {events : List Event} (hevents : events.all isWithin = true) :
    events.foldlM step (f cursor) = (events.foldlM step cursor).map f :=
  foldlM_embedded f
    (fun _ hevent state => h.step_eq state (List.all_eq_true.mp hevents _ hevent)) cursor

end IsFrame

/-- The cursor where another one stands, with what it has read of a cell. -/
def movedTo (cursor place : Cursor) : Cursor :=
  { place with
    kind := cursor.kind
    value := cursor.value
    inText := cursor.inText
    inAnnotation := cursor.inAnnotation
    paragraphs := cursor.paragraphs }

/-- What is read within a cell does not depend on where the cell stands. -/
lemma isFrame_movedTo (place : Cursor) : IsFrame (·.movedTo place) where
  inText_eq _ := rfl
  inAnnotation_eq _ := rfl
  paragraphs_eq _ := rfl
  append_eq _ _ := rfl
  annotated_eq _ _ := rfl
  counted_eq _ _ := rfl

lemma valueAttribute_ne {kind : CellKind} {name : String} (h : valueAttribute kind = some name) :
    name ≠ cellCountName := by
  rintro rfl
  cases kind <;> simp [valueAttribute, cellCountName] at h

/-- Where and how often a cell stands does not matter to what is read of its start. -/
lemma startCell_movedTo {cursor other : Cursor} {tag otherTag : Tag}
    {count? otherCount? : Option Nat}
    (hcount : tag.count? cellCountName = .ok count?)
    (hotherCount : otherTag.count? cellCountName = .ok otherCount?)
    (hattributes : ∀ name ≠ cellCountName, tag.attribute? name = otherTag.attribute? name)
    (hremark : cursor.inAnnotation = other.inAnnotation) :
    cursor.startCell tag =
      (other.startCell otherTag).map (·.movedTo { cursor with colCount := count?.getD 1 }) := by
  simp only [startCell, hcount, hotherCount, hattributes "office:value-type" (by decide),
    hattributes "calcext:value-type" (by decide), ofMarkup, bind, Except.bind]
  cases otherTag.attribute? "office:value-type" with
  | error error => rfl
  | ok type =>
    cases otherTag.attribute? "calcext:value-type" with
    | error error => rfl
    | ok errorType =>
      dsimp only
      generalize kindOfType (errorType == some "error") type = kind
      cases hname : valueAttribute kind with
      | none => simp [movedTo, hremark, Except.map]
      | some name =>
        simp only [hattributes name (valueAttribute_ne hname)]
        cases otherTag.attribute? name with
        | error error => rfl
        | ok data => simp [movedTo, hremark, Except.map]

end Cursor

/-! ### The cells that are put on the sheet -/

/-- The cell of a value. -/
def cellAt (value : Value) (position : Nat × Nat) : Cell :=
  ⟨position.1, position.2, value.1, value.2⟩

/-- The cells of a value that is repeated over rows and columns. -/
def block (row col rowCount colCount : Nat) : Option Value → List Cell
  | none => []
  | some value => (repeatedPositions row col rowCount colCount).map (cellAt value)

/-- The cells of elements that follow each other from a column on, in a row that is repeated. -/
def rowCells (row rowCount : Nat) : Nat → List CellElement → List Cell
  | _, [] => []
  | col, cell :: cells =>
    block row col rowCount cell.count cell.value? ++
      rowCells row rowCount (saturatingAdd col cell.count) cells

/-- The cells of rows that follow each other. -/
def tableCells : Nat → List RowElement → List Cell
  | _, [] => []
  | row, element :: elements =>
    rowCells row element.count 0 element.cells ++
      tableCells (saturatingAdd row element.count) elements

/-! ### Reading the elements -/

lemma countOf_eq {name : String} {tag : Tag} {count? : Option Nat}
    (h : tag.count? name = .ok count?) : countOf name tag = count?.getD 1 := by
  rw [countOf, h]
  cases count? <;> rfl

lemma not_isTable_of_isCellName {name : Name} (h : Cursor.isCellName name = true) :
    name.is "table:table" = false ∧ name.is "table:table-row" = false := by
  rcases Bool.or_eq_true_iff.mp h with h | h
  · rw [Name.eq_of_is h]
    simp
  · rw [Name.eq_of_is h]
    simp

lemma CellElement.read_eq_ok {cell : CellElement} {last : Cursor} (h : cell.read = .ok last) :
    ∃ begun, Cursor.loose.startCell cell.tag = .ok begun ∧
      cell.content.foldlM Cursor.step begun = .ok last := by
  rw [read] at h
  cases hbegun : Cursor.loose.startCell cell.tag with
  | error error =>
    rw [hbegun] at h
    cases h
  | ok begun =>
    rw [hbegun] at h
    exact ⟨begun, rfl, h⟩

lemma CellElement.value?_of_read {cell : CellElement} {last : Cursor} (h : cell.read = .ok last) :
    cell.value? = last.value? := by
  rw [value?, h]
  rfl

namespace Cursor

lemma count?_of_startCell {cursor next : Cursor} {tag : Tag} (h : cursor.startCell tag = .ok next) :
    ∃ count?, tag.count? cellCountName = .ok count? := by
  cases hcount : tag.count? cellCountName with
  | ok count? => exact ⟨count?, rfl⟩
  | error error =>
    simp only [startCell, hcount] at h
    cases h

lemma cells_eq (cursor : Cursor) :
    cursor.cells =
      block cursor.row cursor.col cursor.rowCount cursor.colCount cursor.value? := by
  rw [cells, value?]
  split <;> rfl

lemma isTableEnd_of_isWithin (cursor : Cursor) {event : Event} (h : isWithin event = true) :
    cursor.isTableEnd event = false := by
  cases event with
  | finish name =>
    obtain ⟨htable, -, -⟩ := not_isGridName (by simpa [isWithin] using h)
    simp [isTableEnd, htable]
  | _ => rfl

/-- The content of a cell is run through. -/
lemma runs_of_foldlM {cursor next : Cursor} {events : List Event}
    (h : events.all isWithin = true) (hread : events.foldlM step cursor = .ok next) :
    Runs Steps cursor events next := by
  induction events generalizing cursor with
  | nil =>
    cases hread
    exact .nil _
  | cons event events ih =>
    obtain ⟨hevent, hevents⟩ := Bool.and_eq_true_iff.mp (List.all_cons ▸ h)
    rw [List.foldlM_cons] at hread
    cases hstep : cursor.step event with
    | error error =>
      rw [hstep] at hread
      cases hread
    | ok middle =>
      rw [hstep] at hread
      exact .cons ⟨isTableEnd_of_isWithin cursor hevent, hstep⟩ (ih hevents hread)

/-- What stands between cells and rows is passed over. -/
lemma runs_outside {cursor : Cursor} (hinText : cursor.inText = false) {events : List Event}
    (h : events.all isWithin = true) : Runs Steps cursor events cursor := by
  refine runs_of_foldlM h ?_
  induction events with
  | nil => rfl
  | cons event events ih =>
    obtain ⟨hevent, hevents⟩ := Bool.and_eq_true_iff.mp (List.all_cons ▸ h)
    have hstep : cursor.step event = .ok cursor := by
      cases event with
      | start tag =>
        have hgrid : isGridName tag.name = false := by simpa [isWithin] using hevent
        simp [step_start_within _ hgrid, hinText]
      | finish name =>
        have hgrid : isGridName name = false := by simpa [isWithin] using hevent
        simp [step_finish_within _ hgrid, hinText]
      | text s => simp [step, appendContent, hinText]
      | reference name => simp [step, appendContent, hinText]
      | _ => rfl
    rw [List.foldlM_cons, hstep]
    exact ih hevents

/-- The cursor stands between the cells of a row that is repeated. -/
structure InRepeatedRow (cursor : Cursor) (row col rowCount : Nat) : Prop
    extends InTable cursor row where
  col_eq : cursor.col = col
  rowCount_eq : cursor.rowCount = rowCount

/-- A cell is put into the sheet as often as it counts, and the cursor moves on behind it. -/
lemma runs_cellElement {cursor : Cursor} {row col rowCount : Nat}
    (h : cursor.InRepeatedRow row col rowCount) {cell : CellElement} (hcell : cell.IsReadable) :
    ∃ next, Runs Steps cursor cell.events next ∧
      next.InRepeatedRow row (saturatingAdd col cell.count) rowCount ∧
      next.sheet = cursor.sheet.pushAll (block row col rowCount cell.count cell.value?) := by
  obtain ⟨last, hread⟩ := hcell.read
  obtain ⟨begun, hbegun, hcontent⟩ := CellElement.read_eq_ok hread
  obtain ⟨count?, hcount⟩ := count?_of_startCell hbegun
  obtain ⟨htable, hrow⟩ := not_isTable_of_isCellName hcell.name
  -- the cell is read here as it is read by itself
  let place : Cursor := { cursor with colCount := count?.getD 1 }
  have hstart : Steps cursor (.start cell.tag) (begun.movedTo place) := by
    have hremark : cursor.inAnnotation = loose.inAnnotation := h.inAnnotation_eq
    refine ⟨rfl, ?_⟩
    simp only [step, htable, hrow, hcell.name, Bool.false_eq_true, if_false, if_true]
    rw [startCell_movedTo hcount hcount (fun _ _ => rfl) hremark, hbegun]
    rfl
  have hcontent' : Runs Steps (begun.movedTo place) cell.content (last.movedTo place) := by
    refine runs_of_foldlM hcell.content ?_
    rw [(isFrame_movedTo place).foldlM_eq begun hcell.content, hcontent]
    rfl
  have hfinish : Steps (last.movedTo place) (.finish cell.tag.name)
      (last.movedTo place).endCell := by
    simp [Steps, isTableEnd, step, htable, hrow, hcell.name]
  have hcounts : count?.getD 1 = cell.count := (countOf_eq hcount).symm
  refine ⟨(last.movedTo place).endCell, ?_, ?_, ?_⟩
  · have hruns := (runs_outside h.inText_eq hcell.before).append
      (.cons hstart (hcontent'.append (.single hfinish)))
    simpa [CellElement.events] using hruns
  · have hcol : saturatingAdd cursor.col (count?.getD 1) = saturatingAdd col cell.count := by
      rw [h.col_eq, hcounts]
    exact ⟨⟨h.row_eq, rfl, rfl, h.depth_eq⟩, hcol, h.rowCount_eq⟩
  · have hcells : (last.movedTo place).cells =
        block cursor.row cursor.col cursor.rowCount (count?.getD 1) last.value? :=
      cells_eq (last.movedTo place)
    rw [endCell, hcells, h.row_eq, h.col_eq, h.rowCount_eq, hcounts,
      CellElement.value?_of_read hread]
    rfl

lemma runs_cellElements {cursor : Cursor} {row col rowCount : Nat}
    (h : cursor.InRepeatedRow row col rowCount) {cells : List CellElement}
    (hcells : ∀ cell ∈ cells, cell.IsReadable) :
    ∃ next, Runs Steps cursor (cells.flatMap CellElement.events) next ∧
      (∃ last, next.InRepeatedRow row last rowCount) ∧
      next.sheet = cursor.sheet.pushAll (rowCells row rowCount col cells) := by
  induction cells generalizing cursor col with
  | nil => exact ⟨cursor, .nil cursor, ⟨col, h⟩, rfl⟩
  | cons cell cells ih =>
    rw [List.forall_mem_cons] at hcells
    obtain ⟨next, hnext, hinRow, hsheet⟩ := runs_cellElement h hcells.1
    obtain ⟨last, hlast, hinRow', hsheet'⟩ := ih hinRow hcells.2
    refine ⟨last, hnext.append hlast, hinRow', ?_⟩
    rw [hsheet', hsheet, rowCells, Sheet.pushAll_append]

/-- A row is read as often as it counts, and those behind it stand below. -/
lemma runs_rowElement {cursor : Cursor} {row : Nat} (h : cursor.InTable row)
    {element : RowElement} (helement : element.IsReadable) :
    ∃ next, Runs Steps cursor element.events next ∧
      next.InTable (saturatingAdd row element.count) ∧
      next.sheet = cursor.sheet.pushAll (rowCells row element.count 0 element.cells) := by
  obtain ⟨count?, hcount⟩ := helement.count
  have hcounts : count?.getD 1 = element.count := (countOf_eq hcount).symm
  have hname := Name.eq_of_is helement.name
  have hstart : Steps cursor (.start element.tag)
      { cursor with rowCount := element.count, col := 0 } := by
    simp [Steps, isTableEnd, step, hname, startRow, hcount, ofMarkup, bind, Except.bind, hcounts]
  have hfirst : ({ cursor with rowCount := element.count, col := 0 } : Cursor).InRepeatedRow
      row 0 element.count :=
    ⟨⟨h.row_eq, h.inText_eq, h.inAnnotation_eq, h.depth_eq⟩, rfl, rfl⟩
  obtain ⟨next, hnext, ⟨col, hinRow⟩, hsheet⟩ := runs_cellElements hfirst helement.cells
  have hfinish : Steps next (.finish element.tag.name) next.endRow := by
    simp [Steps, isTableEnd, step, hname]
  refine ⟨next.endRow, ?_, ?_, hsheet⟩
  · have hruns := (runs_outside h.inText_eq helement.before).append
      (.cons hstart (hnext.append
        ((runs_outside hinRow.inText_eq helement.after).append (.single hfinish))))
    simpa [RowElement.events] using hruns
  · have hrow : saturatingAdd next.row next.rowCount = saturatingAdd row element.count := by
      rw [hinRow.row_eq, hinRow.rowCount_eq]
    exact ⟨hrow, hinRow.inText_eq, hinRow.inAnnotation_eq, hinRow.depth_eq⟩

lemma runs_rowElements {cursor : Cursor} {row : Nat} (h : cursor.InTable row)
    {elements : List RowElement} (helements : ∀ element ∈ elements, element.IsReadable) :
    ∃ next, Runs Steps cursor (elements.flatMap RowElement.events) next ∧
      (∃ last, next.InTable last) ∧
      next.sheet = cursor.sheet.pushAll (tableCells row elements) := by
  induction elements generalizing cursor row with
  | nil => exact ⟨cursor, .nil cursor, ⟨row, h⟩, rfl⟩
  | cons element elements ih =>
    rw [List.forall_mem_cons] at helements
    obtain ⟨next, hnext, hinTable, hsheet⟩ := runs_rowElement h helements.1
    obtain ⟨last, hlast, hinTable', hsheet'⟩ := ih hinTable helements.2
    refine ⟨last, hnext.append hlast, hinTable', ?_⟩
    rw [hsheet', hsheet, tableCells, Sheet.pushAll_append]

end Cursor

/-- The sheet that a table is read as. -/
def TableElement.sheet (file : String) (table : TableElement) : Sheet :=
  (Sheet.new file (((table.tag.attribute? "table:name").toOption.join).getD "")).pushAll
    (tableCells 0 table.rows)

lemma TableElement.consistent_sheet (table : TableElement) (file : String) :
    (table.sheet file).Consistent :=
  (Sheet.consistent_new file _).pushAll _

lemma TableElement.IsReadable.readsAs {table : TableElement} (h : table.IsReadable)
    (file : String) : table.ReadsAs file (table.sheet file) := by
  intro selection error sheets rest hselection
  obtain ⟨title?, htitle⟩ := h.title
  obtain ⟨hfull, haccepts⟩ := hselection title? htitle
  have hnew : ({ sheet := .new file (title?.getD "") } : Cursor).InTable 0 := ⟨rfl, rfl, rfl, rfl⟩
  obtain ⟨next, hnext, ⟨last, hinTable⟩, hsheet⟩ := Cursor.runs_rowElements hnew h.rows
  have hafter := Cursor.runs_outside hinTable.inText_eq h.after
  have hend : next.isTableEnd (.finish table.tag.name) = true := by
    simp [Cursor.isTableEnd, hinTable.depth_eq, h.name]
  have hsheet' : next.sheet = table.sheet file := by
    rw [hsheet, sheet, htitle]
    rfl
  rw [events, List.cons_append, List.cons_append, List.cons_append, readTables]
  simp only [h.name, htitle, hfull, haccepts, Bool.false_eq_true, if_false, if_true]
  rw [List.append_assoc, Cursor.readTables_of_runs (hnext.append hafter), List.singleton_append,
    readTables, hend, if_pos rfl, hsheet']

/-! ### Counted places -/

/-- The place is one of `count` from `start` on, and below the limit. -/
def Covers (start count limit place : Nat) : Prop :=
  start ≤ place ∧ place < start + count ∧ place < limit

instance (start count limit place : Nat) : Decidable (Covers start count limit place) :=
  inferInstanceAs (Decidable (_ ∧ _))

lemma saturatingAdd_le_iff {start count place : Nat} (h : place + 1 < wordLimit) :
    saturatingAdd start count ≤ place ↔ start + count ≤ place := by
  rw [saturatingAdd]
  omega

/-- What is found at a place behind `start`, first in what is repeated and then in the rest. -/
lemma getElem?_replicate_append {α : Type} {start count place : Nat} (h : place + 1 < wordLimit)
    (hstart : start ≤ place) (a : α) (rest : List α) :
    (List.replicate count a ++ rest)[place - start]? =
      if place < start + count then some a else rest[place - saturatingAdd start count]? := by
  rw [List.getElem?_append, List.length_replicate]
  by_cases hlt : place < start + count
  · have hindex : place - start < count := by omega
    rw [if_pos hlt, if_pos hindex, List.getElem?_replicate, if_pos hindex]
  · have hindex : ¬place - start < count := by omega
    have hnext : place - start - count = place - saturatingAdd start count := by
      rw [saturatingAdd]
      omega
    rw [if_neg hlt, if_neg hindex, hnext]

/-- A cell that is not repeated too often is made at every position that it covers. -/
lemma mem_repeatedPositions {row col rowCount colCount : Nat}
    (h : rowCount * colCount ≤ maxRepeated) (i j : Nat) :
    (i, j) ∈ repeatedPositions row col rowCount colCount ↔
      Covers row rowCount maxRows i ∧ Covers col colCount maxCols j := by
  have harea : (Rectangle.onSheet row col rowCount colCount).area ≤ maxRepeated :=
    (Nat.mul_le_mul (Nat.min_le_left ..) (Nat.min_le_left ..)).trans h
  rw [repeatedPositions_eq, List.take_of_length_le (Rectangle.length_positions.trans_le harea),
    Rectangle.mem_positions]
  simp only [Rectangle.Contains, Rectangle.onSheet, Covers]
  omega

/-! ### The lines of a table -/

/-- The values that elements say from the left, as often as they are there. -/
def lineOf (cells : List CellElement) : List (Option Value) :=
  cells.flatMap fun cell => List.replicate cell.count cell.value?

/-- The lines that elements say from the top, as often as they are there. -/
def linesOf (elements : List RowElement) : List (List (Option Value)) :=
  elements.flatMap fun element => List.replicate element.count (lineOf element.cells)

@[simp] lemma lineOf_cons (cell : CellElement) (cells : List CellElement) :
    lineOf (cell :: cells) = List.replicate cell.count cell.value? ++ lineOf cells :=
  List.flatMap_cons

@[simp] lemma linesOf_cons (element : RowElement) (elements : List RowElement) :
    linesOf (element :: elements) =
      List.replicate element.count (lineOf element.cells) ++ linesOf elements :=
  List.flatMap_cons

/-- No value is repeated more often than cells are made of one. -/
def RowElement.IsBounded (element : RowElement) : Prop :=
  ∀ cell ∈ element.cells, cell.value?.isSome → element.count * cell.count ≤ maxRepeated

lemma lastWith?_block {row col rowCount colCount : Nat} {value? : Option Value}
    (h : value?.isSome → rowCount * colCount ≤ maxRepeated) (i j : Nat) :
    lastWith? Cell.position (i, j) (block row col rowCount colCount value?) =
      if Covers row rowCount maxRows i ∧ Covers col colCount maxCols j then
        value?.map (cellAt · (i, j))
      else none := by
  cases value? with
  | none => simp [block]
  | some value =>
    have hposition : ∀ p, (cellAt value p).position = p := fun _ => rfl
    rw [block, lastWith?_map hposition]
    simp only [mem_repeatedPositions (h rfl), Option.map_some]

/-- A row puts the values of its line side by side. -/
lemma lastWith?_rowCells {row rowCount col : Nat} {cells : List CellElement}
    (h : ∀ cell ∈ cells, cell.value?.isSome → rowCount * cell.count ≤ maxRepeated) (i j : Nat) :
    lastWith? Cell.position (i, j) (rowCells row rowCount col cells) =
      if Covers row rowCount maxRows i ∧ col ≤ j ∧ j < maxCols then
        (lineOf cells)[j - col]?.join.map (cellAt · (i, j))
      else none := by
  induction cells generalizing col with
  | nil => simp [rowCells, lineOf]
  | cons cell cells ih =>
    rw [List.forall_mem_cons] at h
    rw [rowCells, lastWith?_append, ih h.2, lastWith?_block h.1, lineOf_cons]
    by_cases hj : j < maxCols
    · have hlimit : maxCols < wordLimit := by decide
      have hplace : j + 1 < wordLimit := by omega
      simp only [saturatingAdd_le_iff hplace]
      by_cases hcol : col ≤ j
      · rw [getElem?_replicate_append hplace hcol]
        by_cases hlt : j < col + cell.count
        · simp [Covers, hj, hcol, hlt, Nat.not_le.mpr hlt]
        · simp [Covers, hj, hcol, hlt, Nat.not_lt.mp hlt]
      · have hbehind : ¬col + cell.count ≤ j := by omega
        simp [Covers, hcol, hbehind]
    · simp [Covers, hj]

/-- A table puts its lines one below the other. -/
lemma lastWith?_tableCells {row : Nat} {elements : List RowElement}
    (h : ∀ element ∈ elements, element.IsBounded) (i j : Nat) :
    lastWith? Cell.position (i, j) (tableCells row elements) =
      if row ≤ i ∧ i < maxRows ∧ j < maxCols then
        ((linesOf elements)[i - row]?.bind (·[j]?)).join.map (cellAt · (i, j))
      else none := by
  induction elements generalizing row with
  | nil => simp [tableCells, linesOf]
  | cons element elements ih =>
    rw [List.forall_mem_cons] at h
    rw [tableCells, lastWith?_append, ih h.2, lastWith?_rowCells h.1, linesOf_cons]
    by_cases hi : i < maxRows
    · have hlimit : maxRows < wordLimit := by decide
      have hplace : i + 1 < wordLimit := by omega
      simp only [saturatingAdd_le_iff hplace]
      by_cases hrow : row ≤ i
      · rw [getElem?_replicate_append hplace hrow]
        by_cases hlt : i < row + element.count
        · simp [Covers, hi, hrow, hlt, Nat.not_le.mpr hlt]
        · simp [Covers, hi, hrow, hlt, Nat.not_lt.mp hlt]
      · have hbehind : ¬row + element.count ≤ i := by omega
        simp [Covers, hrow, hbehind]
    · simp [Covers, hi]

/-- A sheet that is read has the values of the lines, as far as they lie within its bounds. -/
lemma TableElement.get?_sheet {table : TableElement}
    (h : ∀ element ∈ table.rows, element.IsBounded) (file : String) (row col : Nat) :
    (table.sheet file).get? row col =
      if row < maxRows ∧ col < maxCols then
        ((linesOf table.rows)[row]?.bind (·[col]?)).join.map (cellAt · (row, col))
      else none := by
  rw [sheet, Sheet.get?_pushAll, lastWith?_tableCells h]
  simp

/-! ### Tables written out -/

namespace CellElement

lemma count_single {cell : CellElement} (h : cell.IsReadable) : cell.single.count = 1 :=
  countOf_eq (Tag.count?_without h.faultless cellCountName)

lemma read_single {cell : CellElement} (h : cell.IsReadable) :
    cell.single.read = cell.read.map (·.movedTo Cursor.loose) := by
  obtain ⟨last, hread⟩ := h.read
  obtain ⟨begun, hbegun, hcontent⟩ := read_eq_ok hread
  obtain ⟨count?, hcount⟩ := Cursor.count?_of_startCell hbegun
  have hstart : Cursor.loose.startCell cell.single.tag =
      (Cursor.loose.startCell cell.tag).map (·.movedTo Cursor.loose) :=
    Cursor.startCell_movedTo (Tag.count?_without h.faultless cellCountName) hcount
      (fun _ hname => Tag.attribute?_without hname cell.tag) rfl
  have hcontent' : cell.content.foldlM Cursor.step (begun.movedTo Cursor.loose) =
      .ok (last.movedTo Cursor.loose) := by
    rw [(Cursor.isFrame_movedTo Cursor.loose).foldlM_eq begun h.content, hcontent]
    rfl
  rw [hread, read, hstart, hbegun]
  exact hcontent'

lemma value?_single {cell : CellElement} (h : cell.IsReadable) :
    cell.single.value? = cell.value? := by
  obtain ⟨last, hread⟩ := h.read
  have hsingle : cell.single.read = .ok (last.movedTo Cursor.loose) := by
    rw [read_single h, hread]
    rfl
  rw [value?_of_read hread, value?_of_read hsingle]
  rfl

lemma IsReadable.single {cell : CellElement} (h : cell.IsReadable) : cell.single.IsReadable where
  before := h.before
  name := h.name
  faultless := h.faultless.without cellCountName
  content := h.content
  read := by
    obtain ⟨last, hread⟩ := h.read
    exact ⟨last.movedTo Cursor.loose, by rw [read_single h, hread]; rfl⟩

end CellElement

/-- A line stays what it is where its cells are written out. -/
lemma lineOf_expanded {cells : List CellElement} (h : ∀ cell ∈ cells, cell.IsReadable) :
    lineOf (cells.flatMap CellElement.expanded) = lineOf cells := by
  rw [lineOf, List.flatMap_assoc, lineOf]
  refine List.flatMap_congr fun cell hcell => ?_
  rw [CellElement.expanded, List.flatMap_replicate, CellElement.count_single (h cell hcell),
    CellElement.value?_single (h cell hcell), List.replicate_one, List.flatten_replicate_singleton]

namespace RowElement

lemma count_single {row : RowElement} (h : row.IsReadable) : row.single.count = 1 :=
  countOf_eq (Tag.count?_without h.faultless rowCountName)

lemma IsReadable.single {row : RowElement} (h : row.IsReadable) : row.single.IsReadable where
  before := h.before
  name := h.name
  faultless := h.faultless.without rowCountName
  count := ⟨none, Tag.count?_without h.faultless rowCountName⟩
  cells := by
    intro cell hcell
    obtain ⟨packed, hpacked, hcell⟩ := List.mem_flatMap.mp hcell
    rw [List.eq_of_mem_replicate hcell]
    exact (h.cells packed hpacked).single
  after := h.after

/-- Nothing is repeated in a row that is written out. -/
lemma IsReadable.isBounded_single {row : RowElement} (h : row.IsReadable) :
    row.single.IsBounded := by
  intro cell hcell _
  obtain ⟨packed, hpacked, hcell⟩ := List.mem_flatMap.mp hcell
  rw [List.eq_of_mem_replicate hcell, count_single h,
    CellElement.count_single (h.cells packed hpacked)]
  decide

end RowElement

namespace TableElement

lemma mem_rows_expanded {table : TableElement} {element : RowElement}
    (h : element ∈ table.expanded.rows) : ∃ packed ∈ table.rows, element = packed.single := by
  obtain ⟨packed, hpacked, helement⟩ := List.mem_flatMap.mp h
  exact ⟨packed, hpacked, List.eq_of_mem_replicate helement⟩

lemma IsReadable.expanded {table : TableElement} (h : table.IsReadable) :
    table.expanded.IsReadable where
  name := h.name
  title := h.title
  rows := by
    intro element helement
    obtain ⟨packed, hpacked, rfl⟩ := mem_rows_expanded helement
    exact (h.rows packed hpacked).single
  after := h.after

/-- The lines of a table stay what they are where the table is written out. -/
lemma linesOf_expanded {table : TableElement} (h : table.IsReadable) :
    linesOf table.expanded.rows = linesOf table.rows := by
  rw [expanded, linesOf, List.flatMap_assoc, linesOf]
  refine List.flatMap_congr fun row hrow => ?_
  have hline : lineOf row.single.cells = lineOf row.cells :=
    lineOf_expanded (h.rows row hrow).cells
  rw [RowElement.expanded, List.flatMap_replicate, RowElement.count_single (h.rows row hrow), hline,
    List.replicate_one, List.flatten_replicate_singleton]

end TableElement

/-! ### A table with counts -/

/-- A written cell whose value is in its attributes. -/
def writtenCell (attributes : List (String × String)) : CellElement where
  tag := .written "table:table-cell" attributes

/-- A written row with a count. -/
def writtenRow (count : String) (cells : List CellElement) : RowElement where
  tag := .written "table:table-row" [(rowCountName, count)]
  cells := cells

/-- A number twice in each of three rows, between a row that is there no time and empty rows to the
end of the sheet. -/
def countedTable : TableElement where
  tag := .written "table:table" [("table:name", "T")]
  rows := [
    writtenRow "0" [writtenCell [("office:value-type", "float"), ("office:value", "5")]],
    writtenRow "3" [writtenCell [],
      writtenCell [(cellCountName, "2"), ("office:value-type", "float"), ("office:value", "7")]],
    writtenRow "1048573" [writtenCell [(cellCountName, "16384")]]]

/-- Whatever the attributes of a written cell, only its count may be at fault. -/
lemma read_writtenCell {attributes : List (String × String)} {count? : Option Nat}
    (hcount : (Tag.written "table:table-cell" attributes).count? cellCountName = .ok count?) :
    ∃ cursor, (writtenCell attributes).read = .ok cursor ∧
      (attributes.lookup "office:value-type" = none → cursor.kind = .empty) := by
  simp only [CellElement.read, writtenCell, Cursor.startCell, hcount, Tag.attribute?_written,
    ofMarkup, bind, Except.bind]
  cases Cursor.valueAttribute _ with
  | none => exact ⟨_, rfl, fun h => by rw [h]; rfl⟩
  | some name => exact ⟨_, rfl, fun h => by rw [h]; rfl⟩

lemma isReadable_writtenCell {attributes : List (String × String)} {count? : Option Nat}
    (hcount : (Tag.written "table:table-cell" attributes).count? cellCountName = .ok count?) :
    (writtenCell attributes).IsReadable where
  before := rfl
  name := by simp [writtenCell, Cursor.isCellName]
  faultless := .written _ _
  content := rfl
  read := by
    obtain ⟨cursor, hread, -⟩ := read_writtenCell hcount
    exact ⟨cursor, hread⟩

lemma isReadable_writtenRow {count : String} {n : Nat} (hcount : readCount count.toList = .ok n)
    {cells : List CellElement} (hcells : ∀ cell ∈ cells, cell.IsReadable) :
    (writtenRow count cells).IsReadable where
  before := rfl
  name := by simp [writtenRow]
  faultless := .written _ _
  count := ⟨some n, Tag.count?_written List.lookup_cons_self hcount⟩
  cells := hcells
  after := rfl

lemma isReadable_countedTable : countedTable.IsReadable where
  name := by simp [countedTable]
  title := ⟨some "T", by simp [countedTable]⟩
  rows := by
    simp only [countedTable, List.forall_mem_cons]
    refine ⟨isReadable_writtenRow rfl ?_, isReadable_writtenRow rfl ?_,
      isReadable_writtenRow rfl ?_, by simp⟩
    · rw [List.forall_mem_singleton]
      exact isReadable_writtenCell (Tag.count?_written_none (by decide))
    · simp only [List.forall_mem_cons]
      exact ⟨isReadable_writtenCell (Tag.count?_written_none rfl),
        isReadable_writtenCell (Tag.count?_written List.lookup_cons_self rfl), by simp⟩
    · rw [List.forall_mem_singleton]
      exact isReadable_writtenCell (Tag.count?_written List.lookup_cons_self rfl)
  after := rfl

lemma count_writtenRow {count : String} {n : Nat} (h : readCount count.toList = .ok n)
    (cells : List CellElement) : (writtenRow count cells).count = n :=
  countOf_eq (Tag.count?_written List.lookup_cons_self h)

lemma isBounded_countedTable : ∀ row ∈ countedTable.rows, row.IsBounded := by
  simp only [countedTable, List.forall_mem_cons]
  refine ⟨?_, ?_, ?_, by simp⟩
  · intro cell _ _
    have hrow : ∀ cells, (writtenRow "0" cells).count = 0 := count_writtenRow rfl
    rw [hrow, Nat.zero_mul]
    exact Nat.zero_le _
  · intro cell hcell _
    have hrow : ∀ cells, (writtenRow "3" cells).count = 3 := count_writtenRow rfl
    have hcount : cell.count ≤ 2 := by
      simp only [writtenRow, List.mem_cons, List.not_mem_nil, or_false] at hcell
      rcases hcell with rfl | rfl
      · rw [CellElement.count, writtenCell, countOf_eq (Tag.count?_written_none rfl)]
        decide
      · rw [CellElement.count, writtenCell, countOf_eq (Tag.count?_written List.lookup_cons_self rfl)]
        rfl
    rw [hrow]
    exact (Nat.mul_le_mul_left 3 hcount).trans (by decide)
  · intro cell hcell hvalue
    have hcount : (Tag.written "table:table-cell" [(cellCountName, "16384")]).count?
        cellCountName = .ok (some 16384) := Tag.count?_written List.lookup_cons_self rfl
    obtain ⟨cursor, hread, hkind⟩ := read_writtenCell hcount
    rw [List.mem_singleton.mp hcell, CellElement.value?_of_read hread, Cursor.value?,
      hkind (by decide)] at hvalue
    exact absurd hvalue (by simp)

/-! ### Agreement -/

namespace TableElement

/-- A table in which no value is repeated too often, and the table written out, are read as sheets
that cannot be told apart by their cells. -/
theorem expanded_agrees {table : TableElement} (h : table.IsReadable)
    (hbounded : ∀ row ∈ table.rows, row.IsBounded) (file : String) :
    ∃ packed written : Sheet, table.ReadsAs file packed ∧ table.expanded.ReadsAs file written ∧
      (∀ row col, packed.get? row col = written.get? row col) ∧
      (∀ row, packed.row row = written.row row) ∧
      ∀ lower, packed.rowsFrom lower = written.rowsFrom lower := by
  have hwritten : ∀ element ∈ table.expanded.rows, element.IsBounded := by
    intro element helement
    obtain ⟨packed, hpacked, rfl⟩ := mem_rows_expanded helement
    exact (h.rows packed hpacked).isBounded_single
  have hget : ∀ row col,
      (table.sheet file).get? row col = (table.expanded.sheet file).get? row col := by
    intro row col
    rw [get?_sheet hbounded, get?_sheet hwritten, linesOf_expanded h]
  have hpacked := table.consistent_sheet file
  have hwritten' := table.expanded.consistent_sheet file
  refine ⟨table.sheet file, table.expanded.sheet file, h.readsAs file, h.expanded.readsAs file,
    hget, ?_, ?_⟩
  · exact hpacked.row_congr hwritten' hget
  · exact hpacked.rowsFrom_congr hwritten' hget

/-- The table with counts of no time, of many cells and of rows to the end of the sheet. -/
theorem expanded_agrees_counted :
    countedTable.IsReadable ∧ (∀ row ∈ countedTable.rows, row.IsBounded) ∧
      ∃ packed written : Sheet, countedTable.ReadsAs "counted.ods" packed ∧
        countedTable.expanded.ReadsAs "counted.ods" written ∧
        (∀ row col, packed.get? row col = written.get? row col) ∧
        (∀ row, packed.row row = written.row row) ∧
        ∀ lower, packed.rowsFrom lower = written.rowsFrom lower :=
  ⟨isReadable_countedTable, isBounded_countedTable,
    expanded_agrees isReadable_countedTable isBounded_countedTable "counted.ods"⟩

end TableElement

end Workbook.OpenDocument

end DataDictionary
