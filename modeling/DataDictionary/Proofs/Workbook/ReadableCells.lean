import DataDictionary.Proofs.Workbook.ChosenSheets
import DataDictionary.Proofs.Workbook.ChosenTables
import DataDictionary.Proofs.Workbook.Counters

/-!
# Readable cells

Cells are put on a sheet with a value and never as errors, whatever the tags of a part are and
however they are nested. In a table every cell can be read, and it lies within the sheet. In a
worksheet this is so as long as no cell ends that was not begun: the value of a cell inside another
one is put on the sheet as the value of an empty cell, which has no text.
-/

namespace DataDictionary

/-! ### Cells -/

namespace Cell

/-- The cell has a value and is neither an error nor the number of a text. -/
structure IsSettled (cell : Cell) : Prop where
  value_ne : cell.value ≠ ""
  kind_ne_error : cell.kind ≠ .error
  kind_ne_sharedText : cell.kind ≠ .sharedText

/-- The cell has a value and a text. -/
structure IsReadable (cell : Cell) : Prop extends IsSettled cell where
  kind_ne_empty : cell.kind ≠ .empty
  exists_text : ∃ text, cell.text = some text

lemma IsSettled.exists_text {cell : Cell} (h : cell.IsSettled) (hempty : cell.kind ≠ .empty) :
    ∃ text, cell.text = some text := by
  rw [text]
  split
  · contradiction
  · next herror => exact absurd herror h.kind_ne_error
  · exact ⟨_, rfl⟩
  · split
    · exact ⟨_, rfl⟩
    · exact ⟨_, rfl⟩
  all_goals exact ⟨_, rfl⟩

lemma IsSettled.isReadable {cell : Cell} (h : cell.IsSettled) (hempty : cell.kind ≠ .empty) :
    cell.IsReadable where
  toIsSettled := h
  kind_ne_empty := hempty
  exists_text := h.exists_text hempty

end Cell

namespace Workbook

open Markup Text

/-! ### Worksheets -/

namespace OpenXml

/-- What is told of the events of a worksheet so far. -/
structure Watch where
  /-- A cell was begun that has not ended. -/
  begun : Bool := false
  /-- The element whose text is being collected. -/
  collecting : Option String := none
  /-- Every cell that ended was begun. -/
  paired : Bool := true

/-- Take up an event. Tags inside the text of a cell are passed over. -/
def Watch.step (watch : Watch) (event : Event) : Watch :=
  match watch.collecting with
  | some name => if ends name event then { watch with collecting := none } else watch
  | none =>
    match event with
    | .start tag =>
      if tag.name.is "c" then { watch with begun := true }
      else if tag.name.is "is" then { watch with collecting := some "is" }
      else if tag.name.is "v" then { watch with collecting := some "v" }
      else watch
    | .finish name =>
      if name.is "c" then { watch with begun := false, paired := watch.paired && watch.begun }
      else watch
    | _ => watch

/-- Every cell that ends was begun, and has not ended before. -/
def pairsCells (events : List Event) : Bool := (events.foldl Watch.step {}).paired

/-- What is watched of the events holds of the reading. -/
structure Watch.Tells (watch : Watch) (cursor : Cursor) : Prop where
  collecting_eq : cursor.collecting.map Prod.fst = watch.collecting
  kind_ne : watch.begun = true → cursor.kind ≠ .empty
  settled : ∀ cell ∈ cursor.sheet.cells, cell.IsSettled
  readable : watch.paired = true → ∀ cell ∈ cursor.sheet.cells, cell.kind ≠ .empty

namespace Cursor

variable {context : Context} {cursor next : Cursor}

lemma kindOfType_ne_empty (type : Option String) : kindOfType type ≠ .empty := by
  rw [kindOfType.eq_def]
  split <;> simp

/-- A cell that begins is not empty, as long as no style makes it so. -/
lemma kindOf_ne_empty {tag : Tag} {kind : CellKind}
    (hkinds : ∀ kind ∈ context.kinds, kind ≠ .empty) (h : kindOf context tag = .ok kind) :
    kind ≠ .empty := by
  rw [kindOf] at h
  obtain ⟨type, -, h⟩ := bind_eq_ok h
  split at h
  · obtain ⟨style, -, h⟩ := bind_eq_ok h
    obtain rfl := Except.ok.inj h
    cases hkind : style.bind (context.kinds[·]?) with
    | none => simp
    | some kind =>
      obtain ⟨place, -, hplace⟩ := Option.bind_eq_some_iff.mp hkind
      exact hkinds kind (Array.mem_of_getElem? hplace)
  · obtain rfl := Except.ok.inj h
    exact kindOfType_ne_empty type

/-- The kind of a cell at its end is none that refers to a shared text, and empty just if the cell
was. -/
lemma settled_eq_ok {kind : CellKind} {value : String}
    (h : cursor.settled context = .ok (kind, value)) :
    kind ≠ .sharedText ∧ (kind = .empty → cursor.kind = .empty) := by
  rw [settled] at h
  split at h
  · split at h
    · cases h
    · split at h
      · obtain ⟨rfl, -⟩ := Prod.mk.inj (Except.ok.inj h)
        simp
      · cases h
  · next hkind =>
    obtain ⟨rfl, -⟩ := Prod.mk.inj (Except.ok.inj h)
    exact ⟨by simpa using hkind, id⟩

/-- At its end a cell is put on the sheet if it has a value and is no error. -/
lemma settles_endCell (h : cursor.endCell context = .ok next) :
    next.collecting = cursor.collecting ∧
      (next.sheet = cursor.sheet ∨
        ∃ cell, next.sheet = cursor.sheet.push cell ∧ cell.IsSettled ∧
          (cell.kind = .empty → cursor.kind = .empty)) := by
  rw [endCell] at h
  obtain ⟨⟨kind, value⟩, hsettled, h⟩ := bind_eq_ok h
  obtain ⟨hkind, hempty⟩ := settled_eq_ok hsettled
  dsimp only at h
  split at h
  · obtain rfl := Except.ok.inj h
    exact ⟨rfl, .inl rfl⟩
  · next hvalue =>
    obtain rfl := Except.ok.inj h
    simp only [Bool.or_eq_true, beq_iff_eq, not_or] at hvalue
    exact ⟨rfl, .inr ⟨_, rfl, ⟨hvalue.2, hvalue.1, hkind⟩, hempty⟩⟩

end Cursor

namespace Watch.Tells

variable {context : Context} {watch : Watch} {cursor next : Cursor}

lemma start (sheet : Sheet) (hsheet : sheet.cells = #[]) : Tells {} { sheet } where
  collecting_eq := rfl
  kind_ne := by simp
  settled := by simp [hsheet]
  readable := by simp [hsheet]

/-- A tag that begins no cell and no text changes nothing that is watched. -/
lemma of_eq (h : watch.Tells cursor) (hcollecting : next.collecting = cursor.collecting)
    (hkind : next.kind = cursor.kind) (hsheet : next.sheet = cursor.sheet) :
    watch.Tells next where
  collecting_eq := hcollecting ▸ h.collecting_eq
  kind_ne := hkind ▸ h.kind_ne
  settled := hsheet ▸ h.settled
  readable := hsheet ▸ h.readable

/-- A start tag is taken up as it is watched. -/
lemma start_step (h : watch.Tells cursor) (hcollecting : watch.collecting = none)
    (hkinds : ∀ kind ∈ context.kinds, kind ≠ .empty) {tag : Tag}
    (hstep : Cursor.Starts context cursor tag next) : (watch.step (.start tag)).Tells next := by
  simp only [Watch.step, hcollecting]
  cases hstep with
  | row hrow hstep =>
    rw [is_eq_false (t := "c") hrow (by decide), is_eq_false (t := "is") hrow (by decide),
      is_eq_false (t := "v") hrow (by decide)]
    obtain ⟨number, -, rfl⟩ := Cursor.startRow_eq_ok hstep
    exact h.of_eq rfl rfl rfl
  | cell hcell hstep =>
    rw [if_pos hcell]
    obtain ⟨reference, kind, -, -, hkind, rfl⟩ := Cursor.startCell_eq_ok hstep
    exact ⟨h.collecting_eq.trans hcollecting, fun _ => Cursor.kindOf_ne_empty hkinds hkind,
      h.settled, h.readable⟩
  | text item hmem hname =>
    rcases List.mem_pair.mp hmem with rfl | rfl
    · rw [is_eq_false (t := "c") hname (by decide), hname]
      exact ⟨rfl, h.kind_ne, h.settled, h.readable⟩
    · rw [is_eq_false (t := "c") hname (by decide), is_eq_false (t := "is") hname (by decide),
        hname]
      exact ⟨rfl, h.kind_ne, h.settled, h.readable⟩
  | passed hnames =>
    rw [hnames "c" (by simp), hnames "is" (by simp), hnames "v" (by simp)]
    exact h

/-- A cell that ends leaves the sheet readable if it was begun. -/
lemma finish_step (h : watch.Tells cursor) (hcollecting : watch.collecting = none) {name : Name}
    (hstep : Cursor.Finishes context cursor name next) :
    (watch.step (.finish name)).Tells next := by
  simp only [Watch.step, hcollecting]
  cases hstep with
  | row hrow hstep =>
    rw [is_eq_false (t := "c") hrow (by decide)]
    obtain ⟨-, rfl⟩ := Cursor.endRow_eq_ok hstep
    exact h.of_eq rfl rfl rfl
  | passed hname =>
    rw [hname]
    exact h
  | cell hcell hstep =>
    rw [if_pos hcell]
    obtain ⟨hnext, hsheet | ⟨cell, hsheet, hsettled, hempty⟩⟩ := Cursor.settles_endCell hstep
    · exact {
        collecting_eq := by rw [hnext, h.collecting_eq, hcollecting]
        kind_ne := fun hbegun => absurd hbegun (by simp)
        settled := hsheet ▸ h.settled
        readable := fun hpaired => hsheet ▸ h.readable (Bool.and_eq_true_iff.mp hpaired).1 }
    · refine ⟨?_, ?_, ?_, ?_⟩
      · rw [hnext, h.collecting_eq, hcollecting]
      · exact fun hbegun => absurd hbegun (by simp)
      · rw [hsheet]
        intro other hother
        rcases Sheet.mem_push hother with rfl | hother
        · exact hsettled
        · exact h.settled other hother
      · rw [hsheet]
        intro hpaired other hother
        obtain ⟨hpaired, hbegun⟩ := Bool.and_eq_true_iff.mp hpaired
        rcases Sheet.mem_push hother with rfl | hother
        · exact mt hempty (h.kind_ne hbegun)
        · exact h.readable hpaired other hother

/-- Whatever the event is, it is taken up as it is watched. -/
theorem step (h : watch.Tells cursor) (hkinds : ∀ kind ∈ context.kinds, kind ≠ .empty)
    {event : Event} (hstep : cursor.step context event = .ok next) :
    (watch.step event).Tells next := by
  have hwatch := h.collecting_eq
  rw [Cursor.step] at hstep
  split at hstep
  · next hnone =>
    rw [hnone] at hwatch
    cases event with
    | start tag => exact h.start_step hwatch.symm hkinds (Cursor.starts_of_stepOutside hstep)
    | finish name => exact h.finish_step hwatch.symm (Cursor.finishes_of_stepOutside hstep)
    | _ =>
      simp only [Watch.step, ← hwatch]
      obtain rfl := Except.ok.inj hstep
      exact h
  · next name item hsome =>
    rw [hsome] at hwatch
    simp only [Watch.step, ← hwatch, Option.map_some]
    split at hstep
    · next hends =>
      rw [if_pos hends]
      obtain rfl := Except.ok.inj hstep
      exact ⟨rfl, h.kind_ne, h.settled, h.readable⟩
    · next hends =>
      rw [if_neg hends]
      obtain ⟨item', -, rfl⟩ := map_eq_ok hstep
      exact ⟨hwatch, h.kind_ne, h.settled, h.readable⟩

lemma foldlM (h : watch.Tells cursor) (hkinds : ∀ kind ∈ context.kinds, kind ≠ .empty)
    {events : List Event} (hrun : events.foldlM (Cursor.step context) cursor = .ok next) :
    (events.foldl Watch.step watch).Tells next := by
  induction events generalizing watch cursor with
  | nil =>
    obtain rfl := Except.ok.inj hrun
    exact h
  | cons event events ih =>
    rw [List.foldlM_cons] at hrun
    obtain ⟨middle, hmiddle, hrun⟩ := bind_eq_ok hrun
    exact ih (h.step hkinds hmiddle) hrun

end Watch.Tells

/-- The cells of a worksheet have values, and can be read if every cell that ends was begun. -/
lemma isReadable_readWorksheet {context : Context} (hkinds : ∀ kind ∈ context.kinds, kind ≠ .empty)
    {name : String} {document : Document} {sheet : Sheet}
    (h : readWorksheet context name document = .ok sheet) :
    (∀ cell ∈ sheet.cells, cell.IsSettled) ∧
      (pairsCells document.events = true → ∀ cell ∈ sheet.cells, cell.IsReadable) := by
  rw [readWorksheet] at h
  obtain ⟨last, hlast, rfl⟩ := map_eq_ok h
  have htells := (Watch.Tells.start (.new context.file name) rfl).foldlM hkinds
    (foldDocument_eq_ok hlast).1
  refine ⟨htells.settled, ?_⟩
  intro hpaired cell hcell
  exact (htells.settled cell hcell).isReadable (htells.readable hpaired cell hcell)

/-! ### Kinds of styles -/

namespace Styles

variable {epoch : Epoch} {styles next : Styles}

lemma custom_ne_empty (epoch : Epoch) (code : String) :
    NumberFormat.custom epoch code ≠ .empty := by
  rw [NumberFormat.custom, NumberFormat.kindOf.eq_def]
  split <;> simp

lemma builtin?_ne_empty {id : String} {kind : CellKind}
    (h : NumberFormat.builtin? epoch id = some kind) : kind ≠ .empty := by
  rw [NumberFormat.builtin?] at h
  split at h
  · simp [← Option.some.inj h]
  split at h
  · simp [← Option.some.inj h]
  split at h
  · simp [← Option.some.inj h]
  · cases h

/-- A format of the workbook is put in front of those before it. -/
lemma custom_of_step {event : Event} (h : styles.step epoch event = .ok next) :
    next.custom = styles.custom ∨
      ∃ id code, next.custom = (id, NumberFormat.custom epoch code) :: styles.custom := by
  cases event with
  | start tag =>
    simp only [step, start] at h
    split at h
    · obtain rfl := Except.ok.inj h
      exact .inl rfl
    split at h
    · obtain ⟨id, -, h⟩ := bind_eq_ok h
      obtain ⟨code, -, h⟩ := bind_eq_ok h
      split at h
      · obtain rfl := Except.ok.inj h
        exact .inr ⟨_, _, rfl⟩
      · obtain rfl := Except.ok.inj h
        exact .inl rfl
    split at h
    · obtain rfl := Except.ok.inj h
      exact .inl rfl
    split at h
    · obtain ⟨id, -, h⟩ := bind_eq_ok h
      obtain rfl := Except.ok.inj h
      exact .inl rfl
    · obtain rfl := Except.ok.inj h
      exact .inl rfl
  | finish name =>
    simp only [step] at h
    split at h
    · obtain rfl := Except.ok.inj h
      exact .inl rfl
    split at h
    · obtain rfl := Except.ok.inj h
      exact .inl rfl
    · obtain rfl := Except.ok.inj h
      exact .inl rfl
  | _ =>
    obtain rfl := Except.ok.inj h
    exact .inl rfl

/-- No format makes cells empty. -/
def ShowsValues (styles : Styles) : Prop := ∀ p ∈ styles.custom, p.2 ≠ .empty

lemma showsValues_step {event : Event} (h : styles.step epoch event = .ok next)
    (hstyles : styles.ShowsValues) : next.ShowsValues := by
  obtain hcustom | ⟨id, code, hcustom⟩ := custom_of_step h
  · rw [ShowsValues, hcustom]
    exact hstyles
  · rw [ShowsValues, hcustom, List.forall_mem_cons]
    exact ⟨custom_ne_empty epoch code, hstyles⟩

lemma showsValues_stylesOf {archive : Archive}
    (h : Package.stylesOf archive epoch = .ok styles) : styles.ShowsValues := by
  have hstart : ShowsValues {} := by simp [ShowsValues]
  rw [Package.stylesOf] at h
  split at h
  · exact foldlM_of_step (R := fun a b : Styles => a.ShowsValues → b.ShowsValues)
      (fun _ => id) (fun _ _ _ hab hbc => hbc ∘ hab)
      (fun _ _ _ => showsValues_step) (foldDocument_eq_ok h).1 hstart
  · obtain rfl := Except.ok.inj h
    exact hstart

lemma kinds_ne_empty (hstyles : styles.ShowsValues) :
    ∀ kind ∈ styles.kinds epoch, kind ≠ .empty := by
  intro kind hkind
  obtain ⟨id, -, rfl⟩ := Array.mem_map.mp hkind
  rw [kindOf]
  split
  · next kind hlookup =>
    obtain ⟨before, after, hsplit, -⟩ := List.lookup_eq_some_iff.mp hlookup
    exact hstyles (id, kind) (by simp [hsplit])
  · cases hbuiltin : NumberFormat.builtin? epoch id with
    | none => simp
    | some kind => exact builtin?_ne_empty hbuiltin

end Styles

lemma Package.kinds_ne_empty {disk : Disk} {file : String} {package : Package}
    (h : load disk file = .ok package) : ∀ kind ∈ package.kinds, kind ≠ .empty := by
  obtain ⟨archive, relations, workbook, contents, -, hopens⟩ := exists_opens h
  obtain ⟨styles, hstyles, rfl⟩ := hopens.package_eq
  exact Styles.kinds_ne_empty (Styles.showsValues_stylesOf hstyles)

/-- A sheet that is read has the cells of a chosen worksheet. -/
lemma Package.isReadable_readSheets {disk : Disk} {file : String} {package : Package}
    (hload : load disk file = .ok package) {selection : Selection} {sheets : List Sheet}
    (h : package.readSheets selection = .ok sheets) {sheet : Sheet} (hsheet : sheet ∈ sheets) :
    ∃ entry ∈ selection.choose SheetEntry.name package.sheets, ∃ worksheet,
      document package.archive entry.path = .ok worksheet ∧ sheet.name = entry.name ∧
      (∀ cell ∈ sheet.cells, cell.IsSettled) ∧
      (pairsCells worksheet.events = true → ∀ cell ∈ sheet.cells, cell.IsReadable) := by
  rw [readSheets_eq] at h
  obtain ⟨shared, -, h⟩ := bind_eq_ok h
  obtain ⟨entry, hentry, hread⟩ := exists_of_mem_mapM h hsheet
  have hname := name_readEntry hread
  rw [readEntry] at hread
  obtain ⟨worksheet, hworksheet, hread⟩ := bind_eq_ok hread
  exact ⟨entry, hentry, worksheet, hworksheet, hname,
    isReadable_readWorksheet (kinds_ne_empty hload) hread⟩

end OpenXml

/-! ### Tables -/

namespace OpenDocument

/-- The cell can be read and lies within the sheet. -/
structure FitsSheet (cell : Cell) : Prop extends cell.IsReadable where
  row_lt : cell.row < maxRows
  col_lt : cell.col < maxCols

/-- All cells of the sheet fit it, and so will those of the cell that is being read. -/
structure Cursor.IsReadable (cursor : Cursor) : Prop where
  kind_ne : cursor.kind ≠ .sharedText
  fits : ∀ cell ∈ cursor.sheet.cells, FitsSheet cell

namespace Cursor

variable {cursor next : Cursor}

/-- Whatever a cell is, and however often it is repeated, what is made of it fits the sheet. -/
lemma fits_cells (hkind : cursor.kind ≠ .sharedText) : ∀ cell ∈ cursor.cells, FitsSheet cell := by
  intro cell hcell
  rw [cells] at hcell
  split at hcell
  · exact absurd hcell List.not_mem_nil
  · next hgiven =>
    simp only [Bool.or_eq_true, beq_iff_eq, not_or] at hgiven
    obtain ⟨⟨hempty, herror⟩, hvalue⟩ := hgiven
    obtain ⟨position, hposition, rfl⟩ := List.mem_map.mp hcell
    obtain ⟨⟨-, hrow⟩, -, hcol⟩ := repeatedPositions_lt hposition
    have hsettled : Cell.IsSettled ⟨position.1, position.2, cursor.kind, cursor.value⟩ :=
      ⟨hvalue, herror, hkind⟩
    exact ⟨hsettled.isReadable hempty, hrow, hcol⟩

lemma kindOfType_ne_sharedText (isError : Bool) (type : Option String) :
    kindOfType isError type ≠ .sharedText := by
  rw [kindOfType.eq_def]
  split
  · simp
  · split_ifs <;> simp

lemma kind_startCell {tag : Tag} (h : cursor.startCell tag = .ok next) :
    next.kind ≠ .sharedText := by
  rw [startCell] at h
  obtain ⟨count, -, h⟩ := bind_eq_ok h
  obtain ⟨type, -, h⟩ := bind_eq_ok h
  obtain ⟨errorType, -, h⟩ := bind_eq_ok h
  dsimp only at h
  split at h
  · obtain ⟨data, -, h⟩ := bind_eq_ok h
    obtain rfl := Except.ok.inj h
    exact kindOfType_ne_sharedText _ _
  · obtain rfl := Except.ok.inj h
    exact kindOfType_ne_sharedText _ _

/-- No step refers a cell to a shared text. -/
lemma kind_step {event : Event} (h : cursor.step event = .ok next)
    (hkind : cursor.kind ≠ .sharedText) : next.kind ≠ .sharedText := by
  cases event with
  | start tag =>
    cases starts_of_step h with
    | table | passed => exact hkind
    | row _ hstep =>
      obtain ⟨rowCount, rfl⟩ := startRow_eq_ok hstep
      exact hkind
    | cell _ hstep => exact kind_startCell hstep
    | inText _ hstep =>
      obtain ⟨value, inAnnotation, paragraphs, rfl⟩ := startInText_eq_ok hstep
      exact hkind
  | finish name =>
    cases finishes_of_step h with
    | table | row | remark | passed => exact hkind
    | cell => simp [endCell]
  | text s | reference name =>
    obtain ⟨value, rfl⟩ := appendContent_eq_ok h
    exact hkind
  | _ =>
    obtain rfl := Except.ok.inj h
    exact hkind

/-- Whatever the event is, the sheet stays readable. -/
lemma IsReadable.step (h : cursor.IsReadable) {event : Event}
    (hstep : cursor.step event = .ok next) : next.IsReadable where
  kind_ne := kind_step hstep h.kind_ne
  fits := by
    cases takes_of_step hstep with
    | stay _ _ hsheet | startRow _ _ hsheet | endRow _ _ hsheet =>
      rw [hsheet]
      exact h.fits
    | endCell _ _ hsheet =>
      rw [hsheet]
      intro cell hcell
      rcases Sheet.mem_pushAll hcell with hcell | hcell
      · exact fits_cells h.kind_ne cell hcell
      · exact h.fits cell hcell

end Cursor

lemma fitsSheet_readTable {file : String} {table : Table} {sheet : Sheet}
    (h : readTable file table = .ok sheet) : ∀ cell ∈ sheet.cells, FitsSheet cell := by
  rw [readTable] at h
  obtain ⟨last, hlast, rfl⟩ := map_eq_ok h
  have hstart : Cursor.IsReadable { sheet := .new file table.name } :=
    ⟨by simp, by simp [Sheet.new]⟩
  have hread := foldlM_of_step (R := fun a b : Cursor => a.IsReadable → b.IsReadable)
    (fun _ => id) (fun _ _ _ hab hbc => hbc ∘ hab) (fun _ _ _ hstep h => h.step hstep) hlast
  exact (hread hstart).fits

/-- Every cell that is read from tables can be read and fits its sheet. -/
lemma Package.fitsSheet_readSheets {package : Package} {selection : Selection}
    {sheets : List Sheet} (h : package.readSheets selection = .ok sheets) {sheet : Sheet}
    (hsheet : sheet ∈ sheets) : ∀ cell ∈ sheet.cells, FitsSheet cell := by
  rw [readSheets] at h
  split at h
  · cases h
  · next part _ =>
    have hread := (readAsExpected package.file selection (Document.ofBytes part.bytes).error
      (Document.ofBytes part.bytes).events).outside #[]
    rw [h] at hread
    obtain hread | ⟨⟨fault, hfault⟩, -⟩ := hread
    · obtain ⟨results, hresults, heq⟩ := map_eq_ok hread.symm
      obtain rfl : results = sheets := by simpa using heq
      obtain ⟨table, -, htable⟩ := exists_of_mem_mapM hresults hsheet
      exact fitsSheet_readTable htable
    · cases hfault

end OpenDocument

/-! ### Both readers -/

/-- Whatever the tags of the parts are: the cells of a worksheet have values and are no errors, and
they can be read if every cell that ends was begun; the cells of tables can be read in any case, and
lie within the sheet. -/
theorem readSheets_readable (selection : Selection) (sheets : List Sheet) :
    (∀ (disk : Disk) (file : String) (package : OpenXml.Package),
      OpenXml.Package.load disk file = .ok package →
      package.readSheets selection = .ok sheets →
      ∀ sheet ∈ sheets,
        ∃ entry ∈ selection.choose OpenXml.SheetEntry.name package.sheets, ∃ worksheet,
          OpenXml.document package.archive entry.path = .ok worksheet ∧
          sheet.name = entry.name ∧
          (∀ cell ∈ sheet.cells, cell.IsSettled) ∧
          (OpenXml.pairsCells worksheet.events = true →
            ∀ cell ∈ sheet.cells, cell.IsReadable)) ∧
    ∀ package : OpenDocument.Package, package.readSheets selection = .ok sheets →
      ∀ sheet ∈ sheets, ∀ cell ∈ sheet.cells,
        cell.IsReadable ∧ cell.row < OpenDocument.maxRows ∧ cell.col < OpenDocument.maxCols := by
  constructor
  · intro disk file package hload hread sheet hsheet
    exact OpenXml.Package.isReadable_readSheets hload hread hsheet
  · intro package hread sheet hsheet cell hcell
    have hfits := OpenDocument.Package.fitsSheet_readSheets hread hsheet cell hcell
    exact ⟨hfits.toIsReadable, hfits.row_lt, hfits.col_lt⟩

theorem readSheets_readable_usage :
    (OpenXml.Package.load (OpenXml.diskWith OpenXml.usageArchive) "/usage.xlsx" =
        .ok OpenXml.usagePackage ∧
      ∃ sheets, OpenXml.usagePackage.readSheets {} = .ok sheets ∧
        sheets.map (·.cells) = [#[], #[⟨0, 0, .number, "1"⟩], #[]] ∧
        ∀ sheet ∈ sheets, ∀ cell ∈ sheet.cells, cell.IsReadable) ∧
    ∃ sheets, OpenDocument.nestedTables.readSheets {} = .ok sheets ∧
      sheets.map (·.cells) = [#[⟨0, 0, .text, "kg"⟩], #[]] ∧
      ∀ sheet ∈ sheets, ∀ cell ∈ sheet.cells,
        cell.IsReadable ∧ cell.row < OpenDocument.maxRows ∧ cell.col < OpenDocument.maxCols := by
  have hcells : (OpenXml.usagePackage.readSheets {}).map (·.map (·.cells)) =
      .ok [#[], #[⟨0, 0, .number, "1"⟩], #[]] := by decide +kernel
  have hcells' : (OpenDocument.nestedTables.readSheets {}).map (·.map (·.cells)) =
      .ok [#[⟨0, 0, .text, "kg"⟩], #[]] := by decide +kernel
  have hpaired : ∀ entry ∈ OpenXml.usagePackage.sheets,
      (OpenXml.document OpenXml.usageArchive entry.path).map
        (fun worksheet => OpenXml.pairsCells worksheet.events) = .ok true := by decide +kernel
  obtain ⟨sheets, hsheets, hmap⟩ := map_eq_ok hcells
  obtain ⟨sheets', hsheets', hmap'⟩ := map_eq_ok hcells'
  refine ⟨⟨OpenXml.load_usage, sheets, hsheets, hmap, ?_⟩, sheets', hsheets', hmap',
    (readSheets_readable {} sheets').2 OpenDocument.nestedTables hsheets'⟩
  intro sheet hsheet
  obtain ⟨entry, hentry, worksheet, hworksheet, -, -, hreadable⟩ :=
    (readSheets_readable {} sheets).1 _ _ _ OpenXml.load_usage hsheets sheet hsheet
  apply hreadable
  have hentry' := hpaired entry ((Selection.choose_sublist _ _).mem hentry)
  rw [show OpenXml.document OpenXml.usageArchive entry.path = .ok worksheet from hworksheet]
    at hentry'
  exact Except.ok.inj hentry'

/-- A workbook whose worksheet has a cell inside another one, which has its value behind it. -/
def nestedCells : Archive := ⟨[OpenXml.usageWorkbook,
  ⟨"xl/_rels/workbook.xml.rels", bytesOf <|
    "<Relationships>" ++ OpenXml.relationshipTo "a" ++ "</Relationships>"⟩,
  ⟨"xl/worksheets/a.xml", bytesOf <|
    "<worksheet><sheetData><row r=\"1\"><c r=\"A1\"><c r=\"B1\"/><v>5</v></c></row>" ++
    "</sheetData></worksheet>"⟩]⟩

/-- The value behind the inner cell is put on the sheet as that of an empty cell. -/
theorem exists_not_isReadable :
    ∃ package, OpenXml.Package.load (OpenXml.diskWith nestedCells) "/usage.xlsx" = .ok package ∧
      ∃ sheets, package.readSheets {} = .ok sheets ∧
        ∃ sheet ∈ sheets, ∃ cell ∈ sheet.cells, cell.kind = .empty ∧ cell.text = none := by
  have hload : OpenXml.Package.load (OpenXml.diskWith nestedCells) "/usage.xlsx" =
      .ok ⟨"/usage.xlsx", nestedCells, [⟨"Units", "xl/worksheets/a.xml"⟩], #[]⟩ := by
    decide +kernel
  have hcells : (OpenXml.Package.readSheets
      ⟨"/usage.xlsx", nestedCells, [⟨"Units", "xl/worksheets/a.xml"⟩], #[]⟩ {}).map
        (·.map (·.cells)) = .ok [#[⟨0, 1, .empty, "5"⟩]] := by decide +kernel
  obtain ⟨sheets, hsheets, hmap⟩ := map_eq_ok hcells
  obtain ⟨sheet, rfl, hsheet⟩ := List.map_eq_singleton_iff.mp hmap
  refine ⟨_, hload, [sheet], hsheets, sheet, List.mem_singleton_self _, ⟨0, 1, .empty, "5"⟩, ?_,
    rfl, rfl⟩
  rw [hsheet]
  exact Array.mem_singleton_self _

end Workbook

end DataDictionary
