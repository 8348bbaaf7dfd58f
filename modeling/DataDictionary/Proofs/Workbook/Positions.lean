import DataDictionary.Proofs.CellReference
import DataDictionary.Proofs.Markup.Attributes
import DataDictionary.Proofs.Workbook.ReadableCells

/-!
# Positions that are left out

A row that names no number follows the row before it, and a cell that names no position the cell
before it in its row. So a worksheet in which every row and every cell says where it stands is read
as before when any of the positions that follow from those before them are left out.
-/

namespace DataDictionary.Workbook.OpenXml

open Markup Text

/-! ### Elements of a worksheet -/

/-- The event neither begins nor ends a row or a cell. -/
def isWithin : Event → Bool
  | .start tag => !(tag.name.is "row" || tag.name.is "c")
  | .finish name => !(name.is "row" || name.is "c")
  | _ => true

/-- No row and no cell begins or ends in the events, and every text that begins in them ends. -/
structure IsFilling (events : List Event) : Prop where
  within : events.all isWithin = true
  closed : (events.foldl Watch.step {}).collecting = none

/-- The tag without its position if that is left out. -/
def shortTag (isImplied : Bool) (tag : Tag) : Tag := if isImplied then tag.without "r" else tag

/-- A cell element, and what stands before it in its row. -/
structure CellElement where
  before : List Event := []
  tag : Tag
  content : List Event := []
  /-- The position is left out of the short form. -/
  isImplied : Bool := false

/-- A row element, and what stands before it. -/
structure RowElement where
  before : List Event := []
  tag : Tag
  cells : List CellElement
  after : List Event := []
  /-- The number is left out of the short form. -/
  isImplied : Bool := false

/-- The rows of a worksheet, and what stands around them. -/
structure WorksheetElement where
  rows : List RowElement
  after : List Event := []

namespace CellElement

def events (cell : CellElement) : List Event :=
  cell.before ++ .start cell.tag :: cell.content ++ [.finish cell.tag.name]

/-- The element without its position if that is left out. -/
def short (cell : CellElement) : CellElement :=
  { cell with tag := shortTag cell.isImplied cell.tag }

/-- The element stands in a column, where it follows a cell in the column before `next`. Only the
position of a cell that stands right there may be left out. -/
structure IsPlaced (cell : CellElement) (row next col : Nat) : Prop where
  before : IsFilling cell.before
  name : cell.tag.name.is "c" = true
  faultless : cell.tag.IsFaultless
  position : namedPosition? cell.tag = some (row, col)
  content : IsFilling cell.content
  eq_of_isImplied : cell.isImplied = true → col = next

/-- The elements stand in a row, the first of them in the column `next` if its position is left
out. -/
inductive ArePlaced (row : Nat) : Nat → List CellElement → Prop
  | nil {next : Nat} : ArePlaced row next []
  | cons {next col : Nat} {cell : CellElement} {cells : List CellElement} :
    cell.IsPlaced row next col → ArePlaced row (col + 1) cells → ArePlaced row next (cell :: cells)

end CellElement

namespace RowElement

def events (row : RowElement) : List Event :=
  row.before ++ .start row.tag :: row.cells.flatMap CellElement.events ++ row.after ++
    [.finish row.tag.name]

/-- The element without the positions that are left out. -/
def short (row : RowElement) : RowElement :=
  { row with
    tag := shortTag row.isImplied row.tag
    cells := row.cells.map CellElement.short }

/-- The element is the row of a number, where it follows a row of the number before `next`. -/
structure IsPlaced (element : RowElement) (next row : Nat) : Prop where
  before : IsFilling element.before
  name : element.tag.name.is "row" = true
  faultless : element.tag.IsFaultless
  number : namedRow? element.tag = some row
  cells : CellElement.ArePlaced row 0 element.cells
  after : IsFilling element.after
  eq_of_isImplied : element.isImplied = true → row = next

/-- The elements are rows, the first of them the row `next` if its number is left out. -/
inductive ArePlaced : Nat → List RowElement → Prop
  | nil {next : Nat} : ArePlaced next []
  | cons {next row : Nat} {element : RowElement} {elements : List RowElement} :
    element.IsPlaced next row → ArePlaced (row + 1) elements → ArePlaced next (element :: elements)

end RowElement

namespace WorksheetElement

def events (worksheet : WorksheetElement) : List Event :=
  worksheet.rows.flatMap RowElement.events ++ worksheet.after

/-- The worksheet without the positions that are left out. -/
def short (worksheet : WorksheetElement) : WorksheetElement :=
  { worksheet with rows := worksheet.rows.map RowElement.short }

/-- Every row and every cell says where it stands, and positions that are left out follow from
those before them. -/
structure IsPlaced (worksheet : WorksheetElement) : Prop where
  rows : RowElement.ArePlaced 0 worksheet.rows
  after : IsFilling worksheet.after

end WorksheetElement

/-! ### Reading what stands between -/

/-- The text that is being collected is told by what is watched of the events. -/
lemma Watch.collecting_step {watch : Watch} {context : Context} {cursor next : Cursor}
    {event : Event} (h : cursor.collecting.map Prod.fst = watch.collecting)
    (hstep : cursor.step context event = .ok next) :
    next.collecting.map Prod.fst = (watch.step event).collecting := by
  rw [Cursor.step] at hstep
  split at hstep
  · next hnone =>
    rw [hnone, Option.map_none] at h
    cases event with
    | start tag =>
      simp only [Watch.step, ← h]
      cases Cursor.starts_of_stepOutside hstep with
      | row hrow hstep =>
        obtain ⟨number, -, rfl⟩ := Cursor.startRow_eq_ok hstep
        simp [Name.eq_of_is hrow, hnone, ← h]
      | cell hcell hstep =>
        obtain ⟨reference, kind, -, -, -, rfl⟩ := Cursor.startCell_eq_ok hstep
        simp [hcell, hnone]
      | text item hmem hname =>
        rcases List.mem_pair.mp hmem with rfl | rfl <;> simp [Name.eq_of_is hname]
      | passed hnames => simp [hnames, hnone, ← h]
    | finish name =>
      simp only [Watch.step, ← h]
      cases Cursor.finishes_of_stepOutside hstep with
      | row hrow hstep =>
        obtain ⟨-, rfl⟩ := Cursor.endRow_eq_ok hstep
        simp [Name.eq_of_is hrow, hnone, ← h]
      | passed hname => simp [hname, hnone, ← h]
      | cell hcell hstep =>
        rw [(Cursor.settles_endCell hstep).1, hnone, if_pos hcell]
        rfl
    | _ =>
      obtain rfl := Except.ok.inj hstep
      simp [Watch.step, hnone, ← h]
  · next name item hsome =>
    rw [hsome, Option.map_some] at h
    simp only [Watch.step, ← h]
    split at hstep
    · next hends =>
      obtain rfl := Except.ok.inj hstep
      rw [if_pos hends]
      rfl
    · next hends =>
      obtain ⟨item', -, rfl⟩ := map_eq_ok hstep
      rw [if_neg hends, ← h]
      rfl

lemma Watch.collecting_foldlM {watch : Watch} {context : Context} {cursor last : Cursor}
    {events : List Event} (h : cursor.collecting.map Prod.fst = watch.collecting)
    (hrun : events.foldlM (Cursor.step context) cursor = .ok last) :
    last.collecting.map Prod.fst = (events.foldl Watch.step watch).collecting := by
  induction events generalizing watch cursor with
  | nil =>
    obtain rfl := Except.ok.inj hrun
    exact h
  | cons event events ih =>
    rw [List.foldlM_cons] at hrun
    obtain ⟨next, hnext, hrun⟩ := bind_eq_ok hrun
    exact ih (Watch.collecting_step h hnext) hrun

namespace Cursor

variable {context : Context} {cursor next : Cursor}

lemma counters_of_isWithin {event : Event} (hevent : isWithin event = true)
    (h : cursor.step context event = .ok next) : next.counters = cursor.counters := by
  rw [step] at h
  split at h
  · cases event with
    | start tag =>
      obtain ⟨hrow, hcell⟩ : tag.name.is "row" = false ∧ tag.name.is "c" = false := by
        simpa [isWithin] using hevent
      cases starts_of_stepOutside h with
      | row hname _ => exact absurd hname (by simp [hrow])
      | cell hname _ => exact absurd hname (by simp [hcell])
      | text | passed => rfl
    | finish name =>
      obtain ⟨hrow, hcell⟩ : name.is "row" = false ∧ name.is "c" = false := by
        simpa [isWithin] using hevent
      cases finishes_of_stepOutside h with
      | row hname _ => exact absurd hname (by simp [hrow])
      | cell hname _ => exact absurd hname (by simp [hcell])
      | passed => rfl
    | _ =>
      obtain rfl := Except.ok.inj h
      rfl
  · next name item _ =>
    split at h
    · obtain rfl := Except.ok.inj h
      rfl
    · obtain ⟨item', -, rfl⟩ := map_eq_ok h
      rfl

/-- Behind events in which every text ends, none is being collected. -/
lemma collecting_eq_none {events : List Event}
    (h : (events.foldl Watch.step {}).collecting = none) (hcollecting : cursor.collecting = none)
    (hrun : events.foldlM (step context) cursor = .ok next) : next.collecting = none := by
  have hwatch : cursor.collecting.map Prod.fst = ({} : Watch).collecting := by
    rw [hcollecting]
    rfl
  have hlast := Watch.collecting_foldlM hwatch hrun
  rwa [h, Option.map_eq_none_iff] at hlast

/-- What stands between rows and cells leaves the counters, and ends outside texts. -/
lemma kept_of_isFilling {events : List Event} (h : IsFilling events)
    (hcollecting : cursor.collecting = none)
    (hrun : events.foldlM (step context) cursor = .ok next) :
    next.collecting = none ∧ next.counters = cursor.counters := by
  constructor
  · exact collecting_eq_none h.closed hcollecting hrun
  · have hwithin := h.within
    clear h hcollecting
    induction events generalizing cursor with
    | nil =>
      obtain rfl := Except.ok.inj hrun
      rfl
    | cons event events ih =>
      obtain ⟨hevent, hevents⟩ := Bool.and_eq_true_iff.mp (List.all_cons ▸ hwithin)
      rw [List.foldlM_cons] at hrun
      obtain ⟨middle, hmiddle, hrun⟩ := bind_eq_ok hrun
      rw [ih hrun hevents, counters_of_isWithin hevent hmiddle]

end Cursor

/-! ### Events that are read alike -/

/-- Outside texts, two lists of events lead from cursors with counters of a kind to the same cursor,
which is outside texts and has counters of another kind. -/
structure AreAlike (context : Context) (p q : Counters → Prop) (a b : List Event) : Prop where
  foldlM_eq : ∀ cursor : Cursor, cursor.collecting = none → p cursor.counters →
    a.foldlM (Cursor.step context) cursor = b.foldlM (Cursor.step context) cursor
  ends : ∀ cursor next : Cursor, cursor.collecting = none → p cursor.counters →
    b.foldlM (Cursor.step context) cursor = .ok next → next.collecting = none ∧ q next.counters

/-- The next row has a number if it names none. -/
def Counters.AreBetween (row : Nat) (counters : Counters) : Prop := counters.nextRow = row

/-- The next cell stands in a row, and has a column if it names none. -/
def Counters.AreInRow (row col : Nat) (counters : Counters) : Prop :=
  counters.row = row ∧ counters.nextCol = col

namespace AreAlike

variable {context : Context} {p q r : Counters → Prop} {a b c d events : List Event}

lemma append (h : AreAlike context p q a b) (h' : AreAlike context q r c d) :
    AreAlike context p r (a ++ c) (b ++ d) where
  foldlM_eq := by
    intro cursor hcollecting hcounters
    rw [List.foldlM_append, List.foldlM_append, h.foldlM_eq cursor hcollecting hcounters]
    -- Where the first lists end, the counters are such that the second ones are read alike.
    cases hnext : b.foldlM (Cursor.step context) cursor with
    | error error => rfl
    | ok next =>
      obtain ⟨hcollecting', hcounters'⟩ := h.ends cursor next hcollecting hcounters hnext
      exact h'.foldlM_eq next hcollecting' hcounters'
  ends := by
    intro cursor last hcollecting hcounters hrun
    obtain ⟨next, hnext, hlast⟩ := foldlM_append_eq_ok hrun
    obtain ⟨hcollecting', hcounters'⟩ := h.ends cursor next hcollecting hcounters hnext
    exact h'.ends next last hcollecting' hcounters' hlast

/-- What stands between rows and cells is read as it is. -/
lemma filling (h : IsFilling events) : AreAlike context p p events events where
  foldlM_eq _ _ _ := rfl
  ends := by
    intro cursor last hcollecting hcounters hrun
    obtain ⟨hcollecting', hcounters'⟩ := Cursor.kept_of_isFilling h hcollecting hrun
    exact ⟨hcollecting', hcounters'.symm ▸ hcounters⟩

lemma nil : AreAlike context p p [] [] := filling ⟨rfl, rfl⟩

/-- Two events that are taken up alike are read alike. -/
lemma single {event other : Event}
    (hstep : ∀ cursor : Cursor, p cursor.counters →
      cursor.stepOutside context event = cursor.stepOutside context other)
    (hends : ∀ cursor next : Cursor, p cursor.counters →
      cursor.stepOutside context other = .ok next →
      next.collecting = cursor.collecting ∧ q next.counters) :
    AreAlike context p q [event] [other] where
  foldlM_eq := by
    intro cursor hcollecting hcounters
    simp only [List.foldlM_cons, Cursor.step, hcollecting, hstep cursor hcounters]
  ends := by
    intro cursor last hcollecting hcounters hrun
    rw [List.foldlM_cons, Cursor.step, hcollecting] at hrun
    obtain ⟨next, hnext, hrun⟩ := bind_eq_ok hrun
    obtain rfl := Except.ok.inj hrun
    obtain ⟨hcollecting', hcounters'⟩ := hends cursor next hcounters hnext
    exact ⟨hcollecting'.trans hcollecting, hcounters'⟩

end AreAlike

/-! ### Rows and cells without positions -/

namespace Cursor

variable {context : Context} {cursor : Cursor}

/-- A row whose number follows from the row before it may leave it out. -/
lemma startRow_without {tag : Tag} (htag : tag.IsFaultless) {row : Nat}
    (hrow : namedRow? tag = some row) (hcursor : cursor.nextRow = row) :
    cursor.startRow (tag.without "r") = cursor.startRow tag := by
  rw [namedRow?_eq_some_iff] at hrow
  rw [startRow, startRow, Tag.count?_without htag, hrow, ← hcursor]
  rfl

/-- A cell whose position follows from the cell before it may leave it out. -/
lemma startCell_without {tag : Tag} (htag : tag.IsFaultless) {row col : Nat}
    (hposition : namedPosition? tag = some (row, col)) (hcursor : cursor.row = row)
    (hcol : cursor.nextCol = col) :
    cursor.startCell context (tag.without "r") = cursor.startCell context tag := by
  obtain ⟨text, htext, hread⟩ := namedPosition?_eq_some_iff.mp hposition
  rw [startCell, startCell, Tag.attribute?_without_self htag, htext,
    Tag.attribute?_without (by decide), Tag.count?_without_of_ne (by decide)]
  simp only [ofMarkup, bind, Except.bind, hread, hcursor, hcol, Option.bind_none,
    Option.bind_some, Option.getD_none, Option.getD_some]

end Cursor

lemma name_shortTag (isImplied : Bool) (tag : Tag) : (shortTag isImplied tag).name = tag.name := by
  cases isImplied <;> rfl

namespace AreAlike

variable (context : Context) {p : Counters → Prop} {row next col : Nat}

lemma startCell {cell : CellElement} (h : cell.IsPlaced row next col) :
    AreAlike context (Counters.AreInRow row next) (Counters.AreInRow row (col + 1))
      [.start (shortTag cell.isImplied cell.tag)] [.start cell.tag] := by
  have hname := Name.eq_of_is h.name
  have hstep (cursor : Cursor) (tag : Tag) (htag : tag.name = cell.tag.name) :
      cursor.stepOutside context (.start tag) = cursor.startCell context tag := by
    simp [Cursor.stepOutside, htag, hname]
  refine single ?_ ?_
  · intro cursor hcounters
    rw [hstep _ _ (name_shortTag _ _), hstep _ _ rfl]
    cases himplied : cell.isImplied with
    | false => rfl
    | true =>
      have hcol := h.eq_of_isImplied himplied
      exact Cursor.startCell_without h.faultless h.position hcounters.1 (hcounters.2.trans hcol.symm)
  · intro cursor last _ hlast
    rw [hstep _ _ rfl] at hlast
    obtain ⟨reference, kind, hreference, -, -, rfl⟩ := Cursor.startCell_eq_ok hlast
    obtain ⟨text, htext, hread⟩ := namedPosition?_eq_some_iff.mp h.position
    obtain rfl := Except.ok.inj (hreference.symm.trans htext)
    have hposition : cursor.positionOf (some text) = (row, col) := by
      rw [Cursor.positionOf, Option.bind_some, hread, Option.getD_some]
    exact ⟨rfl, congrArg Prod.fst hposition, congrArg (·.2 + 1) hposition⟩

lemma endCell {name : Name} (h : name.is "c" = true) :
    AreAlike context p p [.finish name] [.finish name] := by
  refine single (fun _ _ => rfl) ?_
  intro cursor last hcounters hlast
  have hstep : cursor.stepOutside context (.finish name) = cursor.endCell context := by
    simp [Cursor.stepOutside, Name.eq_of_is h]
  rw [hstep] at hlast
  refine ⟨(Cursor.settles_endCell hlast).1, ?_⟩
  obtain ⟨value, rfl⟩ | ⟨kind, value, rfl⟩ := Cursor.endCell_eq_ok hlast
  · exact hcounters
  · exact hcounters

/-- A cell is read alike with its position and without it. -/
lemma cellElement {cell : CellElement} (h : cell.IsPlaced row next col) :
    AreAlike context (Counters.AreInRow row next) (Counters.AreInRow row (col + 1))
      cell.short.events cell.events := by
  have hcell := (filling h.before).append
    ((startCell context h).append ((filling h.content).append (endCell context h.name)))
  simpa [CellElement.events, CellElement.short, name_shortTag] using hcell

lemma cellElements {cells : List CellElement} (h : CellElement.ArePlaced row next cells) :
    ∃ last, AreAlike context (Counters.AreInRow row next) (Counters.AreInRow row last)
      ((cells.map CellElement.short).flatMap CellElement.events)
      (cells.flatMap CellElement.events) := by
  -- The column behind the last cell is left open: the next row starts over.
  induction h with
  | nil => exact ⟨_, nil⟩
  | cons hcell _ ih =>
    obtain ⟨last, hcells⟩ := ih
    exact ⟨last, (cellElement context hcell).append hcells⟩

lemma startRow {element : RowElement} (h : element.IsPlaced next row) :
    AreAlike context (Counters.AreBetween next) (Counters.AreInRow row 0)
      [.start (shortTag element.isImplied element.tag)] [.start element.tag] := by
  have hname := Name.eq_of_is h.name
  have hstep (cursor : Cursor) (tag : Tag) (htag : tag.name = element.tag.name) :
      cursor.stepOutside context (.start tag) = cursor.startRow tag := by
    simp [Cursor.stepOutside, htag, hname]
  refine single ?_ ?_
  · intro cursor hcounters
    rw [hstep _ _ (name_shortTag _ _), hstep _ _ rfl]
    cases himplied : element.isImplied with
    | false => rfl
    | true =>
      have hrow := h.eq_of_isImplied himplied
      exact Cursor.startRow_without h.faultless h.number (hcounters.trans hrow.symm)
  · intro cursor last _ hlast
    rw [hstep _ _ rfl] at hlast
    obtain ⟨number, hnumber, rfl⟩ := Cursor.startRow_eq_ok hlast
    obtain rfl := Except.ok.inj (hnumber.symm.trans (namedRow?_eq_some_iff.mp h.number))
    exact ⟨rfl, rfl, rfl⟩

lemma endRow (row col : Nat) {name : Name} (h : name.is "row" = true) :
    AreAlike context (Counters.AreInRow row col) (Counters.AreBetween (row + 1))
      [.finish name] [.finish name] := by
  refine single (fun _ _ => rfl) ?_
  intro cursor last hcounters hlast
  have hstep : cursor.stepOutside context (.finish name) = cursor.endRow := by
    simp [Cursor.stepOutside, Name.eq_of_is h]
  rw [hstep] at hlast
  obtain ⟨-, rfl⟩ := Cursor.endRow_eq_ok hlast
  exact ⟨rfl, congrArg (· + 1) hcounters.1⟩

/-- A row is read alike with its number and the positions of its cells and without them. -/
lemma rowElement {element : RowElement} (h : element.IsPlaced next row) :
    AreAlike context (Counters.AreBetween next) (Counters.AreBetween (row + 1))
      element.short.events element.events := by
  obtain ⟨last, hcells⟩ := cellElements context h.cells
  have hend := endRow context row last h.name
  have hrow := (filling h.before).append
    ((startRow context h).append (hcells.append ((filling h.after).append hend)))
  simpa [RowElement.events, RowElement.short, name_shortTag] using hrow

lemma rowElements {elements : List RowElement} (h : RowElement.ArePlaced next elements) :
    ∃ last, AreAlike context (Counters.AreBetween next) (Counters.AreBetween last)
      ((elements.map RowElement.short).flatMap RowElement.events)
      (elements.flatMap RowElement.events) := by
  induction h with
  | nil => exact ⟨_, nil⟩
  | cons hrow _ ih =>
    obtain ⟨last, hrows⟩ := ih
    exact ⟨last, (rowElement context hrow).append hrows⟩

end AreAlike

/-- A worksheet is read as the same sheet, or fails alike, whichever of the positions that follow
from those before them are left out. -/
theorem WorksheetElement.readWorksheet_short {worksheet : WorksheetElement}
    (h : worksheet.IsPlaced) (context : Context) (name : String) (error : Option Markup.Error) :
    readWorksheet context name { events := worksheet.short.events, error } =
      readWorksheet context name { events := worksheet.events, error } := by
  obtain ⟨last, hrows⟩ := AreAlike.rowElements context h.rows
  have halike := hrows.append (.filling h.after)
  have hfold := halike.foldlM_eq { sheet := .new context.file name } rfl rfl
  have hevents : worksheet.short.events.foldlM (Cursor.step context)
      { sheet := .new context.file name } =
        worksheet.events.foldlM (Cursor.step context) { sheet := .new context.file name } := hfold
  rw [readWorksheet, readWorksheet, foldDocument, foldDocument]
  simp only [hevents]

/-! ### A worksheet with gaps -/

/-- A written cell, with a value unless it is empty. -/
def stockCell (reference value : String) (isImplied : Bool) : CellElement where
  tag := .written "c" [("r", reference), ("t", "str")]
  content := if value = "" then [] else element "v" [] (textEvents value)
  isImplied := isImplied

/-- A written row. -/
def stockRow (number : String) (cells : List CellElement) (isImplied : Bool) : RowElement where
  tag := .written "row" [("r", number)]
  cells := cells
  isImplied := isImplied

/-- Two rows from the top, the second of them empty, and a row further down. In the first, a cell
without a value stands next to a gap. -/
def stockWorksheet : WorksheetElement where
  rows := [
    stockRow "1" [stockCell "A1" "item" true, stockCell "B1" "" true, stockCell "D1" "unit" false,
      stockCell "E1" "price" true] true,
    stockRow "2" [] true,
    stockRow "5" [stockCell "A5" "rope" true, stockCell "C5" "m" false] false]

lemma isPlaced_stockCell (col : Nat) {reference : String} {row next : Nat}
    (hposition : CellReference.read? reference.toList = some (row, col)) {value : String}
    (hvalue : IsFilling (stockCell reference value false).content) {isImplied : Bool}
    (himplied : isImplied = true → col = next) :
    (stockCell reference value isImplied).IsPlaced row next col where
  before := ⟨rfl, rfl⟩
  name := by simp [stockCell]
  faultless := .written _ _
  position := namedPosition?_eq_some_iff.mpr ⟨reference, by simp [stockCell], hposition⟩
  content := hvalue
  eq_of_isImplied := himplied

lemma isPlaced_stockRow (row : Nat) {number : String} {next : Nat}
    (hnumber : readCount number.toList = .ok (row + 1)) {cells : List CellElement}
    (hcells : CellElement.ArePlaced row 0 cells) {isImplied : Bool}
    (himplied : isImplied = true → row = next) :
    (stockRow number cells isImplied).IsPlaced next row where
  before := ⟨rfl, rfl⟩
  name := by simp [stockRow]
  faultless := .written _ _
  number := namedRow?_eq_some_iff.mpr (Tag.count?_written List.lookup_cons_self hnumber)
  cells := hcells
  after := ⟨rfl, rfl⟩
  eq_of_isImplied := himplied

lemma isPlaced_stockWorksheet : stockWorksheet.IsPlaced where
  rows := by
    refine .cons (isPlaced_stockRow 0 rfl ?_ fun _ => rfl)
      (.cons (isPlaced_stockRow 1 rfl .nil fun _ => rfl)
        (.cons (isPlaced_stockRow 4 rfl ?_ (by simp)) .nil))
    · exact .cons (isPlaced_stockCell 0 (by decide) ⟨by decide, by decide⟩ fun _ => rfl)
        (.cons (isPlaced_stockCell 1 (by decide) ⟨rfl, rfl⟩ fun _ => rfl)
          (.cons (isPlaced_stockCell 3 (by decide) ⟨by decide, by decide⟩ (by simp))
            (.cons (isPlaced_stockCell 4 (by decide) ⟨by decide, by decide⟩ fun _ => rfl) .nil)))
    · exact .cons (isPlaced_stockCell 0 (by decide) ⟨by decide, by decide⟩ fun _ => rfl)
        (.cons (isPlaced_stockCell 2 (by decide) ⟨by decide, by decide⟩ (by simp)) .nil)
  after := ⟨rfl, rfl⟩

/-- The cells are put at their positions although most of them name none. -/
theorem WorksheetElement.readWorksheet_short_stock :
    stockWorksheet.IsPlaced ∧
    (readWorksheet ⟨"stock.xlsx", #[], #[]⟩ "Stock" { events := stockWorksheet.short.events }).map
        (·.cells.toList) =
      .ok [⟨0, 0, .text, "item"⟩, ⟨0, 3, .text, "unit"⟩, ⟨0, 4, .text, "price"⟩,
        ⟨4, 0, .text, "rope"⟩, ⟨4, 2, .text, "m"⟩] := by
  refine ⟨isPlaced_stockWorksheet, ?_⟩
  rw [WorksheetElement.readWorksheet_short isPlaced_stockWorksheet]
  decide +kernel

end DataDictionary.Workbook.OpenXml
