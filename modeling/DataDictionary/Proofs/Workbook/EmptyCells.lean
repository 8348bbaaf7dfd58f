import DataDictionary.Proofs.Workbook.StoredTexts

/-!
# Cells without a value

A cell without a value puts nothing on the sheet, but what follows it goes on from its position. So
such a cell can be put in front of one that names its own position, or at the end of its row,
without a change to the sheet. Only if it is said to have the number of a shared text, the reading
ends with an error.
-/

namespace DataDictionary.Workbook.OpenXml

open Markup Text

/-! ### Elements around a place -/

/-- The element is a cell, and nothing but filling stands in front of it. -/
structure CellElement.IsFormed (cell : CellElement) : Prop where
  before : IsFilling cell.before
  name : cell.tag.name.is "c" = true

/-- The element is a row of cells, and there is nothing but filling around these. -/
structure RowElement.IsFormed (row : RowElement) : Prop where
  before : IsFilling row.before
  name : row.tag.name.is "row" = true
  cells : ∀ cell ∈ row.cells, cell.IsFormed
  after : IsFilling row.after

/-- A place in a row of a worksheet, and what stands around it. -/
structure Place where
  above : List Event
  more : List CellElement := []
  after : List Event := []
  name : Name
  below : List RowElement := []
  last : List Event := []
  /-- Every text that begins in front of the place ends there. -/
  above_closed : (above.foldl Watch.step {}).collecting = none
  more_formed : ∀ cell ∈ more, cell.IsFormed
  after_filling : IsFilling after
  name_is : name.is "row" = true
  below_formed : ∀ row ∈ below, row.IsFormed
  last_filling : IsFilling last

namespace Place

/-- What follows the place. -/
def behind (place : Place) : List Event :=
  place.more.flatMap CellElement.events ++
    (place.after ++ .finish place.name :: (place.below.flatMap RowElement.events ++ place.last))

/-- The worksheet with cells at the place. -/
def worksheet (place : Place) (cells : List CellElement) : Document where
  events := place.above ++ (cells.flatMap CellElement.events ++ place.behind)

end Place

/-- A cell element without a value and a style. -/
structure CellElement.IsEmpty (cell : CellElement) (type reference : Option String) : Prop where
  before : cell.before = []
  name : cell.tag.name.is "c" = true
  type_eq : cell.tag.attribute? "t" = .ok type
  reference_eq : cell.tag.attribute? "r" = .ok reference
  style_eq : cell.tag.count? "s" = .ok none
  content : ∀ event ∈ cell.content, isBeside event = true

/-! ### A cell without a value -/

namespace Cursor

variable (context : Context) {cursor : Cursor}

lemma startCell_of_isEmpty {cell : CellElement} {type reference : Option String}
    (h : cell.IsEmpty type reference) :
    cursor.startCell context cell.tag =
      (cursor.referenceOf cell.tag).map (cursor.inCell · (kindOfType type)) := by
  have hkindOf : kindOf context cell.tag = .ok (kindOfType type) := by
    by_cases hkind : kindOfType type = .number
    · simp [kindOf, h.type_eq, h.style_eq, hkind, ofMarkup, bind, Except.bind]
    · simp [kindOf, h.type_eq, hkind, ofMarkup, bind, Except.bind]
  rw [startCell_eq, hkindOf]
  cases cursor.referenceOf cell.tag <;> rfl

lemma kindOfType_eq_sharedText_iff {type : Option String} :
    kindOfType type = .sharedText ↔ type = some "s" := by
  constructor
  · intro h
    rw [kindOfType.eq_def] at h
    split at h <;> first | rfl | cases h
  · rintro rfl
    rfl

/-- A cell that has no value at its end is not put on the sheet. -/
lemma endCell_inCell (reference : Option String) (kind : CellKind) :
    (cursor.inCell reference kind).endCell context =
      if kind = .sharedText then .error (.number .empty)
      else .ok (cursor.inCell reference .empty) := by
  by_cases hkind : kind = .sharedText
  · subst hkind
    rfl
  · simp [endCell, settled, inCell, hkind, bind, Except.bind]

end Cursor

/-- A cell without a value moves the reader to its position. -/
lemma CellElement.IsEmpty.foldlM_events {cell : CellElement} {type reference : Option String}
    (h : cell.IsEmpty type reference) (context : Context) {cursor : Cursor}
    (hcollecting : cursor.collecting = none) :
    cell.events.foldlM (Cursor.step context) cursor = (do
      let reference ← cursor.referenceOf cell.tag
      if type = some "s" then .error (.number .empty)
      else .ok (cursor.inCell reference .empty)) := by
  have hname := Name.eq_of_is h.name
  have hstart : cursor.step context (.start cell.tag) =
      (cursor.referenceOf cell.tag).map (cursor.inCell · (Cursor.kindOfType type)) := by
    rw [← Cursor.startCell_of_isEmpty context h, Cursor.step, hcollecting]
    simp [Cursor.stepOutside, hname]
  rw [CellElement.events, h.before, List.nil_append, foldlM_enclosed, hstart]
  cases cursor.referenceOf cell.tag with
  | error error => rfl
  | ok reference =>
    have hcontent : cell.content.foldlM (Cursor.step context)
        (cursor.inCell reference (Cursor.kindOfType type)) =
          .ok (cursor.inCell reference (Cursor.kindOfType type)) :=
      foldlM_passed fun event hevent =>
        Cursor.step_of_isBeside context hcollecting (h.content event hevent)
    have hfinish : (cursor.inCell reference (Cursor.kindOfType type)).step context
        (.finish cell.tag.name) =
          (cursor.inCell reference (Cursor.kindOfType type)).endCell context := by
      simp [Cursor.step, hcollecting, Cursor.stepOutside, hname]
    simp only [Except.map, bind, Except.bind, hcontent, hfinish, Cursor.endCell_inCell,
      Cursor.kindOfType_eq_sharedText_iff]

/-! ### Cursors that agree -/

lemma Cursor.foldlM_single {context : Context} {cursor : Cursor} {event : Event}
    (hcollecting : cursor.collecting = none) :
    [event].foldlM (step context) cursor = cursor.stepOutside context event := by
  rw [List.foldlM_cons, step, hcollecting]
  exact bind_pure _

/-- A cell begins alike where its position and all that it does not set are the same. -/
lemma Cursor.startCell_congr {context : Context} {tag : Tag} {c d : Cursor}
    (hsheet : c.sheet = d.sheet) (hnextRow : c.nextRow = d.nextRow)
    (hcollecting : c.collecting = d.collecting)
    (hposition : ∀ reference, tag.attribute? "r" = .ok reference →
      c.positionOf reference = d.positionOf reference) :
    c.startCell context tag = d.startCell context tag := by
  rw [startCell, startCell]
  cases hreference : tag.attribute? "r" with
  | error error => rfl
  | ok reference =>
    have hp := hposition reference hreference
    simp only [positionOf] at hp
    simp only [ofMarkup, bind, Except.bind, hp, hsheet, hnextRow, hcollecting]

/-- Two cursors have the same sheet and collect the same text, and their counters are related. -/
structure Agree (k : Counters → Counters → Prop) (c d : Cursor) : Prop where
  sheet_eq : c.sheet = d.sheet
  collecting_eq : c.collecting = d.collecting
  counters : k c.counters d.counters

/-- Two cursors outside the texts of cells agree. -/
def AgreeOutside (k : Counters → Counters → Prop) (c d : Cursor) : Prop :=
  Agree k c d ∧ c.collecting = none

/-- If the events can be read from one cursor, they can be read from any other one that is related
to it, and the cursors behind them are related. -/
def Carries (context : Context) (p q : Cursor → Cursor → Prop) (events : List Event) : Prop :=
  ∀ c d last, p c d → events.foldlM (Cursor.step context) c = .ok last →
    ∃ last', events.foldlM (Cursor.step context) d = .ok last' ∧ q last last'

/-- The sheet is the same. -/
def SameSheet (c d : Cursor) : Prop := c.sheet = d.sheet

/-- The next row is the same. -/
def SameNext (a b : Counters) : Prop := a.nextRow = b.nextRow

/-- The next row and the row are the same. -/
def SameRow (a b : Counters) : Prop := a.nextRow = b.nextRow ∧ a.row = b.row

/-- The next row, the row and the column of the next cell are the same. -/
def SamePlace (a b : Counters) : Prop :=
  a.nextRow = b.nextRow ∧ a.row = b.row ∧ a.nextCol = b.nextCol

section Carries

variable {context : Context} {k : Counters → Counters → Prop} {p q r : Cursor → Cursor → Prop}
  {a b events : List Event}

lemma Agree.stepOutside {event : Event} (hevent : isWithin event = true) {c d next : Cursor}
    (h : Agree k c d) (hstep : c.stepOutside context event = .ok next) :
    ∃ next', d.stepOutside context event = .ok next' ∧ Agree k next next' := by
  cases event with
  | start tag =>
    obtain ⟨hrow, hcell⟩ : tag.name.is "row" = false ∧ tag.name.is "c" = false := by
      simpa [isWithin] using hevent
    simp only [Cursor.stepOutside, hrow, hcell, Bool.false_eq_true, if_false] at hstep ⊢
    split at hstep
    · next hinline =>
      obtain rfl := Except.ok.inj hstep
      exact ⟨_, if_pos hinline, h.sheet_eq, rfl, h.counters⟩
    next hinline =>
    rw [if_neg hinline]
    split at hstep
    · next hvalue =>
      obtain rfl := Except.ok.inj hstep
      exact ⟨_, if_pos hvalue, h.sheet_eq, rfl, h.counters⟩
    · next hvalue =>
      obtain rfl := Except.ok.inj hstep
      exact ⟨_, if_neg hvalue, h⟩
  | finish name =>
    obtain ⟨hrow, hcell⟩ : name.is "row" = false ∧ name.is "c" = false := by
      simpa [isWithin] using hevent
    simp only [Cursor.stepOutside, hrow, hcell, Bool.false_eq_true, if_false] at hstep ⊢
    obtain rfl := Except.ok.inj hstep
    exact ⟨_, rfl, h⟩
  | _ =>
    obtain rfl := Except.ok.inj hstep
    exact ⟨_, rfl, h⟩

lemma Agree.step {event : Event} (hevent : isWithin event = true) {c d next : Cursor}
    (h : Agree k c d) (hstep : c.step context event = .ok next) :
    ∃ next', d.step context event = .ok next' ∧ Agree k next next' := by
  rw [Cursor.step] at hstep
  rw [Cursor.step, ← h.collecting_eq]
  split at hstep
  · exact h.stepOutside hevent hstep
  · next name item hcollecting =>
    -- The text that is being collected takes up the event in the same way.
    split at hstep
    · next hends =>
      obtain rfl := Except.ok.inj hstep
      exact ⟨_, if_pos hends, h.sheet_eq, rfl, h.counters⟩
    · next hends =>
      obtain ⟨item', hitem, rfl⟩ := map_eq_ok hstep
      refine ⟨{ d with collecting := some (name, item') }, ?_, h.sheet_eq, rfl, h.counters⟩
      rw [if_neg hends, hitem]
      rfl

namespace Carries

lemma append (h : Carries context p q a) (h' : Carries context q r b) :
    Carries context p r (a ++ b) := by
  intro c d last hcd hrun
  obtain ⟨next, hnext, hlast⟩ := foldlM_append_eq_ok hrun
  obtain ⟨next', hnext', hagree⟩ := h c d next hcd hnext
  obtain ⟨last', hlast', hend⟩ := h' next next' last hagree hlast
  refine ⟨last', ?_, hend⟩
  rw [List.foldlM_append, hnext']
  exact hlast'

/-- From the same cursor, everything is read as the same. -/
lemma of_eq : Carries context Eq SameSheet events := by
  rintro c _ last rfl hrun
  exact ⟨last, hrun, rfl⟩

lemma filling (h : IsFilling events) :
    Carries context (AgreeOutside k) (AgreeOutside k) events := by
  rintro c d last ⟨hagree, houtside⟩ hrun
  have hlast := (Cursor.kept_of_isFilling h houtside hrun).1
  have hwithin := h.within
  suffices hsuffices : ∃ last', events.foldlM (Cursor.step context) d = .ok last' ∧
      Agree k last last' by
    obtain ⟨last', hrun', hagree'⟩ := hsuffices
    exact ⟨last', hrun', hagree', hlast⟩
  clear h houtside hlast
  induction events generalizing c d with
  | nil =>
    obtain rfl := Except.ok.inj hrun
    exact ⟨d, rfl, hagree⟩
  | cons event events ih =>
    obtain ⟨hevent, hevents⟩ := Bool.and_eq_true_iff.mp (List.all_cons ▸ hwithin)
    rw [List.foldlM_cons] at hrun
    obtain ⟨next, hnext, hrun⟩ := bind_eq_ok hrun
    obtain ⟨next', hnext', hagree'⟩ := hagree.step hevent hnext
    obtain ⟨last', hlast', hend⟩ := ih _ _ hagree' hrun hevents
    refine ⟨last', ?_, hend⟩
    rw [List.foldlM_cons, hnext']
    exact hlast'

/-- A cell that stands at the same position for both cursors makes them the same. -/
lemma cell {cell : CellElement} (h : cell.IsFormed)
    (hplace : ∀ c d : Cursor, k c.counters d.counters → c.nextRow = d.nextRow ∧
      ∀ reference, cell.tag.attribute? "r" = .ok reference →
        c.positionOf reference = d.positionOf reference)
    (rest : List Event) : Carries context (AgreeOutside k) SameSheet (cell.events ++ rest) := by
  have hname := Name.eq_of_is h.name
  have hstart : Carries context (AgreeOutside k) Eq [.start cell.tag] := by
    rintro c d last ⟨hagree, houtside⟩ hrun
    have hstep (cursor : Cursor) (hcollecting : cursor.collecting = none) :
        [Event.start cell.tag].foldlM (Cursor.step context) cursor =
          cursor.startCell context cell.tag := by
      rw [Cursor.foldlM_single hcollecting]
      simp [Cursor.stepOutside, hname]
    rw [hstep c houtside] at hrun
    rw [hstep d (hagree.collecting_eq.symm.trans houtside)]
    obtain ⟨hnextRow, hposition⟩ := hplace c d hagree.counters
    exact ⟨last, (Cursor.startCell_congr hagree.sheet_eq hnextRow hagree.collecting_eq
      hposition).symm.trans hrun, rfl⟩
  have hevents : cell.events ++ rest =
      cell.before ++ ([.start cell.tag] ++ (cell.content ++ .finish cell.tag.name :: rest)) := by
    simp [CellElement.events]
  rw [hevents]
  exact (filling h.before).append (hstart.append of_eq)

/-- At the end of a row both cursors go on to the same row if they are in the same one. -/
lemma rowEnd {name : Name} (h : name.is "row" = true)
    (hrow : ∀ c d : Counters, k c d → c.row = d.row) :
    Carries context (AgreeOutside k) (AgreeOutside SameNext) [.finish name] := by
  rintro c d last ⟨hagree, houtside⟩ hrun
  have hstep (cursor : Cursor) (hcollecting : cursor.collecting = none) :
      [Event.finish name].foldlM (Cursor.step context) cursor = cursor.endRow := by
    rw [Cursor.foldlM_single hcollecting]
    simp [Cursor.stepOutside, Name.eq_of_is h]
  rw [hstep c houtside] at hrun
  obtain ⟨hlt, rfl⟩ := Cursor.endRow_eq_ok hrun
  have heq : c.row = d.row := hrow _ _ hagree.counters
  refine ⟨{ d with nextRow := d.row + 1 }, ?_, ⟨hagree.sheet_eq, hagree.collecting_eq,
    congrArg (· + 1) heq⟩, houtside⟩
  rw [hstep d (hagree.collecting_eq.symm.trans houtside)]
  exact Cursor.endRow_of_lt (heq ▸ hlt)

lemma rowStart {tag : Tag} (h : tag.name.is "row" = true) :
    Carries context (AgreeOutside SameNext) (AgreeOutside SamePlace) [.start tag] := by
  rintro c d last ⟨hagree, houtside⟩ hrun
  have hstep (cursor : Cursor) (hcollecting : cursor.collecting = none) :
      [Event.start tag].foldlM (Cursor.step context) cursor = cursor.startRow tag := by
    rw [Cursor.foldlM_single hcollecting]
    simp [Cursor.stepOutside, Name.eq_of_is h]
  rw [hstep c houtside] at hrun
  obtain ⟨number, hnumber, rfl⟩ := Cursor.startRow_eq_ok hrun
  have hnext : c.nextRow = d.nextRow := hagree.counters
  have hrow : c.rowOf number = d.rowOf number := by
    simp only [Cursor.rowOf, hnext]
  refine ⟨{ d with row := d.rowOf number, nextCol := 0 }, ?_, ⟨hagree.sheet_eq,
    hagree.collecting_eq, hnext, hrow, rfl⟩, houtside⟩
  rw [hstep d (hagree.collecting_eq.symm.trans houtside), Cursor.startRow, hnumber]
  rfl

/-- What follows the cells of a row leads to the same sheet, whether there are more cells or not. -/
lemma rows {rows : List RowElement} (h : ∀ row ∈ rows, row.IsFormed) {last : List Event}
    (hlast : IsFilling last) :
    Carries context (AgreeOutside SameNext) SameSheet
      (rows.flatMap RowElement.events ++ last) := by
  have hsheet : Carries context (AgreeOutside SameNext) SameSheet last := by
    intro c d final hcd hrun
    obtain ⟨final', hrun', hagree, -⟩ := filling hlast c d final hcd hrun
    exact ⟨final', hrun', hagree.sheet_eq⟩
  induction rows with
  | nil => exact hsheet
  | cons row rows ih =>
    rw [List.forall_mem_cons] at h
    have hbegin : Carries context (AgreeOutside SameNext) (AgreeOutside SamePlace)
        (row.before ++ [.start row.tag]) := (filling h.1.before).append (rowStart h.1.name)
    have hevents : (row :: rows).flatMap RowElement.events ++ last =
        row.before ++ [.start row.tag] ++ (row.cells.flatMap CellElement.events ++
          (row.after ++ ([.finish row.tag.name] ++ (rows.flatMap RowElement.events ++ last)))) := by
      simp [RowElement.events]
    rw [hevents]
    refine hbegin.append ?_
    cases hcells : row.cells with
    | nil =>
      have hend : Carries context (AgreeOutside SamePlace) (AgreeOutside SameNext)
          [.finish row.tag.name] := rowEnd h.1.name fun _ _ hplace => hplace.2.1
      exact (filling h.1.after).append (hend.append (ih h.2))
    | cons first cells =>
      have hfirst := h.1.cells first (hcells ▸ List.mem_cons_self ..)
      rw [List.flatMap_cons, List.append_assoc]
      refine cell hfirst (fun c d hplace => ⟨hplace.1, fun reference _ => ?_⟩) _
      have hrow : c.row = d.row := hplace.2.1
      have hcol : c.nextCol = d.nextCol := hplace.2.2
      rw [Cursor.positionOf, Cursor.positionOf, hrow, hcol]

end Carries

end Carries

/-! ### Worksheets with a cell more -/

lemma Cursor.positionOf_eq_of_named {tag : Tag} {position : Nat × Nat}
    (h : namedPosition? tag = some position) {reference : Option String}
    (hreference : tag.attribute? "r" = .ok reference) (c : Cursor) :
    c.positionOf reference = position := by
  obtain ⟨text, htext, hread⟩ := namedPosition?_eq_some_iff.mp h
  obtain rfl := Except.ok.inj (hreference.symm.trans htext)
  rw [positionOf, Option.bind_some, hread, Option.getD_some]

/-- Behind the place, the sheet is the same for a cursor that stands elsewhere, if the next cell
names its position, or if there is none and the cursor stands in the same row. -/
lemma Place.foldlM_behind (place : Place) {context : Context} {c d : Cursor}
    (hsheet : c.sheet = d.sheet) (hnextRow : c.nextRow = d.nextRow) (houtside : c.collecting = none)
    (houtside' : d.collecting = none)
    (hmore : ∀ cell ∈ place.more.head?, (namedPosition? cell.tag).isSome)
    (hrow : place.more = [] → c.row = d.row) {last : Cursor}
    (hrun : place.behind.foldlM (Cursor.step context) c = .ok last) :
    ∃ last', place.behind.foldlM (Cursor.step context) d = .ok last' ∧
      last.sheet = last'.sheet := by
  have hcollecting := houtside.trans houtside'.symm
  rw [behind] at hrun ⊢
  cases hcells : place.more with
  | nil =>
    have hend : Carries context (AgreeOutside SameRow) (AgreeOutside SameNext)
        [.finish place.name] := .rowEnd place.name_is fun _ _ hplace => hplace.2
    have hcarries := (Carries.filling place.after_filling).append
      (hend.append (.rows place.below_formed place.last_filling))
    rw [hcells] at hrun
    exact hcarries c d last ⟨⟨hsheet, hcollecting, hnextRow, hrow hcells⟩, houtside⟩ hrun
  | cons cell cells =>
    rw [hcells] at hrun hmore
    obtain ⟨position, hposition⟩ := Option.isSome_iff_exists.mp (hmore cell rfl)
    have hformed := place.more_formed cell (hcells ▸ List.mem_cons_self ..)
    rw [List.flatMap_cons, List.append_assoc] at hrun ⊢
    refine Carries.cell (k := SameNext) hformed
      (fun c d hnext => ⟨hnext, fun reference hreference => ?_⟩) _ c d last
      ⟨⟨hsheet, hcollecting, hnextRow⟩, houtside⟩ hrun
    rw [Cursor.positionOf_eq_of_named hposition hreference,
      Cursor.positionOf_eq_of_named hposition hreference]

/-- The reference of a cell that begins at the place. -/
def Place.referenceOf (place : Place) (context : Context) (title : String) (tag : Tag) :
    Except Error (Option String) := do
  let cursor ← place.above.foldlM (Cursor.step context) { sheet := .new context.file title }
  cursor.referenceOf tag

/-- Where a worksheet is read, it is also read with a cell more that has no value, and as the same
sheet, if the next cell in the row names its position, or if there is none and the new one does not
stand in another row than the one before it. But a cell that is said to have the number of a shared
text ends the reading, as an empty text is no number, and so does one that cannot begin, as there is
no column behind it. -/
theorem Place.readWorksheet_empty (place : Place) {cell : CellElement}
    {type reference : Option String} (hcell : cell.IsEmpty type reference) {context : Context}
    {title : String} {sheet : Sheet}
    (hread : readWorksheet context title (place.worksheet []) = .ok sheet)
    (hmore : ∀ next ∈ place.more.head?, (namedPosition? next.tag).isSome)
    (hrow : place.more = [] → ∀ cursor : Cursor,
      place.above.foldlM (Cursor.step context) { sheet := .new context.file title } = .ok cursor →
        (cursor.positionOf reference).1 = cursor.row) :
    readWorksheet context title (place.worksheet [cell]) = (do
      let _ ← place.referenceOf context title cell.tag
      if type = some "s" then .error (.number .empty) else .ok sheet) := by
  rw [readWorksheet] at hread
  obtain ⟨last, hlast, rfl⟩ := map_eq_ok hread
  obtain ⟨hrun, -⟩ := foldDocument_eq_ok hlast
  obtain ⟨cursor, habove, hbehind⟩ := foldlM_append_eq_ok hrun
  have houtside : cursor.collecting = none :=
    Cursor.collecting_eq_none place.above_closed rfl habove
  have hcells := hcell.foldlM_events context houtside
  have hfold : (place.worksheet [cell]).events.foldlM (Cursor.step context)
      { sheet := .new context.file title } = (do
        let moved ← cell.events.foldlM (Cursor.step context) cursor
        place.behind.foldlM (Cursor.step context) moved) := by
    rw [worksheet, List.foldlM_append, habove, List.flatMap_cons, List.flatMap_nil,
      List.append_nil]
    exact List.foldlM_append
  rw [readWorksheet, foldDocument, hfold, hcells, Place.referenceOf, habove]
  simp only [bind, Except.bind]
  cases hbegun : cursor.referenceOf cell.tag with
  | error error => rfl
  | ok other =>
    obtain rfl := Except.ok.inj ((Cursor.referenceOf_eq_ok hbegun).1.symm.trans hcell.reference_eq)
    by_cases htype : type = some "s"
    · simp only [if_pos htype]
      rfl
    · obtain ⟨last', hlast', hsheet⟩ := place.foldlM_behind (c := cursor)
        (d := cursor.inCell other .empty) rfl rfl houtside houtside hmore
        (fun hnil => (hrow hnil cursor habove).symm) hbehind
      simp only [if_neg htype, hlast', hsheet]
      rfl

/-! ### A worksheet with an empty cell -/

/-- A written cell without a value. -/
def emptyCell (reference type : String) : CellElement where
  tag := .written "c" [("r", reference), ("t", type)]

lemma isEmpty_emptyCell (reference type : String) :
    (emptyCell reference type).IsEmpty (some type) (some reference) where
  before := rfl
  name := by simp [emptyCell]
  type_eq := by simp [emptyCell, List.lookup_cons]
  reference_eq := by simp [emptyCell]
  style_eq := Tag.count?_written_none (by simp [List.lookup_cons])
  content := by simp [emptyCell]

lemma isFormed_stockCell (reference value : String) (isImplied : Bool) :
    (stockCell reference value isImplied).IsFormed where
  before := ⟨rfl, rfl⟩
  name := by simp [stockCell]

/-- A place between two cells of a row, with a row below that names no positions. -/
def stockPlace : Place where
  above := .start (.written "row" [("r", "1")]) :: (stockCell "A1" "item" false).events
  more := [stockCell "C1" "unit" false]
  name := ⟨bytesOf "row"⟩
  below := [{
    tag := .written "row" []
    cells := [(stockCell "A2" "rope" true).short] }]
  above_closed := by decide
  more_formed := List.forall_mem_singleton.mpr (isFormed_stockCell _ _ _)
  after_filling := ⟨rfl, rfl⟩
  name_is := by simp
  below_formed := by
    have hcell : (stockCell "A2" "rope" true).short.IsFormed :=
      ⟨⟨rfl, rfl⟩, by simp [CellElement.short, stockCell, name_shortTag]⟩
    refine List.forall_mem_singleton.mpr ⟨⟨rfl, rfl⟩, by simp, ?_, ⟨rfl, rfl⟩⟩
    exact List.forall_mem_singleton.mpr hcell
  last_filling := ⟨rfl, rfl⟩

theorem Place.readWorksheet_empty_stock :
    ∃ sheet, readWorksheet ⟨"stock.xlsx", #[], #[]⟩ "Stock" (stockPlace.worksheet []) = .ok sheet ∧
      sheet.cells.toList =
        [⟨0, 0, .text, "item"⟩, ⟨0, 2, .text, "unit"⟩, ⟨1, 0, .text, "rope"⟩] ∧
      (emptyCell "B1" "b").IsEmpty (some "b") (some "B1") ∧
      (∀ next ∈ stockPlace.more.head?, (namedPosition? next.tag).isSome) ∧
      readWorksheet ⟨"stock.xlsx", #[], #[]⟩ "Stock"
        (stockPlace.worksheet [emptyCell "B1" "b"]) = .ok sheet ∧
      readWorksheet ⟨"stock.xlsx", #[], #[]⟩ "Stock"
        (stockPlace.worksheet [emptyCell "B1" "s"]) = .error (.number .empty) := by
  have hcells : (readWorksheet ⟨"stock.xlsx", #[], #[]⟩ "Stock" (stockPlace.worksheet [])).map
      (·.cells.toList) =
        .ok [⟨0, 0, .text, "item"⟩, ⟨0, 2, .text, "unit"⟩, ⟨1, 0, .text, "rope"⟩] := by
    decide +kernel
  obtain ⟨sheet, hread, hsheet⟩ := map_eq_ok hcells
  have hmore : ∀ next ∈ stockPlace.more.head?, (namedPosition? next.tag).isSome := by
    rintro _ ⟨⟩
    decide +kernel
  have hreads (type : String) := stockPlace.readWorksheet_empty (isEmpty_emptyCell "B1" type) hread
    hmore fun hnil => absurd hnil (by simp [stockPlace])
  have hbegun (type : String) (htype : type = "b" ∨ type = "s") :
      stockPlace.referenceOf ⟨"stock.xlsx", #[], #[]⟩ "Stock" (emptyCell "B1" type).tag =
        .ok (some "B1") := by
    rcases htype with rfl | rfl <;> decide +kernel
  have hflag := hreads "b"
  have hshared := hreads "s"
  rw [hbegun "b" (.inl rfl)] at hflag
  rw [hbegun "s" (.inr rfl)] at hshared
  exact ⟨sheet, hread, hsheet, isEmpty_emptyCell "B1" "b", hmore, hflag, hshared⟩

/-- The cells that are read of a worksheet. -/
def cellsOf (rows : String) : Except Error (Array Cell) :=
  (readWorksheet ⟨"stock.xlsx", #[], #[]⟩ "Units"
    (Document.ofBytes (bytesOf ("<sheetData>" ++ rows ++ "</sheetData>")))).map (·.cells)

/-- A cell without a value ends the reading, or moves the row that follows its own, if its type is
that of shared texts, or if a cell before it names another row. -/
theorem cellsOf_emptyCell :
    cellsOf "<row><c t=\"str\"><v>unit</v></c></row>" = .ok #[⟨0, 0, .text, "unit"⟩] ∧
    cellsOf "<row><c t=\"str\"><v>unit</v></c><c t=\"s\"/></row>" = .error (.number .empty) ∧
    cellsOf ("<row r=\"1\"><c r=\"A5\" t=\"str\"><v>x</v></c></row>" ++
      "<row><c t=\"str\"><v>y</v></c></row>") =
        .ok #[⟨4, 0, .text, "x"⟩, ⟨5, 0, .text, "y"⟩] ∧
    cellsOf ("<row r=\"1\"><c r=\"A5\" t=\"str\"><v>x</v></c><c r=\"B1\"/></row>" ++
      "<row><c t=\"str\"><v>y</v></c></row>") =
        .ok #[⟨4, 0, .text, "x"⟩, ⟨1, 0, .text, "y"⟩] := by
  refine ⟨?_, ?_, ?_, ?_⟩ <;> decide +kernel

end DataDictionary.Workbook.OpenXml
