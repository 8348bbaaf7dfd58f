import DataDictionary.Proofs.CellReference
import DataDictionary.Proofs.Layout
import DataDictionary.Proofs.Markup.Written
import DataDictionary.Proofs.Workbook.Rectangle
import DataDictionary.Proofs.Workbook.Steps

/-!
# Counters of rows and columns

Rows and columns are words. The counters of a table stop at the last word, and the positions of a
repeated cell lie within a sheet. The counters of a worksheet go on from the largest number that it
names by one at a time, and the first data row lies behind the headers. Behind the last word there
is nothing to go on to: a worksheet that comes there, and a layout with its headers there, give no
result.
-/

namespace DataDictionary.Workbook

open Markup Text

/-! ### Worksheets -/

namespace OpenXml

namespace Counters

/-- Every counter is at most a bound. -/
structure Within (counters : Counters) (bound : Nat) : Prop where
  nextRow_le : counters.nextRow ≤ bound
  nextCol_le : counters.nextCol ≤ bound
  row_le : counters.row ≤ bound
  col_le : counters.col ≤ bound

lemma Within.mono {counters : Counters} {a b : Nat} (h : counters.Within a) (hab : a ≤ b) :
    counters.Within b where
  nextRow_le := h.nextRow_le.trans hab
  nextCol_le := h.nextCol_le.trans hab
  row_le := h.row_le.trans hab
  col_le := h.col_le.trans hab

end Counters

/-- The row that a tag names, as far as it names one. -/
def namedRow? (tag : Tag) : Option Nat :=
  match tag.count? "r" with
  | .ok (some (n + 1)) => some n
  | _ => none

/-- The position that a tag names, as far as it names one. -/
def namedPosition? (tag : Tag) : Option (Nat × Nat) :=
  (tag.attribute? "r").toOption.join.bind fun r => CellReference.read? r.toList

lemma namedRow?_eq_some_iff {tag : Tag} {row : Nat} :
    namedRow? tag = some row ↔ tag.count? "r" = .ok (some (row + 1)) := by
  rw [namedRow?]
  split
  · next n hcount => simp [hcount]
  · next hcount =>
    simp only [reduceCtorEq, false_iff]
    exact hcount row

lemma succ_lt_of_namedRow? {tag : Tag} {row : Nat} (h : namedRow? tag = some row) :
    row + 1 < wordLimit := by
  rw [namedRow?_eq_some_iff, Tag.count?] at h
  split at h
  · cases h
  · cases h
  · split at h
    · next hread =>
      obtain rfl := Option.some.inj (Except.ok.inj h)
      exact lt_of_readCount hread
    · cases h

lemma namedPosition?_eq_some_iff {tag : Tag} {row col : Nat} :
    namedPosition? tag = some (row, col) ↔
      ∃ text, tag.attribute? "r" = .ok (some text) ∧
        CellReference.read? text.toList = some (row, col) := by
  rw [namedPosition?]
  cases tag.attribute? "r" with
  | error error => simp [Except.toOption]
  | ok text? => cases text? <;> simp [Except.toOption]

lemma succ_lt_of_namedPosition? {tag : Tag} {row col : Nat}
    (h : namedPosition? tag = some (row, col)) : row + 1 < wordLimit ∧ col + 1 < wordLimit := by
  obtain ⟨text, -, hread⟩ := namedPosition?_eq_some_iff.mp h
  obtain ⟨spelling, -, -, -, hrow, hcol⟩ := CellReference.exists_spelling_of_read? hread
  exact ⟨hrow, hcol⟩

/-- An event names no row and no position beyond a limit. -/
def namesUpTo (limit : Nat) : Event → Bool
  | .start tag =>
    (namedRow? tag).all (· ≤ limit) &&
      (namedPosition? tag).all fun (row, col) => row ≤ limit && col ≤ limit
  | _ => true

/-- What is named is a word. -/
lemma namesUpTo_lastWord (event : Event) : namesUpTo (wordLimit - 1) event = true := by
  cases event with
  | start tag =>
    simp only [namesUpTo, Option.all_eq_true, Bool.and_eq_true, decide_eq_true_eq, Prod.forall]
    refine ⟨fun row hrow => ?_, fun row col hposition => ?_⟩
    · have hlt := succ_lt_of_namedRow? hrow
      omega
    · have hlt := succ_lt_of_namedPosition? hposition
      omega
  | _ => rfl

namespace Cursor

variable {context : Context} {cursor next : Cursor} {limit bound behind : Nat}

lemma rowOf_le {tag : Tag} {number : Option Nat} (hnames : namesUpTo limit (.start tag) = true)
    (hnumber : tag.count? "r" = .ok number) (hcursor : cursor.counters.Within bound)
    (hlimit : limit ≤ bound) : cursor.rowOf number ≤ bound := by
  rw [rowOf.eq_def]
  split
  · next n =>
    obtain ⟨hrow, -⟩ := Bool.and_eq_true_iff.mp hnames
    rw [namedRow?, hnumber] at hrow
    exact (of_decide_eq_true hrow).trans hlimit
  · exact hcursor.nextRow_le

lemma positionOf_le {tag : Tag} {reference : Option String}
    (hnames : namesUpTo limit (.start tag) = true)
    (hreference : tag.attribute? "r" = .ok reference) (hcursor : cursor.counters.Within bound)
    (hlimit : limit ≤ bound) :
    (cursor.positionOf reference).1 ≤ bound ∧ (cursor.positionOf reference).2 ≤ bound := by
  rw [positionOf]
  cases hposition : reference.bind fun r => CellReference.read? r.toList with
  | none => exact ⟨hcursor.row_le, hcursor.nextCol_le⟩
  | some position =>
    obtain ⟨-, hnamed⟩ := Bool.and_eq_true_iff.mp hnames
    have hsome : namedPosition? tag = some position := by
      rw [namedPosition?, hreference]
      exact hposition
    rw [hsome] at hnamed
    obtain ⟨hrow, hcol⟩ := Bool.and_eq_true_iff.mp hnamed
    exact ⟨(of_decide_eq_true hrow).trans hlimit, (of_decide_eq_true hcol).trans hlimit⟩

/-! #### Steps -/

/-- A step takes counters to what is named, to what they are, and to the words behind these. -/
lemma within_takes {event : Event} (h : cursor.Takes event next)
    (hnames : namesUpTo limit event = true) (hcursor : cursor.counters.Within bound)
    (hlimit : limit ≤ bound) (hle : bound ≤ behind)
    (hbehind : ∀ n ≤ bound, n + 1 < wordLimit → n + 1 ≤ behind) :
    next.counters.Within behind := by
  have hbound := hcursor.mono hle
  cases h with
  | stay hcounters _ | endCell _ _ hcounters _ =>
    rw [hcounters]
    exact hbound
  | startRow _ hnumber hcounters _ =>
    rw [hcounters]
    have hrow := rowOf_le hnames hnumber hcursor hlimit
    exact { hbound with nextCol_le := Nat.zero_le _, row_le := hrow.trans hle }
  | endRow hlt hcounters _ =>
    rw [hcounters]
    exact { hbound with nextRow_le := hbehind _ hcursor.row_le hlt }
  | startCell _ hreference hlt hcounters _ =>
    rw [hcounters]
    obtain ⟨hrow, hcol⟩ := positionOf_le hnames hreference hcursor hlimit
    exact { hbound with
      nextCol_le := hbehind _ hcol hlt
      row_le := hrow.trans hle
      col_le := hcol.trans hle }

/-- The event asks for the row or the column behind the last one that a word tells: a row ends, or a
cell begins. -/
inductive Overflows (cursor : Cursor) : Event → Prop
  | row {name : Name} (outside : cursor.collecting = none) (name_is : name.is "row" = true)
      (last : ¬cursor.row + 1 < wordLimit) : Overflows cursor (.finish name)
  | cell {tag : Tag} {reference : Option String} (outside : cursor.collecting = none)
      (name_is : tag.name.is "c" = true) (reference_eq : tag.attribute? "r" = .ok reference)
      (last : ¬(cursor.positionOf reference).2 + 1 < wordLimit) : Overflows cursor (.start tag)

lemma startRow_ne_overflow (tag : Tag) : cursor.startRow tag ≠ .error .overflow :=
  bind_ne_error (ofMarkup_ne_overflow _) fun _ => by simp

lemma endRow_eq_overflow_iff :
    cursor.endRow = .error .overflow ↔ ¬cursor.row + 1 < wordLimit := by
  rw [Cursor.endRow]
  by_cases hlt : cursor.row + 1 < wordLimit
  · simp [following_of_lt hlt, hlt, bind, Except.bind]
  · simp [following_of_not_lt hlt, hlt, bind, Except.bind]

lemma kindOf_ne_overflow (tag : Tag) : kindOf context tag ≠ .error .overflow := by
  refine bind_ne_error (ofMarkup_ne_overflow _) fun type => ?_
  split
  · exact bind_ne_error (ofMarkup_ne_overflow _) fun style => by simp
  · simp

lemma referenceOf_eq_overflow_iff {tag : Tag} :
    cursor.referenceOf tag = .error .overflow ↔
      ∃ reference, tag.attribute? "r" = .ok reference ∧
        ¬(cursor.positionOf reference).2 + 1 < wordLimit := by
  rw [referenceOf]
  cases tag.attribute? "r" with
  | error error => simp [ofMarkup, bind, Except.bind]
  | ok reference =>
    simp only [Except.ok.injEq, exists_eq_left', ofMarkup, bind, Except.bind]
    by_cases hlt : (cursor.positionOf reference).2 + 1 < wordLimit
    · simp [following_of_lt hlt, hlt]
    · simp [following_of_not_lt hlt, hlt]

lemma startCell_eq_overflow_iff {tag : Tag} :
    cursor.startCell context tag = .error .overflow ↔
      ∃ reference, tag.attribute? "r" = .ok reference ∧
        ¬(cursor.positionOf reference).2 + 1 < wordLimit := by
  rw [← referenceOf_eq_overflow_iff, startCell_eq]
  cases cursor.referenceOf tag with
  | error error => simp [bind, Except.bind]
  | ok reference =>
    have hkind : (do
        let kind ← kindOf context tag
        Except.ok (cursor.inCell reference kind)) ≠ .error .overflow :=
      bind_ne_error (kindOf_ne_overflow tag) fun kind => by simp
    exact iff_of_false hkind (by simp)

lemma endCell_ne_overflow : cursor.endCell context ≠ .error .overflow := by
  refine bind_ne_error ?_ fun (kind, value) => ?_
  · rw [settled]
    split
    · split
      · simp
      · split <;> simp
    · simp
  · dsimp only
    split <;> simp

lemma append_ne_overflow (item : ItemText) (content : Except Markup.Error String) :
    item.append content ≠ .error .overflow := by
  rw [ItemText.append]
  split
  · exact goOn_ne_overflow _ _
  · simp

lemma itemStep_ne_overflow (item : ItemText) (event : Event) :
    item.step event ≠ .error .overflow := by
  cases event with
  | start tag | finish name =>
    rw [ItemText.step]
    split
    · simp
    · split <;> simp
  | text s | cdata s | reference name => exact append_ne_overflow item _
  | _ => simp [ItemText.step]

lemma stepOutside_eq_overflow_iff (houtside : cursor.collecting = none) {event : Event} :
    cursor.stepOutside context event = .error .overflow ↔ cursor.Overflows event := by
  constructor
  · intro h
    cases event with
    | start tag =>
      rw [stepOutside] at h
      split at h
      · exact absurd h (startRow_ne_overflow tag)
      split at h
      · next hname =>
        obtain ⟨reference, hreference, hlast⟩ := startCell_eq_overflow_iff.mp h
        exact .cell houtside hname hreference hlast
      split at h
      · exact absurd h (by simp)
      · split at h <;> exact absurd h (by simp)
    | finish name =>
      rw [stepOutside] at h
      split at h
      · next hname => exact .row houtside hname (endRow_eq_overflow_iff.mp h)
      split at h
      · exact absurd h endCell_ne_overflow
      · exact absurd h (by simp)
    | _ => exact absurd h (by simp [stepOutside])
  · intro h
    cases h with
    | row _ hname hlast =>
      rw [stepOutside, if_pos hname]
      exact endRow_eq_overflow_iff.mpr hlast
    | cell _ hname hreference hlast =>
      have hrow := is_eq_false (t := "row") hname (by decide)
      rw [stepOutside, if_neg (by simp [hrow]), if_pos hname]
      exact startCell_eq_overflow_iff.mpr ⟨_, hreference, hlast⟩

/-- A step overflows where there is no row or no column to go on to, and nowhere else. -/
theorem step_eq_overflow_iff {event : Event} :
    cursor.step context event = .error .overflow ↔ cursor.Overflows event := by
  rw [step]
  split
  · next houtside => exact stepOutside_eq_overflow_iff houtside
  · next name item hcollecting =>
    refine iff_of_false ?_ ?_
    · split
      · simp
      · intro h
        cases hitem : item.step event with
        | error error =>
          rw [hitem] at h
          obtain rfl := Except.error.inj h
          exact itemStep_ne_overflow item event hitem
        | ok item =>
          rw [hitem] at h
          exact absurd h (by simp [Except.map])
    · rintro (⟨houtside, -, -⟩ | ⟨houtside, -, -, -⟩) <;>
      · rw [hcollecting] at houtside
        exact absurd houtside (by simp)

/-! #### Runs -/

/-- A run counts on by at most one for each event. -/
lemma within_foldlM {events : List Event} (hnames : ∀ event ∈ events, namesUpTo limit event = true)
    (hcursor : cursor.counters.Within bound) (hlimit : limit ≤ bound)
    (h : events.foldlM (step context) cursor = .ok next) :
    next.counters.Within (bound + events.length) := by
  induction events generalizing cursor bound with
  | nil =>
    obtain rfl := Except.ok.inj h
    exact hcursor
  | cons event events ih =>
    rw [List.foldlM_cons] at h
    obtain ⟨middle, hmiddle, hnext⟩ := bind_eq_ok h
    obtain ⟨hevent, hevents⟩ := List.forall_mem_cons.mp hnames
    have hstep := within_takes (takes_of_step hmiddle) hevent hcursor hlimit (Nat.le_succ bound)
      fun n hn _ => Nat.succ_le_succ hn
    have hrun := ih hevents hstep (Nat.le_succ_of_le hlimit) hnext
    rwa [List.length_cons, Nat.add_comm events.length 1, ← Nat.add_assoc]

/-- Whatever is named, counters that are reached are words. -/
lemma within_lastWord_foldlM {events : List Event}
    (hcursor : cursor.counters.Within (wordLimit - 1))
    (h : events.foldlM (step context) cursor = .ok next) :
    next.counters.Within (wordLimit - 1) := by
  refine foldlM_of_step
    (R := fun a b : Cursor => a.counters.Within (wordLimit - 1) → b.counters.Within (wordLimit - 1))
    (fun _ hwithin => hwithin) (fun _ _ _ hst htu hs => htu (hst hs)) ?_ h hcursor
  intro cursor event next hstep hwithin
  refine within_takes (takes_of_step hstep) (namesUpTo_lastWord event) hwithin (Nat.le_refl _)
    (Nat.le_refl _) ?_
  intro n _ hlt
  omega

/-- A run does not overflow as long as there is room for its events behind what they name. -/
lemma foldlM_ne_overflow {events : List Event}
    (hnames : ∀ event ∈ events, namesUpTo limit event = true)
    (hcursor : cursor.counters.Within limit) (hroom : limit + events.length < wordLimit) :
    events.foldlM (step context) cursor ≠ .error .overflow := by
  intro h
  obtain ⟨before, event, behind, middle, rfl, hbefore, hlast⟩ := foldlM_eq_error_iff.mp h
  have hmiddle := within_foldlM (fun event hevent => hnames event (List.mem_append_left _ hevent))
    hcursor (Nat.le_refl limit) hbefore
  rw [List.length_append, List.length_cons] at hroom
  cases step_eq_overflow_iff.mp hlast with
  | row _ _ hrow =>
    have hle := hmiddle.row_le
    change middle.row ≤ _ at hle
    omega
  | cell _ _ hreference hcol =>
    have hevent := hnames _ (List.mem_append_right _ (List.mem_cons_self ..))
    obtain ⟨-, hle⟩ := positionOf_le hevent hreference hmiddle (Nat.le_add_right ..)
    omega

end Cursor

end OpenXml

/-! ### Tables -/

namespace OpenDocument

/-- The position of a cursor is one of words. -/
def Cursor.InRange (cursor : Cursor) : Prop := cursor.row < wordLimit ∧ cursor.col < wordLimit

lemma saturatingAdd_lt (a b : Nat) : saturatingAdd a b < wordLimit := by
  have hpos : 0 < wordLimit := by decide
  rw [saturatingAdd]
  omega

lemma Cursor.inRange_takes {cursor next : Cursor} {event : Event} (h : cursor.Takes event next)
    (hcursor : cursor.InRange) : next.InRange := by
  obtain ⟨hrow, hcol⟩ := hcursor
  cases h with
  | stay hrow' hcol' _ =>
    rw [Cursor.InRange, hrow', hcol']
    exact ⟨hrow, hcol⟩
  | startRow hrow' hcol' _ =>
    rw [Cursor.InRange, hrow', hcol']
    exact ⟨hrow, by decide⟩
  | endRow hrow' hcol' _ =>
    rw [Cursor.InRange, hrow', hcol']
    exact ⟨saturatingAdd_lt _ _, hcol⟩
  | endCell hrow' hcol' _ =>
    rw [Cursor.InRange, hrow', hcol']
    exact ⟨hrow, saturatingAdd_lt _ _⟩

lemma Cursor.inRange_foldlM {cursor next : Cursor} {events : List Event}
    (h : events.foldlM Cursor.step cursor = .ok next) : cursor.InRange → next.InRange := by
  refine foldlM_of_step (R := fun a b : Cursor => a.InRange → b.InRange) ?_ ?_ ?_ h
  · exact fun _ hrange => hrange
  · exact fun _ _ _ hst htu hs => htu (hst hs)
  · exact fun _ _ _ hstep => inRange_takes (takes_of_step hstep)

end OpenDocument

/-! ### All counters -/

/-- What the counters come to. Those of a worksheet are words in every state that is reached, and a
run breaks off exactly where it asks for the row or the column behind the last word; that does not
happen as long as the largest number that is named and the number of events leave room for it.
Those of a table are words at any time, and its cells lie within a sheet. The records of a layout
are read if there is a row behind the headers, and they stand behind these. -/
theorem counters_in_range (sheet : Sheet) (events : List Event) (layout : Layout) :
    (∀ (context : OpenXml.Context) (cursor : OpenXml.Cursor),
      events.foldlM (OpenXml.Cursor.step context) { sheet } = .ok cursor →
      cursor.nextRow < wordLimit ∧ cursor.nextCol < wordLimit ∧
      cursor.row < wordLimit ∧ cursor.col < wordLimit) ∧
    (∀ context : OpenXml.Context,
      events.foldlM (OpenXml.Cursor.step context) { sheet } = .error .overflow ↔
      ∃ before event behind cursor, events = before ++ event :: behind ∧
        before.foldlM (OpenXml.Cursor.step context) { sheet } = .ok cursor ∧
        cursor.Overflows event) ∧
    (∀ (context : OpenXml.Context) (limit : Nat),
      (∀ event ∈ events, OpenXml.namesUpTo limit event = true) →
      limit + events.length < wordLimit →
      events.foldlM (OpenXml.Cursor.step context) { sheet } ≠ .error .overflow) ∧
    (∀ cursor : OpenDocument.Cursor,
      events.foldlM OpenDocument.Cursor.step { sheet } = .ok cursor →
      cursor.row < wordLimit ∧ cursor.col < wordLimit ∧
      ∀ cell ∈ cursor.cells, (cursor.row ≤ cell.row ∧ cell.row < OpenDocument.maxRows) ∧
        cursor.col ≤ cell.col ∧ cell.col < OpenDocument.maxCols) ∧
    ((∃ records, layout.records? sheet = some records) ↔ layout.headerRow + 1 < wordLimit) ∧
    (∀ records, layout.records? sheet = some records →
      ∀ record ∈ records, layout.headerRow < layout.firstRow ∧ layout.firstRow ≤ record.row) := by
  have hlast : 0 < wordLimit := by decide
  have hstart (bound : Nat) : (OpenXml.Cursor.counters { sheet }).Within bound :=
    ⟨Nat.zero_le _, Nat.zero_le _, Nat.zero_le _, Nat.zero_le _⟩
  refine ⟨?_, ?_, ?_, ?_, ?_, ?_⟩
  · intro context cursor h
    obtain ⟨hnextRow, hnextCol, hrow, hcol⟩ :=
      OpenXml.Cursor.within_lastWord_foldlM (hstart _) h
    exact ⟨Nat.lt_of_le_pred hlast hnextRow, Nat.lt_of_le_pred hlast hnextCol,
      Nat.lt_of_le_pred hlast hrow, Nat.lt_of_le_pred hlast hcol⟩
  · intro context
    simp only [foldlM_eq_error_iff, OpenXml.Cursor.step_eq_overflow_iff]
  · intro context limit hnames hroom
    exact OpenXml.Cursor.foldlM_ne_overflow hnames (hstart limit) hroom
  · intro cursor h
    have hstart : OpenDocument.Cursor.InRange { sheet } := ⟨hlast, hlast⟩
    obtain ⟨hrow, hcol⟩ := OpenDocument.Cursor.inRange_foldlM h hstart
    refine ⟨hrow, hcol, ?_⟩
    intro cell hcell
    rw [OpenDocument.Cursor.cells] at hcell
    split at hcell
    · exact absurd hcell List.not_mem_nil
    · obtain ⟨position, hposition, rfl⟩ := List.mem_map.mp hcell
      exact OpenDocument.repeatedPositions_lt hposition
  · simp [Layout.records?_eq_some_iff]
  · intro records hread record hrecord
    obtain ⟨-, rfl⟩ := Layout.records?_eq_some_iff.mp hread
    exact ⟨layout.headerRow_lt_firstRow, Layout.firstRow_le_of_mem_records hrecord⟩

/-- The beginning of a worksheet: a cell that names its position, and one in the row behind it. -/
def priceRows : List Event := [
  .start (.written "row" [("r", "5")]), .start (.written "c" [("r", "B5")]),
  .finish ⟨bytesOf "c"⟩, .finish ⟨bytesOf "row"⟩, .start (.written "row" []),
  .start (.written "c" [])]

/-- The beginning of a table: a row that is repeated, and a cell that is repeated in the next. -/
def priceTable : List Event := [
  .start (.written "table:table-row" [("table:number-rows-repeated", "18446744073709551615")]),
  .finish ⟨bytesOf "table:table-row"⟩, .start (.written "table:table-row" []),
  .start (.written "table:table-cell" [("table:number-columns-repeated", "3")]),
  .finish ⟨bytesOf "table:table-cell"⟩]

/-- What cells refer to in a workbook without shared texts and styles. -/
def plain : OpenXml.Context := ⟨"prices.xlsx", #[], #[]⟩

lemma exists_of_isOk {α : Type} {x : Except Error α} (h : x.isOk = true) : ∃ value, x = .ok value := by
  cases x with
  | error error => exact absurd h (by simp [Except.isOk, Except.toBool])
  | ok value => exact ⟨value, rfl⟩

/-- A sheet with its header in the second row, and a record in the third. -/
def priceRecords : Sheet := (Sheet.new "prices.ods" "Prices").pushAll [
  ⟨1, 0, .text, "Column"⟩, ⟨2, 0, .text, "net"⟩]

theorem counters_in_range_prices :
    (∀ event ∈ priceRows, OpenXml.namesUpTo 4 event = true) ∧ 4 + priceRows.length < wordLimit ∧
    priceRows.foldlM (OpenXml.Cursor.step plain) { sheet := priceRecords } ≠ .error .overflow ∧
    (∃ cursor : OpenXml.Cursor,
      priceRows.foldlM (OpenXml.Cursor.step plain) { sheet := priceRecords } = .ok cursor ∧
      cursor.nextRow < wordLimit ∧ cursor.nextCol < wordLimit ∧
      cursor.row < wordLimit ∧ cursor.col < wordLimit) ∧
    (∃ cursor : OpenDocument.Cursor,
      priceTable.foldlM OpenDocument.Cursor.step { sheet := priceRecords } = .ok cursor ∧
      cursor.row < wordLimit ∧ cursor.col < wordLimit) ∧
    ∃ records, ({} : Layout).records? priceRecords = some records ∧
      ∀ record ∈ records, ({} : Layout).headerRow < ({} : Layout).firstRow ∧
        ({} : Layout).firstRow ≤ record.row := by
  obtain ⟨hwords, -, hroom, -, hread, hbehind⟩ := counters_in_range priceRecords priceRows {}
  obtain ⟨-, -, -, htable, -, -⟩ := counters_in_range priceRecords priceTable {}
  have hnames : ∀ event ∈ priceRows, OpenXml.namesUpTo 4 event = true := by decide +kernel
  have hlength : 4 + priceRows.length < wordLimit := by decide
  obtain ⟨cursor, hcursor⟩ := exists_of_isOk (x := priceRows.foldlM (OpenXml.Cursor.step plain)
    { sheet := priceRecords }) (by decide +kernel)
  obtain ⟨table, htableCursor⟩ := exists_of_isOk (x := priceTable.foldlM OpenDocument.Cursor.step
    { sheet := priceRecords }) (by decide +kernel)
  obtain ⟨hrow, hcol, -⟩ := htable table htableCursor
  obtain ⟨records, hrecords⟩ := hread.mpr (by decide)
  exact ⟨hnames, hlength, hroom plain 4 hnames hlength, ⟨cursor, hcursor, hwords plain cursor hcursor⟩,
    ⟨table, htableCursor, hrow, hcol⟩, records, hrecords, hbehind records hrecords⟩

/-- A worksheet that names the largest row, and ends the row behind it. -/
def lastRows : List UInt8 := bytesOf <|
  "<worksheet><sheetData><row><c><v>1</v></c></row><row r=\"18446744073709551615\"></row>" ++
  "<row></row><row><c><v>7</v></c></row></sheetData></worksheet>"

/-- A worksheet that names the largest column, and begins the cell behind it. -/
def lastCols : List UInt8 := bytesOf
  "<worksheet><sheetData><row><c r=\"GKGWBYLWRXTLPO1\"/><c/></row></sheetData></worksheet>"

/-- Where rows, columns and headers come to the last word, there is no result. -/
theorem counters_overflow :
    OpenXml.readWorksheet plain "Prices" (Document.ofBytes lastRows) = .error .overflow ∧
    OpenXml.readWorksheet plain "Prices" (Document.ofBytes lastCols) = .error .overflow ∧
    ({ headerRow := wordLimit - 1 } : Layout).records? priceRecords = none := by
  have hbroken {document : Document} (h : (OpenXml.readWorksheet plain "Prices" document).map
      (·.cells) = .error .overflow) :
      OpenXml.readWorksheet plain "Prices" document = .error .overflow := by
    cases hread : OpenXml.readWorksheet plain "Prices" document with
    | error error =>
      rw [hread] at h
      exact congrArg Except.error (Except.error.inj h)
    | ok sheet =>
      rw [hread] at h
      exact absurd h (by simp [Except.map])
  refine ⟨hbroken (by decide +kernel), hbroken (by decide +kernel), ?_⟩
  simp [Layout.records?, wordLimit]

end DataDictionary.Workbook
