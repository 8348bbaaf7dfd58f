import DataDictionary.Proofs.Selection
import DataDictionary.Proofs.Workbook.Agreement
import DataDictionary.Proofs.Workbook.Steps

/-!
# Chosen tables of an OpenDocument spreadsheet

Cells may hold tables. Inside a table that is read, these belong to it, to any depth. But the
reader looks for the next table without regard to what is open: a table is sought inside of those
that were passed over, too. So the sheets are the accepted tables that lie in no accepted one, and
these are the accepted top-level tables unless a table that is passed over holds one of them.
-/

namespace DataDictionary.Workbook.OpenDocument

open Markup

/-! ### Tables of a content part -/

/-- How many tables are open behind an event, if so many are open before it. -/
def openAfter (count : Nat) : Event → Nat
  | .start tag => if tag.name.is "table:table" then count + 1 else count
  | .finish name => if name.is "table:table" then count - 1 else count
  | _ => count

/-- The event ends a table in which so many others are open. -/
def endsTable (depth : Nat) : Event → Bool
  | .finish name => name.is "table:table" && depth == 0
  | _ => false

/-- The events up to the end of a table in which so many others are open. -/
def inside (depth : Nat) : List Event → List Event
  | [] => []
  | event :: events =>
    if endsTable depth event then [] else event :: inside (openAfter depth event) events

/-- The name that the tag of a table states, or the empty one. -/
def title (tag : Tag) : String := (given? tag "table:name").getD ""

/-- A table: its tag and the events up to its end. -/
structure Table where
  tag : Tag
  events : List Event

/-- The name of a table. -/
def Table.name (table : Table) : String := title table.tag

/-- The tables with accepted names that lie in no other such table, where so many are open. -/
def outermost (accepts : String → Bool) : Nat → List Event → List Table
  | _, [] => []
  | 0, .start tag :: events =>
    if tag.name.is "table:table" && accepts (title tag) then
      ⟨tag, inside 0 events⟩ :: outermost accepts 1 events
    else outermost accepts 0 events
  | 0, .finish name :: events =>
    if name.is "office:spreadsheet" then [] else outermost accepts 0 events
  | 0, _ :: events => outermost accepts 0 events
  | count + 1, event :: events => outermost accepts (openAfter (count + 1) event) events

/-- The tables that lie in no other table, in order. -/
def topLevel (events : List Event) : List Table := outermost (fun _ => true) 0 events

/-- Read a table. -/
def readTable (file : String) (table : Table) : Except Error Sheet :=
  (table.events.foldlM Cursor.step { sheet := .new file table.name }).map (·.sheet)

/-! ### Reading -/

/-- The event begins no table, or one whose name can be read. -/
def isTitled : Event → Bool
  | .start tag => !tag.name.is "table:table" || (tag.attribute? "table:name").isOk
  | _ => true

/-- The names of all tables can be read, and so can the part to its end. -/
structure IsSound (error : Option Markup.Error) (events : List Event) : Prop where
  error_eq : error = none
  titled : ∀ event ∈ events, isTitled event = true

/-- What comes of reading is what is expected, unless the reading fails over the markup. -/
def Comes (error : Option Markup.Error) (events : List Event)
    (result expected : Except Error (List Sheet)) : Prop :=
  result = expected ∨ (∃ fault, result = .error fault) ∧ ¬ IsSound error events

variable {file : String} {selection : Selection} {error : Option Markup.Error}

lemma Comes.cons {event : Event} {events : List Event} {result expected : Except Error (List Sheet)}
    (h : Comes error events result expected) : Comes error (event :: events) result expected := by
  obtain h | ⟨hfault, hsound⟩ := h
  · exact .inl h
  · refine .inr ⟨hfault, fun hcons => hsound ⟨hcons.error_eq, ?_⟩⟩
    exact (List.forall_mem_cons.mp hcons.titled).2

/-- What is expected of events between tables, behind sheets that were read. -/
def expected (file : String) (selection : Selection) (sheets : Array Sheet)
    (tables : List Table) : Except Error (List Sheet) :=
  ((selection.within sheets.size tables).mapM (readTable file)).map (sheets.toList ++ ·)

/-- What is expected of events inside a table that is read. -/
def expectedInside (file : String) (selection : Selection) (sheets : Array Sheet)
    (cursor : Cursor) (events : List Event) : Except Error (List Sheet) := do
  let last ← (inside cursor.depth events).foldlM Cursor.step cursor
  expected file selection (sheets.push last.sheet)
    (outermost selection.accepts (cursor.depth + 1) events)

lemma inside_cons {depth : Nat} {event : Event} (h : endsTable depth event = false)
    (events : List Event) :
    inside depth (event :: events) = event :: inside (openAfter depth event) events := by
  rw [inside, h]
  rfl

lemma openAfter_succ {depth : Nat} {event : Event} (h : endsTable depth event = false) :
    openAfter (depth + 1) event = openAfter depth event + 1 := by
  cases event with
  | start tag =>
    simp only [openAfter]
    split <;> rfl
  | finish name =>
    simp only [openAfter]
    split
    · next hname =>
      have hdepth : depth ≠ 0 := by simpa [endsTable, hname] using h
      omega
    · rfl
  | _ => rfl

lemma openAfter_of_endsTable {depth : Nat} {event : Event} (h : endsTable depth event = true) :
    openAfter (depth + 1) event = 0 := by
  cases event with
  | finish name =>
    simp only [endsTable, Bool.and_eq_true, beq_iff_eq] at h
    simp [openAfter, h]
  | _ => exact absurd h (by simp [endsTable])

lemma Cursor.isTableEnd_eq (cursor : Cursor) (event : Event) :
    cursor.isTableEnd event = endsTable cursor.depth event := by
  cases event <;> rfl

/-- The reader counts the tables that are open inside the one that it reads. -/
lemma Cursor.depth_of_step {cursor next : Cursor} {event : Event}
    (h : cursor.step event = .ok next) : next.depth = openAfter cursor.depth event := by
  cases event with
  | start tag =>
    cases starts_of_step h with
    | table hname => simp [openAfter, hname]
    | row hname hstep =>
      obtain ⟨rowCount, rfl⟩ := startRow_eq_ok hstep
      simp [openAfter, hname]
    | cell hname hstep =>
      obtain ⟨colCount, kind, value, inText, rfl⟩ := startCell_eq_ok hstep
      simp [openAfter, hname]
    | inText hname hstep =>
      obtain ⟨value, inAnnotation, paragraphs, rfl⟩ := startInText_eq_ok hstep
      simp [openAfter, hname]
    | passed hname => simp [openAfter, hname]
  | finish name =>
    cases finishes_of_step h with
    | table hname => simp [openAfter, hname]
    | row hname => simp [openAfter, hname, endRow]
    | cell hname => simp [openAfter, hname, endCell]
    | remark hname | passed hname => simp [openAfter, hname]
  | text s | reference name =>
    obtain ⟨value, rfl⟩ := appendContent_eq_ok h
    rfl
  | _ =>
    obtain rfl := Except.ok.inj h
    rfl

lemma expected_of_isFull {sheets : Array Sheet} (h : selection.isFull sheets.size = true)
    (tables : List Table) : expected file selection sheets tables = .ok sheets.toList := by
  rw [expected, Selection.within_of_isFull h]
  exact congrArg Except.ok (List.append_nil _)

/-- The next table is read, and the others are expected behind it. -/
lemma expected_cons {sheets : Array Sheet} (h : selection.isFull sheets.size = false)
    (table : Table) (tables : List Table) :
    expected file selection sheets (table :: tables) = (do
      let sheet ← readTable file table
      expected file selection (sheets.push sheet) tables) := by
  rw [expected, Selection.within_cons h, List.mapM_cons]
  cases hsheet : readTable file table with
  | error fault => rfl
  | ok sheet =>
    simp only [expected, Array.size_push, Array.toList_push, bind, Except.bind]
    cases (selection.within (sheets.size + 1) tables).mapM (readTable file) with
    | error fault => rfl
    | ok read => simp [Except.map, pure, Except.pure]

lemma expectedInside_of_endsTable {sheets : Array Sheet} {cursor : Cursor} {event : Event}
    (h : endsTable cursor.depth event = true) (events : List Event) :
    expectedInside file selection sheets cursor (event :: events) =
      expected file selection (sheets.push cursor.sheet)
        (outermost selection.accepts 0 events) := by
  rw [expectedInside, inside, if_pos h, outermost, openAfter_of_endsTable h]
  rfl

lemma expectedInside_of_step {sheets : Array Sheet} {cursor next : Cursor} {event : Event}
    (h : endsTable cursor.depth event = false) (hstep : cursor.step event = .ok next)
    (events : List Event) :
    expectedInside file selection sheets cursor (event :: events) =
      expectedInside file selection sheets next events := by
  rw [expectedInside, inside_cons h, List.foldlM_cons, hstep, outermost, openAfter_succ h,
    ← Cursor.depth_of_step hstep]
  rfl

/-- Behind the tag of a table, the table is expected, and what comes behind it. -/
lemma expectedInside_new {sheets : Array Sheet} (h : selection.isFull sheets.size = false)
    (tag : Tag) (events : List Event) :
    expectedInside file selection sheets { sheet := .new file (title tag) } events =
      expected file selection sheets
        (⟨tag, inside 0 events⟩ :: outermost selection.accepts 1 events) := by
  rw [expected_cons h, expectedInside, readTable, Table.name]
  cases (inside 0 events).foldlM Cursor.step { sheet := .new file (title tag) } <;> rfl

/-- Events are read as expected, between tables and inside of one. -/
structure ReadAsExpected (file : String) (selection : Selection) (error : Option Markup.Error)
    (events : List Event) : Prop where
  outside : ∀ sheets, Comes error events
    ((readTables file selection error sheets none events).map (·.toList))
    (expected file selection sheets (outermost selection.accepts 0 events))
  inside : ∀ sheets cursor, Comes error events
    ((readTables file selection error sheets (some cursor) events).map (·.toList))
    (expectedInside file selection sheets cursor events)

namespace ReadAsExpected

variable {events : List Event} {sheets : Array Sheet}

lemma nil (file : String) (selection : Selection) (error : Option Markup.Error) :
    ReadAsExpected file selection error [] := by
  cases error with
  | some fault =>
    have hsound : ¬ IsSound (some fault) [] := fun h => absurd h.error_eq (by simp)
    constructor
    · intro sheets
      exact .inr ⟨⟨.markup fault, rfl⟩, hsound⟩
    · intro sheets cursor
      exact .inr ⟨⟨.markup fault, rfl⟩, hsound⟩
  | none =>
    constructor
    · intro sheets
      apply Or.inl
      simp [readTables, outermost, expected, Except.map, pure, Except.pure]
    · intro sheets cursor
      apply Or.inl
      simp [readTables, outermost, expectedInside, OpenDocument.inside, expected, Except.map, pure,
        Except.pure, bind, Except.bind]

/-- An event inside a table that is read ends the table or is taken up. -/
lemma inside_cons (h : ReadAsExpected file selection error events) (event : Event)
    (cursor : Cursor) :
    Comes error (event :: events)
      ((readTables file selection error sheets (some cursor) (event :: events)).map (·.toList))
      (expectedInside file selection sheets cursor (event :: events)) := by
  rw [readTables, Cursor.isTableEnd_eq]
  cases hend : endsTable cursor.depth event with
  | true =>
    rw [expectedInside_of_endsTable hend]
    exact (h.outside _).cons
  | false =>
    cases hstep : cursor.step event with
    | error fault =>
      apply Or.inl
      rw [expectedInside, OpenDocument.inside_cons hend, List.foldlM_cons, hstep]
      rfl
    | ok next =>
      rw [expectedInside_of_step hend hstep]
      exact (h.inside _ _).cons

/-- A start tag between tables begins one that is read, or is passed over. -/
lemma outside_start (h : ReadAsExpected file selection error events) (tag : Tag) :
    Comes error (.start tag :: events)
      ((readTables file selection error sheets none (.start tag :: events)).map (·.toList))
      (expected file selection sheets
        (outermost selection.accepts 0 (.start tag :: events))) := by
  cases htable : tag.name.is "table:table" with
  | false =>
    simp only [readTables, outermost, htable, Bool.false_and, Bool.false_eq_true, if_false]
    exact (h.outside _).cons
  | true =>
    cases htitle : tag.attribute? "table:name" with
    | error fault =>
      refine .inr ⟨⟨.markup fault, by simp [readTables, htable, htitle, Except.map]⟩, ?_⟩
      intro hsound
      have htitled := hsound.titled _ (List.mem_cons_self ..)
      simp [isTitled, htable, htitle, Except.isOk, Except.toBool] at htitled
    | ok name =>
      have hname : title tag = name.getD "" := by rw [title, given?_of_ok htitle]
      cases hfull : selection.isFull sheets.size with
      | true =>
        -- the limit is asked before the patterns, so no further table is looked at
        apply Or.inl
        rw [expected_of_isFull hfull]
        simp [readTables, htable, htitle, hfull, Except.map]
      | false =>
        cases haccepts : selection.accepts (name.getD "") with
        | false =>
          simp only [readTables, outermost, htable, htitle, hfull, hname, haccepts, Bool.true_and,
            Bool.false_eq_true, if_false, if_true]
          exact (h.outside _).cons
        | true =>
          simp only [readTables, outermost, htable, htitle, hfull, hname, haccepts, Bool.true_and,
            Bool.false_eq_true, if_false, if_true]
          rw [← expectedInside_new hfull, hname]
          exact (h.inside _ _).cons

lemma outside_cons (h : ReadAsExpected file selection error events) (event : Event) :
    Comes error (event :: events)
      ((readTables file selection error sheets none (event :: events)).map (·.toList))
      (expected file selection sheets (outermost selection.accepts 0 (event :: events))) := by
  cases event with
  | start tag => exact h.outside_start tag
  | finish name =>
    cases hname : name.is "office:spreadsheet" with
    | true =>
      apply Or.inl
      simp [readTables, outermost, hname, expected, Except.map, pure, Except.pure]
    | false =>
      simp only [readTables, outermost, hname, Bool.false_eq_true, if_false]
      exact (h.outside sheets).cons
  | _ => exact (h.outside sheets).cons

end ReadAsExpected

/-- Every content part is read as expected. -/
lemma readAsExpected (file : String) (selection : Selection) (error : Option Markup.Error)
    (events : List Event) : ReadAsExpected file selection error events := by
  induction events with
  | nil => exact .nil file selection error
  | cons event events ih => exact ⟨fun _ => ih.outside_cons event, fun _ => ih.inside_cons event⟩

/-! ### Tables inside of tables -/

/-- The event begins an accepted table, or ends the tables of the part. -/
def isSought (accepts : String → Bool) : Event → Bool
  | .start tag => tag.name.is "table:table" && accepts (title tag)
  | .finish name => name.is "office:spreadsheet"
  | _ => false

/-- Inside the table there is nothing that is sought between tables. -/
def Table.HidesNone (accepts : String → Bool) (table : Table) : Prop :=
  ∀ event ∈ table.events, isSought accepts event = false

variable {accepts : String → Bool}

lemma outermost_of_not_isSought {event : Event} (h : isSought accepts event = false)
    (events : List Event) :
    outermost accepts 0 (event :: events) = outermost accepts 0 events := by
  cases event with
  | start tag | finish name =>
    rw [isSought] at h
    rw [outermost, h]
    rfl
  | _ => rfl

/-- What nobody seeks is sought by none. -/
lemma not_isSought_of_all {event : Event} (h : isSought (fun _ => true) event = false) :
    isSought accepts event = false := by
  cases event with
  | start tag =>
    rw [isSought, Bool.and_true] at h
    rw [isSought, h, Bool.false_and]
  | _ => exact h

lemma isSought_of_endsTable {depth : Nat} {event : Event} (h : endsTable depth event = true) :
    isSought accepts event = false := by
  cases event with
  | finish name =>
    simp only [endsTable, Bool.and_eq_true] at h
    exact is_eq_false h.1 (by decide)
  | _ => exact absurd h (by simp [endsTable])

/-- Of two searches through the same events, one is as far as the other, or the first is inside a
table that the second has found, and nothing is hidden there. -/
inductive InStep (accepts : String → Bool) (events : List Event) : Nat → Nat → Prop
  | same (count : Nat) : InStep accepts events count count
  | inside (depth : Nat)
    (none : ∀ event ∈ inside depth events, isSought accepts event = false) :
    InStep accepts events 0 (depth + 1)

/-- The accepted tables are those that are accepted of the top-level tables, if nothing is hidden in
the others. -/
lemma outermost_eq_filter {events : List Event} {count all : Nat}
    (hstep : InStep accepts events count all)
    (h : ∀ table ∈ outermost (fun _ => true) all events,
      accepts table.name = false → table.HidesNone accepts) :
    outermost accepts count events =
      (outermost (fun _ => true) all events).filter fun table => accepts table.name := by
  -- the searches part at a table that is not accepted, and meet again at its end
  induction events generalizing count all with
  | nil => simp [outermost]
  | cons event events ih =>
    cases hstep with
    | inside depth hnone =>
      cases hend : endsTable depth event with
      | true =>
        rw [outermost_of_not_isSought (isSought_of_endsTable hend)]
        rw [outermost, openAfter_of_endsTable hend] at h ⊢
        exact ih (.same 0) h
      | false =>
        rw [inside_cons hend, List.forall_mem_cons] at hnone
        rw [outermost_of_not_isSought hnone.1]
        rw [outermost, openAfter_succ hend] at h ⊢
        exact ih (.inside _ hnone.2) h
    | same =>
      cases count with
      | succ count =>
        simp only [outermost] at h ⊢
        exact ih (.same _) h
      | zero =>
        cases hsought : isSought (fun _ => true) event with
        | false =>
          rw [outermost_of_not_isSought hsought] at h ⊢
          rw [outermost_of_not_isSought (not_isSought_of_all hsought)]
          exact ih (.same 0) h
        | true =>
          cases event with
          | start tag =>
            rw [isSought, Bool.and_true] at hsought
            simp only [outermost, hsought, Bool.and_self, if_true, List.forall_mem_cons] at h
            simp only [outermost, hsought, Bool.true_and, if_true, List.filter_cons, Table.name]
            cases haccepts : accepts (title tag) with
            | true => exact congrArg _ (ih (.same 1) h.2)
            | false => exact ih (.inside 0 (h.1 haccepts)) h.2
          | finish name =>
            rw [isSought] at hsought
            simp [outermost, hsought]
          | _ => exact absurd hsought (by simp [isSought])

/-! ### Sheets -/

lemma name_readTable {table : Table} {sheet : Sheet} (h : readTable file table = .ok sheet) :
    sheet.name = table.name := by
  rw [readTable] at h
  obtain ⟨last, hlast, rfl⟩ := map_eq_ok h
  have hname := foldlM_of_step (R := fun a b : Cursor => b.sheet.name = a.sheet.name)
    (fun _ => rfl) (fun _ _ _ hab hbc => hbc.trans hab)
    (fun _ _ _ hstep => Cursor.name_of_takes (Cursor.takes_of_step hstep)) hlast
  exact hname

namespace Package

/-- The sheets are the first of the accepted tables that lie in no accepted one, each read with
all that is inside of it. -/
theorem readSheets_outermost {package : Package} {part : Part}
    (hpart : package.archive.find? "content.xml" = some part) (selection : Selection) :
    let content := Document.ofBytes part.bytes
    let tables := selection.within 0 (outermost selection.accepts 0 content.events)
    (∀ sheets, package.readSheets selection = .ok sheets →
      tables.mapM (readTable package.file) = .ok sheets ∧
        sheets.map Sheet.name = tables.map Table.name) ∧
    (IsSound content.error content.events →
      package.readSheets selection = tables.mapM (readTable package.file)) ∧
    ((∀ table ∈ topLevel content.events,
        selection.accepts table.name = false → table.HidesNone selection.accepts) →
      tables = selection.choose Table.name (topLevel content.events)) := by
  intro content tables
  have hread : package.readSheets selection =
      (readTables package.file selection content.error #[] none content.events).map
        (·.toList) := by
    rw [readSheets, hpart]
  have hexpected : expected package.file selection #[]
      (outermost selection.accepts 0 content.events) =
        tables.mapM (readTable package.file) := by
    rw [expected]
    cases tables.mapM (readTable package.file) <;> rfl
  have hcomes := (readAsExpected package.file selection content.error content.events).outside #[]
  rw [← hread, hexpected] at hcomes
  refine ⟨?_, ?_, ?_⟩
  · intro sheets hsheets
    obtain heq | ⟨⟨fault, hfault⟩, -⟩ := hcomes
    · rw [heq] at hsheets
      exact ⟨hsheets, map_of_mapM (fun _ _ => name_readTable) hsheets⟩
    · rw [hfault] at hsheets
      exact absurd hsheets (by simp)
  · intro hsound
    obtain heq | ⟨-, hnot⟩ := hcomes
    · exact heq
    · exact absurd hsound hnot
  · intro h
    exact congrArg (selection.within 0) (outermost_eq_filter (.same 0) h)

end Package

/-! ### A table in a cell -/

/-- A content part with a table that has another one in its only cell, and a table behind it. -/
def nestedContent : Part := ⟨"content.xml", bytesOf <|
  "<office:spreadsheet><table:table table:name=\"Main\"><table:table-row><table:table-cell>" ++
  "<table:table table:name=\"Part\"><table:table-row><table:table-cell " ++
  "office:value-type=\"string\"><text:p>kg</text:p></table:table-cell></table:table-row>" ++
  "</table:table></table:table-cell></table:table-row></table:table>" ++
  "<table:table table:name=\"More\"/></office:spreadsheet>"⟩

/-- A spreadsheet with a table in a cell. -/
def nestedTables : Package where
  file := "/stock.ods"
  archive := ⟨[nestedContent]⟩

/-- The events of its content. -/
def nestedEvents : List Event := (Document.ofBytes nestedContent.bytes).events

/-- All tables whose names begin with the given letter. -/
def beginningWith (c : Char) : Selection where
  patterns := some [⟨[.char c, .sequence]⟩]

theorem readSheets_outermost_main :
    nestedTables.archive.find? "content.xml" = some nestedContent ∧
    nestedTables.readSheets (beginningWith 'M') =
      ((beginningWith 'M').choose Table.name (topLevel nestedEvents)).mapM
        (readTable "/stock.ods") ∧
    ((beginningWith 'M').choose Table.name (topLevel nestedEvents)).map Table.name =
      ["Main", "More"] := by
  have hpart : nestedTables.archive.find? "content.xml" = some nestedContent := rfl
  obtain ⟨-, hread, hflat⟩ := Package.readSheets_outermost hpart (beginningWith 'M')
  have hsound : IsSound (Document.ofBytes nestedContent.bytes).error nestedEvents :=
    ⟨by decide +kernel, by decide +kernel⟩
  have htables := hflat (by unfold Table.HidesNone; decide +kernel)
  refine ⟨hpart, ?_, by decide +kernel⟩
  rw [hread hsound, htables]
  rfl

/-- The table in the cell becomes a sheet of its own if only its own name is accepted. -/
theorem readSheets_part :
    (nestedTables.readSheets (beginningWith 'P')).map (·.map Sheet.name) = .ok ["Part"] ∧
    ((beginningWith 'P').choose Table.name (topLevel nestedEvents)).map Table.name = [] := by
  constructor
  · decide +kernel
  · decide +kernel

end DataDictionary.Workbook.OpenDocument
