import DataDictionary.Proofs.Workbook.Repetition
import DataDictionary.Proofs.Workbook.StoredTexts

/-!
# Paragraphs of a cell

The text of a cell in a table is what its paragraphs hold, with a line feed between one and the
next. Annotations are no part of it, wherever they stand and whatever they hold. A run of spaces
that no text can hold ends the reading, whatever else the workbook holds.
-/

namespace DataDictionary.Workbook.OpenDocument

open Markup Text

open OpenXml (isTagOf)

/-! ### Content of a cell -/

/-- An annotation, which holds anything but another one. -/
structure Remark where
  tag : Tag
  content : List Event := []
  name : tag.name.is "office:annotation" = true
  content_within : content.all isWithin = true
  content_not_remark : ∀ event ∈ content, isTagOf "office:annotation" event = false

def Remark.events (remark : Remark) : List Event :=
  .start remark.tag :: remark.content ++ [.finish remark.tag.name]

/-- What a paragraph holds apart from elements with content of their own. -/
inductive Leaf
  | text (bytes : List UInt8)
  | reference (name : List UInt8)
  | spaces (tag : Tag) (name : tag.name.is "text:s" = true)
  | tab (tag : Tag) (name : tag.name.is "text:tab" = true)
  | lineBreak (tag : Tag) (name : tag.name.is "text:line-break" = true)
  | remark (note : Remark)

def Leaf.events : Leaf → List Event
  | text bytes => [.text bytes]
  | reference name => [.reference name]
  | spaces tag _ | tab tag _ | lineBreak tag _ => [.start tag, .finish tag.name]
  | remark note => note.events

/-- The text of a leaf; a run of spaces is one space if it states no count. -/
def Leaf.read : Leaf → Except Error String
  | text bytes => ofMarkup (content bytes)
  | reference name => ofMarkup (referenceContent name)
  | spaces tag _ => do
    let count ← ofMarkup (tag.count? "text:c")
    if count.getD 1 < textLimit then .ok (String.ofList (List.replicate (count.getD 1) ' '))
    else .error .overflow
  | tab _ _ => .ok "\t"
  | lineBreak _ _ => .ok "\n"
  | remark _ => .ok ""

/-- The name of an element that stands in a paragraph and has no meaning of its own. -/
def isInlineName (name : Name) : Bool :=
  !isGridName name &&
    ["office:annotation", "text:p", "text:s", "text:tab", "text:line-break"].all (!name.is ·)

/-- The content of a paragraph, from the left: leaves, and elements that hold content again. -/
inductive Inline
  | nil
  | leaf (first : Leaf) (rest : Inline)
  | element (tag : Tag) (name : isInlineName tag.name = true) (content rest : Inline)

def Inline.events : Inline → List Event
  | nil => []
  | leaf first rest => first.events ++ rest.events
  | element tag _ content rest =>
    .start tag :: content.events ++ [.finish tag.name] ++ rest.events

def Inline.read : Inline → Except Error String
  | nil => .ok ""
  | leaf first rest => do
    let s ← first.read
    let t ← rest.read
    pure (s ++ t)
  | element _ _ content rest => do
    let s ← content.read
    let t ← rest.read
    pure (s ++ t)

structure Paragraph where
  tag : Tag
  content : Inline
  name : tag.name.is "text:p" = true

def Paragraph.events (paragraph : Paragraph) : List Event :=
  .start paragraph.tag :: paragraph.content.events ++ [.finish paragraph.tag.name]

def Paragraph.read (paragraph : Paragraph) : Except Error String := paragraph.content.read

/-- A child of a cell. -/
inductive Child
  | paragraph (element : Paragraph)
  | remark (note : Remark)

def Child.events : Child → List Event
  | paragraph element => element.events
  | remark note => note.events

def Child.paragraph? : Child → Option Paragraph
  | paragraph element => some element
  | remark _ => none

/-- The tag begins a cell with a text. -/
structure BeginsText (tag : Tag) : Prop where
  name : Cursor.isCellName tag.name = true
  count : ∃ count?, tag.count? cellCountName = .ok count?
  type : tag.attribute? "office:value-type" = .ok (some "string")
  not_error : ∃ type?, tag.attribute? "calcext:value-type" = .ok type? ∧ type? ≠ some "error"

/-- A cell with a text. -/
structure TextCell where
  tag : Tag
  children : List Child
  begins : BeginsText tag

namespace TextCell

def content (cell : TextCell) : List Event := cell.children.flatMap Child.events

def events (cell : TextCell) : List Event :=
  .start cell.tag :: cell.content ++ [.finish cell.tag.name]

def paragraphs (cell : TextCell) : List Paragraph := cell.children.filterMap Child.paragraph?

/-- The texts of the paragraphs, with a line feed between one and the next. -/
def read (cell : TextCell) : Except Error String :=
  (cell.paragraphs.mapM Paragraph.read).map "\n".intercalate

end TextCell

/-! ### Events that put a text behind the value -/

/-- The cursor is in the text of a cell, outside annotations, and so many paragraphs have begun. -/
structure Cursor.IsInText (cursor : Cursor) (begun : Nat) : Prop where
  inText_eq : cursor.inText = true
  inAnnotation_eq : cursor.inAnnotation = false
  paragraphs_eq : cursor.paragraphs = begun

/-- Behind so many paragraphs, a text is put behind the value, and behind the events another number
of paragraphs has begun. -/
def Adds (events : List Event) (begun next : Nat) (read : Except Error String) : Prop :=
  ∀ cursor : Cursor, cursor.IsInText begun →
    events.foldlM Cursor.step cursor =
      read.map fun s => { cursor.append s with paragraphs := next }

/-- What sets a paragraph off from those before it. -/
def separator (begun : Nat) : String := if 0 < begun then "\n" else ""

/-- The texts of paragraphs behind others. -/
def separated : Nat → List String → String
  | _, [] => ""
  | begun, text :: texts => separator begun ++ text ++ separated (begun + 1) texts

lemma separated_succ (begun : Nat) (text : String) (texts : List String) :
    separated (begun + 1) (text :: texts) = "\n" ++ "\n".intercalate (text :: texts) := by
  induction texts generalizing begun text with
  | nil => simp [separated, separator]
  | cons other texts ih =>
    rw [separated, ih, String.intercalate_cons_cons]
    simp [separator, String.append_assoc]

lemma separated_zero (texts : List String) : separated 0 texts = "\n".intercalate texts := by
  rcases texts with - | ⟨text, - | ⟨other, texts⟩⟩
  · rfl
  · simp [separated, separator]
  · rw [separated, separated_succ, String.intercalate_cons_cons]
    simp [separator, String.append_assoc]

lemma Cursor.startParagraph_eq_append (cursor : Cursor) :
    cursor.startParagraph =
      { cursor.append (separator cursor.paragraphs) with paragraphs := cursor.paragraphs + 1 } := by
  by_cases h : 0 < cursor.paragraphs
  · simp [startParagraph, separator, append, h]
  · simp [startParagraph, separator, append, h]

namespace Adds

variable {begun next last : Nat}

/-- Events that are passed over add nothing. -/
lemma passed {events : List Event}
    (h : ∀ cursor : Cursor, cursor.IsInText begun → events.foldlM Cursor.step cursor = .ok cursor) :
    Adds events begun begun (.ok "") := by
  intro cursor hcursor
  rw [h cursor hcursor]
  obtain ⟨-, -, rfl⟩ := hcursor
  simp [Except.map, Cursor.append]

lemma append {a b : List Event} {read read' : Except Error String}
    (ha : Adds a begun next read) (hb : Adds b next last read') :
    Adds (a ++ b) begun last (do
      let s ← read
      let t ← read'
      pure (s ++ t)) := by
  intro cursor hcursor
  rw [List.foldlM_append, ha cursor hcursor]
  cases read with
  | error error => rfl
  | ok s =>
    have hnext : ({ cursor.append s with paragraphs := next } : Cursor).IsInText next :=
      ⟨hcursor.inText_eq, hcursor.inAnnotation_eq, rfl⟩
    simp only [Except.map, bind, Except.bind, hb _ hnext]
    cases read' with
    | error error => rfl
    | ok t => simp [pure, Except.pure, Cursor.append, String.append_assoc]

lemma append_right {a b : List Event} {read : Except Error String}
    (ha : Adds a begun begun (.ok "")) (hb : Adds b begun next read) :
    Adds (a ++ b) begun next read := by
  have h := ha.append hb
  cases read with
  | error error => exact h
  | ok s =>
    simp only [bind, Except.bind, pure, Except.pure, String.empty_append] at h
    exact h

/-- Character data adds what it stands for. -/
lemma data {event : Event} {read : Except Markup.Error String}
    (h : ∀ cursor : Cursor, cursor.step event = cursor.appendContent read) :
    Adds [event] begun begun (ofMarkup read) := by
  intro cursor hcursor
  obtain ⟨hinText, hremark, rfl⟩ := hcursor
  have hcontent : (cursor.inText && !cursor.inAnnotation) = true := by rw [hinText, hremark]; rfl
  rw [List.foldlM_cons, h, Cursor.appendContent, if_pos hcontent]
  cases read <;> rfl

/-- An element that is empty adds what its start tag adds. -/
lemma empty {tag : Tag} {read : Except Error String}
    (hstart : ∀ cursor : Cursor, cursor.inText = true → cursor.inAnnotation = false →
      cursor.step (.start tag) = read.map cursor.append)
    (hfinish : ∀ cursor : Cursor, cursor.step (.finish tag.name) = .ok cursor) :
    Adds [.start tag, .finish tag.name] begun begun read := by
  intro cursor hcursor
  obtain ⟨hinText, hremark, rfl⟩ := hcursor
  rw [List.foldlM_cons, hstart cursor hinText hremark]
  cases read with
  | error error => rfl
  | ok s => exact (bind_pure _).trans (hfinish (cursor.append s))

/-- An annotation adds nothing. -/
lemma remark (remark : Remark) : Adds remark.events begun begun (.ok "") := by
  refine passed fun cursor hcursor => ?_
  have hname := Name.eq_of_is remark.name
  have hstart : cursor.step (.start remark.tag) = .ok { cursor with inAnnotation := true } := by
    simp [Cursor.step, Cursor.isCellName, hname, hcursor.inText_eq, Cursor.startInText]
  have hcontent : remark.content.foldlM Cursor.step { cursor with inAnnotation := true } =
      .ok { cursor with inAnnotation := true } := by
    refine foldlM_passed fun event hevent => ?_
    have hwithin := List.all_eq_true.mp remark.content_within event hevent
    have hother := remark.content_not_remark event hevent
    cases event with
    | start tag =>
      have hgrid : isGridName tag.name = false := by simpa [isWithin] using hwithin
      have htag : tag.name.is "office:annotation" = false := hother
      simp [Cursor.step_start_within _ hgrid, hcursor.inText_eq, Cursor.startInText, htag]
    | finish name =>
      have hgrid : isGridName name = false := by simpa [isWithin] using hwithin
      have hfinish : name.is "office:annotation" = false := hother
      simp [Cursor.step_finish_within _ hgrid, hfinish]
    | text | reference => simp [Cursor.step, Cursor.appendContent]
    | _ => rfl
  have hfinish : Cursor.step { cursor with inAnnotation := true } (.finish remark.tag.name) =
      .ok { cursor with inAnnotation := false } := by
    simp [Cursor.step, Cursor.isCellName, hname, hcursor.inText_eq]
  rw [Remark.events, foldlM_enclosed, hstart]
  simp only [bind, Except.bind, hcontent, hfinish, ← hcursor.inAnnotation_eq]

lemma leaf (leaf : Leaf) : Adds leaf.events begun begun leaf.read := by
  cases leaf with
  | text bytes => exact data fun cursor => rfl
  | reference name => exact data fun cursor => rfl
  | spaces tag hname =>
    have hname' := Name.eq_of_is hname
    refine empty (fun cursor hinText hremark => ?_) fun cursor => ?_
    · have hstart : cursor.step (.start tag) = (do
          let count ← ofMarkup (tag.count? "text:c")
          let spaces ← ofWord (spaces? (count.getD 1))
          .ok (cursor.append spaces)) := by
        simp [Cursor.step, Cursor.isCellName, hname', hinText, Cursor.startInText, hremark]
      simp only [hstart, Leaf.read, ← ofWord_spaces?]
      cases tag.count? "text:c" with
      | error error => rfl
      | ok count =>
        simp only [ofMarkup, bind, Except.bind]
        cases ofWord (spaces? (count.getD 1)) <;> rfl
    · simp [Cursor.step, Cursor.isCellName, hname']
  | tab tag hname | lineBreak tag hname =>
    have hname' := Name.eq_of_is hname
    refine empty (fun cursor hinText hremark => ?_) fun cursor => ?_
    · simp [Cursor.step, Cursor.isCellName, hname', hinText, Cursor.startInText, hremark,
        Leaf.read, Except.map]
    · simp [Cursor.step, Cursor.isCellName, hname']
  | remark note => exact remark note

/-- The tags of an element without a meaning of its own are passed over. -/
lemma element {tag : Tag} (hname : isInlineName tag.name = true) {content : List Event}
    {read : Except Error String} (h : Adds content begun next read) :
    Adds (.start tag :: content ++ [.finish tag.name]) begun next read := by
  intro cursor hcursor
  obtain ⟨hgrid, hnames⟩ := Bool.and_eq_true_iff.mp hname
  have hgrid' : isGridName tag.name = false := by simpa using hgrid
  simp only [List.all_cons, Bool.and_eq_true, Bool.not_eq_true', List.all_nil] at hnames
  have hstart : cursor.step (.start tag) = .ok cursor := by
    simp [Cursor.step_start_within _ hgrid', Cursor.startInText, hnames]
  have hfinish (cursor : Cursor) : cursor.step (.finish tag.name) = .ok cursor := by
    simp [Cursor.step_finish_within _ hgrid', hnames]
  rw [foldlM_enclosed, hstart]
  simp only [bind, Except.bind, h cursor hcursor]
  cases read with
  | error error => rfl
  | ok s => exact hfinish _

lemma inline (content : Inline) : Adds content.events begun begun content.read := by
  induction content with
  | nil => exact passed fun _ _ => rfl
  | leaf first rest ih => exact (leaf first).append ih
  | element tag hname content rest ihcontent ihrest =>
    exact (element hname ihcontent).append ihrest

/-- A paragraph is set off from those before it. -/
lemma paragraph {tag : Tag} (hname : tag.name.is "text:p" = true) {content : List Event}
    {read : Except Error String} (h : Adds content (begun + 1) (begun + 1) read) :
    Adds (.start tag :: content ++ [.finish tag.name]) begun (begun + 1)
      (read.map (separator begun ++ ·)) := by
  intro cursor hcursor
  have hname' := Name.eq_of_is hname
  have hstart : cursor.step (.start tag) =
      .ok { cursor.append (separator begun) with paragraphs := begun + 1 } := by
    rw [← hcursor.paragraphs_eq, ← Cursor.startParagraph_eq_append]
    simp [Cursor.step, Cursor.isCellName, hname', hcursor.inText_eq, Cursor.startInText,
      hcursor.inAnnotation_eq]
  have hfinish (cursor : Cursor) : cursor.step (.finish tag.name) = .ok cursor := by
    simp [Cursor.step, Cursor.isCellName, hname']
  have hcontent := h { cursor.append (separator begun) with paragraphs := begun + 1 }
    ⟨hcursor.inText_eq, hcursor.inAnnotation_eq, rfl⟩
  rw [foldlM_enclosed, hstart]
  simp only [bind, Except.bind, hcontent]
  cases read with
  | error error => rfl
  | ok s =>
    refine (hfinish _).trans ?_
    simp [Except.map, Cursor.append, String.append_assoc]

lemma children (children : List Child) :
    Adds (children.flatMap Child.events) begun
      (begun + (children.filterMap Child.paragraph?).length)
      (((children.filterMap Child.paragraph?).mapM Paragraph.read).map (separated begun)) := by
  induction children generalizing begun with
  | nil => exact passed fun _ _ => rfl
  | cons child children ih =>
    generalize hparagraphs : children.filterMap Child.paragraph? = paragraphs at ih
    rw [List.flatMap_cons]
    cases child with
    | remark note =>
      have hskipped : (Child.remark note :: children).filterMap Child.paragraph? =
          paragraphs := hparagraphs
      rw [hskipped]
      exact (remark note).append_right ih
    | paragraph element =>
      have htaken : (Child.paragraph element :: children).filterMap Child.paragraph? =
          element :: paragraphs := by
        rw [← hparagraphs]
        rfl
      have hread : ((element :: paragraphs).mapM Paragraph.read).map (separated begun) = (do
          let s ← element.read.map (separator begun ++ ·)
          let t ← (paragraphs.mapM Paragraph.read).map (separated (begun + 1))
          pure (s ++ t)) := by
        rw [List.mapM_cons]
        cases element.read with
        | error error => rfl
        | ok s => cases paragraphs.mapM Paragraph.read <;> rfl
      have hnext : begun + (paragraphs.length + 1) = begun + 1 + paragraphs.length := by omega
      rw [htaken, hread, List.length_cons, hnext]
      exact (paragraph element.name (inline element.content)).append ih

end Adds

/-! ### Cells with a text -/

namespace Cursor

/-- The cursor behind a cell with a text, which is put on the sheet as often as it counts unless it
is empty. -/
def behindText (cursor : Cursor) (count paragraphs : Nat) (text : String) : Cursor :=
  { cursor with
    sheet :=
      if text = "" then cursor.sheet
      else
        cursor.sheet.pushAll
          ((repeatedPositions cursor.row cursor.col cursor.rowCount count).map
            fun (row, col) => ⟨row, col, .text, text⟩)
    col := saturatingAdd cursor.col count
    colCount := count
    kind := .empty
    value := text
    inText := false
    inAnnotation := false
    paragraphs }

/-- The cursor in the text of a cell that has begun. -/
def beginText (cursor : Cursor) (count : Nat) : Cursor :=
  { cursor with colCount := count, kind := .text, value := "", inText := true, paragraphs := 0 }

lemma startCell_of_beginsText (cursor : Cursor) {tag : Tag} (h : BeginsText tag) :
    cursor.startCell tag = .ok (cursor.beginText (countOf cellCountName tag)) := by
  obtain ⟨count?, hcount⟩ := h.count
  obtain ⟨type?, htype?, herror⟩ := h.not_error
  simp [startCell, hcount, h.type, htype?, herror, ofMarkup, kindOfType, valueAttribute, beginText,
    countOf_eq hcount, bind, Except.bind]

lemma endCell_text (cursor : Cursor) (count paragraphs : Nat) (text : String) :
    { (cursor.beginText count).append text with paragraphs }.endCell =
      cursor.behindText count paragraphs text := by
  by_cases h : text = ""
  · simp [endCell, cells, beginText, append, behindText, h, Sheet.pushAll]
  · simp [endCell, cells, beginText, append, behindText, h]

end Cursor

section

variable (file : String) (selection : Selection) (error : Option Markup.Error)
  (sheets : Array Sheet)

/-- What stands within a table, apart from its rows and cells, is taken up event by event. -/
lemma readTables_within {cursor : Cursor} {events : List Event}
    (h : events.all isWithin = true) (rest : List Event) :
    readTables file selection error sheets (some cursor) (events ++ rest) =
      match events.foldlM Cursor.step cursor with
      | .error fault => .error fault
      | .ok next => readTables file selection error sheets (some next) rest := by
  induction events generalizing cursor with
  | nil => rfl
  | cons event events ih =>
    obtain ⟨hevent, hevents⟩ := Bool.and_eq_true_iff.mp (List.all_cons ▸ h)
    rw [List.cons_append, readTables, Cursor.isTableEnd_of_isWithin cursor hevent,
      List.foldlM_cons]
    cases cursor.step event with
    | error fault => rfl
    | ok next => exact ih hevents

/-- A cell with a text is put on the sheet with what its content adds. -/
lemma readTables_textCell {tag : Tag} (htag : BeginsText tag) {content : List Event}
    (hcontent : content.all isWithin = true) {paragraphs : Nat} {read : Except Error String}
    (h : Adds content 0 paragraphs read) {cursor : Cursor} (hcursor : cursor.inAnnotation = false)
    (rest : List Event) :
    readTables file selection error sheets (some cursor)
        (.start tag :: content ++ [.finish tag.name] ++ rest) = (do
      let text ← read
      readTables file selection error sheets
        (some (cursor.behindText (countOf cellCountName tag) paragraphs text)) rest) := by
  obtain ⟨htable, hrow⟩ := not_isTable_of_isCellName htag.name
  have hstart : cursor.step (.start tag) =
      .ok (cursor.beginText (countOf cellCountName tag)) := by
    simp [Cursor.step, htable, hrow, htag.name, cursor.startCell_of_beginsText htag]
  have hbegun : (cursor.beginText (countOf cellCountName tag)).IsInText 0 := ⟨rfl, hcursor, rfl⟩
  have hfinish (cursor : Cursor) : cursor.step (.finish tag.name) = .ok cursor.endCell := by
    simp [Cursor.step, htable, hrow, htag.name]
  have hend (cursor : Cursor) : cursor.isTableEnd (.finish tag.name) = false := by
    simp [Cursor.isTableEnd, htable]
  rw [List.cons_append, List.cons_append, readTables, hstart, List.append_assoc]
  simp only [Cursor.isTableEnd, Bool.false_eq_true, if_false]
  rw [readTables_within file selection error sheets hcontent, h _ hbegun]
  cases read with
  | error fault => rfl
  | ok text =>
    simp only [Except.map]
    rw [List.singleton_append, readTables, hend, hfinish, Cursor.endCell_text]
    rfl

end

/-! ### Cells of paragraphs and annotations -/

lemma all_isWithin_element {tag : Tag} (hname : isGridName tag.name = false) {content : List Event}
    (h : content.all isWithin = true) :
    (Event.start tag :: content ++ [Event.finish tag.name]).all isWithin = true := by
  simp [isWithin, hname, h]

lemma Remark.all_isWithin (remark : Remark) :
    remark.events.all isWithin = true := by
  refine all_isWithin_element ?_ remark.content_within
  simp [isGridName, Cursor.isCellName, Name.eq_of_is remark.name]

lemma Leaf.all_isWithin (leaf : Leaf) : leaf.events.all isWithin = true := by
  cases leaf with
  | text | reference => rfl
  | spaces tag hname | tab tag hname | lineBreak tag hname =>
    simp [Leaf.events, isWithin, isGridName, Cursor.isCellName, Name.eq_of_is hname]
  | remark note => exact note.all_isWithin

lemma Inline.all_isWithin (content : Inline) : content.events.all isWithin = true := by
  induction content with
  | nil => rfl
  | leaf first rest ih => rw [events, List.all_append, first.all_isWithin, ih, Bool.true_and]
  | element tag hname content rest ihcontent ihrest =>
    have hgrid : isGridName tag.name = false := by
      simpa using (Bool.and_eq_true_iff.mp hname).1
    rw [events, List.all_append, all_isWithin_element hgrid ihcontent, ihrest, Bool.true_and]

lemma Child.all_isWithin (child : Child) : child.events.all isWithin = true := by
  cases child with
  | paragraph element =>
    refine all_isWithin_element ?_ element.content.all_isWithin
    simp [isGridName, Cursor.isCellName, Name.eq_of_is element.name]
  | remark note => exact note.all_isWithin

namespace TextCell

lemma content_within (cell : TextCell) : cell.content.all isWithin = true := by
  rw [content, List.all_flatMap, List.all_eq_true]
  exact fun child _ => child.all_isWithin

lemma adds_content (cell : TextCell) :
    Adds cell.content 0 cell.paragraphs.length cell.read := by
  have hchildren : Adds cell.content 0 (0 + cell.paragraphs.length)
      ((cell.paragraphs.mapM Paragraph.read).map (separated 0)) := Adds.children cell.children
  rw [Nat.zero_add] at hchildren
  rwa [read, ← funext separated_zero]

/-- Wherever a cell with a text is read, outside annotations, its value is what its paragraphs hold,
with a line feed between one and the next: no annotation, be it between paragraphs or inside of one,
adds anything to it. It is left out of the sheet exactly if that text is empty, and it cannot be
read exactly if one of the texts and counts in its paragraphs cannot, or if one of the runs of
spaces is longer than a text can be. -/
theorem readTables_paragraphs (cell : TextCell) {cursor : Cursor}
    (h : cursor.inAnnotation = false) (file : String) (selection : Selection)
    (error : Option Markup.Error) (sheets : Array Sheet) (rest : List Event) :
    readTables file selection error sheets (some cursor) (cell.events ++ rest) = (do
      let text ← cell.read
      readTables file selection error sheets
        (some (cursor.behindText (countOf cellCountName cell.tag) cell.paragraphs.length text))
        rest) :=
  readTables_textCell file selection error sheets cell.begins cell.content_within
    cell.adds_content h rest

end TextCell

/-! ### A cell with annotations -/

/-- The tag of a written cell with a text. -/
def textTag : Tag := .written "table:table-cell" [("office:value-type", "string")]

lemma beginsText_textTag : BeginsText textTag where
  name := by simp [textTag, Cursor.isCellName]
  count := ⟨none, Tag.count?_written_none rfl⟩
  type := by simp [textTag]
  not_error := ⟨none, by simp [textTag], by simp⟩

/-- A written paragraph. -/
def writtenParagraph (content : Inline) : Paragraph where
  tag := .written "text:p" []
  content := content
  name := by simp

/-- A written annotation with a paragraph of its own. -/
def writtenNote (text : String) : Remark where
  tag := .written "office:annotation" []
  content := element "text:p" [] [.text (bytesOf text)]
  name := by simp
  content_within := by simp [element, isWithin, isGridName, Cursor.isCellName]
  content_not_remark := by simp [element, isTagOf]

/-- Two paragraphs and an empty one, with annotations in front of the first, in the middle of it and
behind it. -/
def notedCell : TextCell where
  tag := textTag
  children := [
    .remark (writtenNote "checked"),
    .paragraph <| writtenParagraph <|
      .leaf (.text (bytesOf "Y")) <|
      .leaf (.spaces (.written "text:s" [("text:c", "2")]) (by simp)) <|
      .element (.written "text:span" []) (by simp [isInlineName, isGridName, Cursor.isCellName])
        (.leaf (.remark (writtenNote "sic")) <|
          .leaf (.text (bytesOf "=")) <| .leaf (.reference (bytesOf "gt")) .nil) <|
      .leaf (.tab (.written "text:tab" []) (by simp)) <|
      .leaf (.text (bytesOf "Active")) .nil,
    .remark (writtenNote "open"),
    .paragraph (writtenParagraph .nil),
    .paragraph <| writtenParagraph <|
      .leaf (.text (bytesOf "N")) <|
      .leaf (.lineBreak (.written "text:line-break" []) (by simp)) <|
      .leaf (.spaces (.written "text:s" []) (by simp)) .nil]
  begins := beginsText_textTag

/-- A spreadsheet with one table of one row with the given cells. -/
def notesPackage (cells : String) : Package where
  file := "notes.ods"
  archive := ⟨[⟨"content.xml", bytesOf <|
    "<office:spreadsheet><table:table table:name=\"Notes\"><table:table-row>" ++ cells ++
    "</table:table-row></table:table></office:spreadsheet>"⟩]⟩

/-- The cell with annotations as it is written. -/
def notedCellText : String :=
  let note (s : String) := "<office:annotation><text:p>" ++ s ++ "</text:p></office:annotation>"
  "<table:table-cell office:value-type=\"string\">" ++ note "checked" ++
    "<text:p>Y<text:s text:c=\"2\"/><text:span>" ++ note "sic" ++
    "=&gt;</text:span><text:tab/>Active</text:p>" ++ note "open" ++
    "<text:p/><text:p>N<text:line-break/><text:s/></text:p></table:table-cell>"

theorem TextCell.readTables_paragraphs_noted :
    Cursor.loose.inAnnotation = false ∧
    (Document.ofBytes (bytesOf notedCellText)).events = notedCell.events ∧
    notedCell.read = .ok "Y  =>\tActive\n\nN\n " ∧
    (∀ rest : List Event,
      readTables "notes.ods" {} none #[] (some Cursor.loose) (notedCell.events ++ rest) =
        readTables "notes.ods" {} none #[]
          (some (Cursor.loose.behindText 1 3 "Y  =>\tActive\n\nN\n ")) rest) ∧
    ((notesPackage notedCellText).readSheets {}).map (·.map (·.cells)) =
      .ok [#[⟨0, 0, .text, "Y  =>\tActive\n\nN\n "⟩]] := by
  have hread : notedCell.read = .ok "Y  =>\tActive\n\nN\n " := by decide +kernel
  refine ⟨rfl, by decide +kernel, hread, fun rest => ?_, by decide +kernel⟩
  have hcount : countOf cellCountName notedCell.tag = 1 := countOf_eq (Tag.count?_written_none rfl)
  have hloose : Cursor.loose.inAnnotation = false := rfl
  have hcell := readTables_paragraphs notedCell hloose "notes.ods" {} none #[] rest
  rw [hread, hcount] at hcell
  exact hcell

/-- A cell with one paragraph, in which a run of spaces stands between two letters. -/
def spacedCell (count : String) : TextCell where
  tag := textTag
  children := [.paragraph <| writtenParagraph <|
    .leaf (.text (bytesOf "a")) <|
    .leaf (.spaces (.written "text:s" [("text:c", count)]) (by simp)) <|
    .leaf (.text (bytesOf "b")) .nil]
  begins := beginsText_textTag

/-- The cell as it is written. -/
def spacedCellText (count : String) : String :=
  "<table:table-cell office:value-type=\"string\"><text:p>a<text:s text:c=\"" ++ count ++
    "\"/>b</text:p></table:table-cell>"

/-- A run may count more than a text can hold, and then the cells around it are lost with it. -/
theorem readSheets_overlong :
    (spacedCell "3").read = .ok "a   b" ∧
    (Tag.written "text:s" [("text:c", "18446744073709551615")]).count? "text:c" =
      .ok (some 18446744073709551615) ∧
    (Document.ofBytes (bytesOf (spacedCellText "18446744073709551615"))).events =
      (spacedCell "18446744073709551615").events ∧
    (spacedCell "18446744073709551615").read = .error .overflow ∧
    ((notesPackage (notedCellText ++ spacedCellText "18446744073709551615")).readSheets {}).map
      (·.map (·.cells)) = .error .overflow := by
  refine ⟨?_, ?_, ?_, ?_, ?_⟩ <;> decide +kernel

end DataDictionary.Workbook.OpenDocument
