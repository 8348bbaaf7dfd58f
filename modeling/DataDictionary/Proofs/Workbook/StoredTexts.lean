import DataDictionary.Proofs.Text.Blank
import DataDictionary.Proofs.Workbook.Positions
import DataDictionary.Proofs.Workbook.Prefixes

/-!
# Stored texts

The text of a cell stands in the cell, or among the shared items of the workbook, and the cell has
the number of the item. Items of both kinds are read alike, so a workbook is read as the same
sheets wherever its texts are stored. A number that no item has ends the reading.
-/

namespace DataDictionary.Workbook.OpenXml

open Markup Text

/-- The text of the content of an item that has begun. -/
def ItemText.read (start : ItemText) (content : List Event) : Except Error String :=
  (content.foldlM step start).map (·.text)

/-! ### Shared items -/

/-- The event begins the element of the given name. -/
def begins (name : String) : Event → Bool
  | .start tag => tag.name.is name
  | _ => false

/-- A shared item, and what stands before it. -/
structure SharedItem where
  before : List Event := []
  tag : Tag
  content : List Event := []
  before_begins : ∀ event ∈ before, begins "si" event = false
  name : tag.name.is "si" = true
  content_ends : ∀ event ∈ content, ends "si" event = false

/-- The shared items of a workbook, and what stands behind them. -/
structure SharedItems where
  items : List SharedItem
  after : List Event := []
  after_begins : ∀ event ∈ after, begins "si" event = false

def SharedItem.element (item : SharedItem) : List Event :=
  .start item.tag :: item.content ++ [.finish item.tag.name]

def SharedItem.events (item : SharedItem) : List Event := item.before ++ item.element

def SharedItem.text (item : SharedItem) : Except Error String := ItemText.ofItem.read item.content

def SharedItems.events (shared : SharedItems) : List Event :=
  shared.items.flatMap SharedItem.events ++ shared.after

namespace SharedTexts

/-- Between items, what begins none is passed over. -/
lemma foldlM_before {events : List Event} (h : ∀ event ∈ events, begins "si" event = false)
    (texts : Array String) :
    events.foldlM step { items := texts } = .ok { items := texts } := by
  refine foldlM_passed fun event hevent => ?_
  cases event with
  | start tag =>
    have htag : tag.name.is "si" = false := h _ hevent
    simp [step, htag]
  | _ => rfl

/-- The text of an item is put behind those before it. -/
lemma foldlM_element (item : SharedItem) (texts : Array String) :
    item.element.foldlM step { items := texts } =
      item.text.map fun text => { items := texts.push text } := by
  have hstart : step { items := texts } (.start item.tag) =
      .ok { items := texts, current := some .ofItem } := by
    simp [step, item.name]
  have hcontent : item.content.foldlM step { items := texts, current := some .ofItem } =
      (item.content.foldlM ItemText.step .ofItem).map
        fun read => { items := texts, current := some read } := by
    -- No event of the content ends the item, so all of them are its own.
    refine foldlM_embedded
      (fun read => ({ items := texts, current := some read } : SharedTexts)) ?_ _
    intro event hevent read
    simp [step, item.content_ends event hevent]
  have hfinish (read : ItemText) :
      step { items := texts, current := some read } (.finish item.tag.name) =
        .ok { items := texts.push read.text } := by
    simp [step, ends, item.name]
  rw [SharedItem.element, foldlM_enclosed, hstart, SharedItem.text, ItemText.read]
  simp only [bind, Except.bind, hcontent]
  cases item.content.foldlM ItemText.step .ofItem with
  | error error => rfl
  | ok read => exact hfinish read

lemma foldlM_items (items : List SharedItem) (texts : Array String) :
    (items.flatMap SharedItem.events).foldlM step { items := texts } =
      (items.mapM SharedItem.text).map fun more => { items := texts ++ more.toArray } := by
  induction items generalizing texts with
  | nil => simp [Except.map, pure, Except.pure]
  | cons item items ih =>
    rw [List.flatMap_cons, SharedItem.events, List.append_assoc, List.foldlM_append,
      foldlM_before item.before_begins, List.mapM_cons]
    show List.foldlM step _ (item.element ++ _) = _
    rw [List.foldlM_append, foldlM_element]
    cases item.text with
    | error error => rfl
    | ok text =>
      simp only [Except.map, bind, Except.bind, ih]
      cases items.mapM SharedItem.text with
      | error error => rfl
      | ok more => simp [pure, Except.pure]

/-- The shared texts are those of the items, in order and one for each of them. -/
lemma ofDocument_events (shared : SharedItems) :
    ofDocument { events := shared.events } =
      (shared.items.mapM SharedItem.text).map List.toArray := by
  have hfold : shared.events.foldlM step {} =
      (shared.items.mapM SharedItem.text).map fun texts => { items := texts.toArray } := by
    rw [SharedItems.events, List.foldlM_append, foldlM_items]
    cases shared.items.mapM SharedItem.text with
    | error error => rfl
    | ok texts =>
      simp only [Except.map, bind, Except.bind, Array.empty_append]
      exact foldlM_before shared.after_begins _
  rw [ofDocument, foldDocument, hfold]
  cases shared.items.mapM SharedItem.text <;> rfl

end SharedTexts

/-! ### Parts of an item -/

/-- The event is a tag of the element of the given name. -/
def isTagOf (name : String) : Event → Bool
  | .start tag => tag.name.is name
  | .finish n => n.is name
  | _ => false

/-- The event is no tag at all. -/
def isData : Event → Bool
  | .start _ | .finish _ => false
  | _ => true

/-- The text that an event stands for. -/
def dataOf : Event → Except Markup.Error String
  | .text s => content s
  | .cdata s => content s
  | .reference name => referenceContent name
  | _ => .ok ""

/-- The texts of the members of a list, one after the other. -/
def joinedBy {α : Type} (text : α → Except Markup.Error String) (l : List α) :
    Except Markup.Error String :=
  (l.mapM text).map String.join

/-- A text element. -/
structure TextElement where
  tag : Tag
  content : List Event := []
  name : tag.name.is "t" = true
  content_isData : ∀ event ∈ content, isData event = true

def TextElement.events (element : TextElement) : List Event :=
  .start element.tag :: element.content ++ [.finish element.tag.name]

/-- What the element holds. -/
def TextElement.text (element : TextElement) : Except Markup.Error String :=
  joinedBy dataOf element.content

/-- A text element, a phonetic guide, or what may stand around them: properties and white space. -/
inductive Leaf
  | text (element : TextElement)
  | guide (tag : Tag) (name : tag.name.is "rPh" = true) (content : List Event)
      (content_not_guide : ∀ event ∈ content, isTagOf "rPh" event = false)
  | other (event : Event) (not_text : isTagOf "t" event = false)
      (not_guide : isTagOf "rPh" event = false)

def Leaf.events : Leaf → List Event
  | text element => element.events
  | guide tag _ content _ => .start tag :: content ++ [.finish tag.name]
  | other event _ _ => [event]

/-- The text elements outside phonetic guides. -/
def Leaf.texts : Leaf → List TextElement
  | text element => [element]
  | guide _ _ _ _ | other _ _ _ => []

/-- A part of the content of an item. -/
inductive ItemPart
  | leaf (single : Leaf)
  /-- A run of rich text. -/
  | run (tag : Tag) (name : tag.name.is "r" = true) (content : List Leaf)

def ItemPart.events : ItemPart → List Event
  | leaf single => single.events
  | run tag _ content => .start tag :: content.flatMap Leaf.events ++ [.finish tag.name]

/-- The text elements outside phonetic guides. -/
def ItemPart.texts : ItemPart → List TextElement
  | leaf single => single.texts
  | run _ _ content => content.flatMap Leaf.texts

section Joined

variable {α : Type} (text : α → Except Markup.Error String)

lemma joinedBy_singleton (a : α) : joinedBy text [a] = text a := by
  rw [joinedBy, List.mapM_cons]
  cases text a with
  | error error => rfl
  | ok s => simp [Except.map, bind, Except.bind, pure, Except.pure]

lemma joinedBy_append (a b : List α) :
    joinedBy text (a ++ b) = (do
      let s ← joinedBy text a
      let t ← joinedBy text b
      pure (s ++ t)) := by
  simp only [joinedBy, List.mapM_append]
  cases a.mapM text with
  | error error => rfl
  | ok texts =>
    cases b.mapM text with
    | error error => rfl
    | ok more => exact congrArg Except.ok String.join_append

end Joined

/-- An item that is read as begun is in the same state behind the events, and a text was put behind
its text. -/
def Puts (start : ItemText) (events : List Event) (read : Except Markup.Error String) : Prop :=
  ∀ text, events.foldlM ItemText.step { start with text } =
    ofMarkup (read.map fun s => { start with text := text ++ s })

namespace Puts

variable {start : ItemText}

/-- Events that are passed over put nothing. -/
lemma passed {events : List Event}
    (h : ∀ text, events.foldlM ItemText.step { start with text } = .ok { start with text }) :
    Puts start events (.ok "") := by
  intro text
  simp only [h, Except.map, ofMarkup, String.append_empty]

lemma append {a b : List Event} {r r' : Except Markup.Error String} (ha : Puts start a r)
    (hb : Puts start b r') :
    Puts start (a ++ b) (do
      let s ← r
      let t ← r'
      pure (s ++ t)) := by
  intro text
  rw [List.foldlM_append, ha text]
  cases r with
  | error error => rfl
  | ok s =>
    simp only [Except.map, ofMarkup, bind, Except.bind, hb (text ++ s)]
    cases r' with
    | error error => rfl
    | ok t => simp [pure, Except.pure, String.append_assoc]

lemma flatMap {α β : Type} {events : α → List Event} {members : α → List β}
    {text : β → Except Markup.Error String} {l : List α}
    (h : ∀ a ∈ l, Puts start (events a) (joinedBy text (members a))) :
    Puts start (l.flatMap events) (joinedBy text (l.flatMap members)) := by
  induction l with
  | nil => exact passed fun _ => rfl
  | cons a l ih =>
    rw [List.forall_mem_cons] at h
    rw [List.flatMap_cons, List.flatMap_cons, joinedBy_append]
    exact h.1.append (ih h.2)

/-- In a text element, what an event stands for is put. -/
lemma data {event : Event} (h : isData event = true) : Puts .ofValue [event] (dataOf event) := by
  have happend (read : Except Markup.Error String) (text : String) :
      ItemText.append { ItemText.ofValue with text } read =
        ofMarkup (read.map fun s => { ItemText.ofValue with text := text ++ s }) := by
    cases read <;> rfl
  cases event with
  | start | finish => exact absurd h (by simp [isData])
  | text s | cdata s => exact fun text => (bind_pure _).trans (happend (content s) text)
  | reference name => exact fun text => (bind_pure _).trans (happend (referenceContent name) text)
  | _ => exact passed fun _ => rfl

/-- In a text element, what the events stand for is put, one text behind the other. -/
lemma content {events : List Event} (h : ∀ event ∈ events, isData event = true) :
    Puts .ofValue events (joinedBy dataOf events) := by
  have hdata : Puts .ofValue (events.flatMap fun event => [event])
      (joinedBy dataOf (events.flatMap fun event => [event])) := by
    refine flatMap fun event hevent => ?_
    rw [joinedBy_singleton]
    exact data (h event hevent)
  rwa [List.flatMap_singleton'] at hdata

/-- Outside text elements, what is no tag of one or of a guide is passed over. -/
lemma other {event : Event} (htext : isTagOf "t" event = false)
    (hguide : isTagOf "rPh" event = false) : Puts .ofItem [event] (.ok "") := by
  refine passed fun text => ?_
  cases event with
  | start tag | finish name => simp_all [isTagOf, ItemText.step, ItemText.ofItem]
  | _ => rfl

/-- A text element puts what it holds. -/
lemma textElement (element : TextElement) : Puts .ofItem element.events element.text := by
  intro text
  have hname := Name.eq_of_is element.name
  have hstart : ItemText.step { ItemText.ofItem with text } (.start element.tag) =
      .ok { ItemText.ofValue with text } := by
    simp [ItemText.step, hname, ItemText.ofItem, ItemText.ofValue]
  have hcontent : Puts .ofValue element.content element.text := content element.content_isData
  have hfinish (text : String) : ItemText.step { ItemText.ofValue with text }
      (.finish element.tag.name) = .ok { ItemText.ofItem with text } := by
    simp [ItemText.step, hname, ItemText.ofItem, ItemText.ofValue]
  rw [TextElement.events, foldlM_enclosed, hstart]
  simp only [bind, Except.bind, hcontent text]
  cases element.text with
  | error error => rfl
  | ok s => exact hfinish (text ++ s)

/-- A guide is passed over, whatever text elements it holds. -/
lemma guide {tag : Tag} (hname : tag.name.is "rPh" = true) {content : List Event}
    (hcontent : ∀ event ∈ content, isTagOf "rPh" event = false) :
    Puts .ofItem (.start tag :: content ++ [.finish tag.name]) (.ok "") := by
  refine passed fun text => ?_
  have hstart : ItemText.step { ItemText.ofItem with text } (.start tag) =
      .ok { phonetic := true, inText := false, text } := by
    simp [ItemText.step, hname, ItemText.ofItem]
  have hinside : content.foldlM ItemText.step { phonetic := true, inText := false, text } =
      .ok { phonetic := true, inText := false, text } := by
    refine foldlM_passed fun event hevent => ?_
    have hguide := hcontent event hevent
    cases event with
    | start tag | finish name => simp_all [isTagOf, ItemText.step]
    | _ => rfl
  rw [foldlM_enclosed, hstart]
  simp only [bind, Except.bind, hinside]
  simp [ItemText.step, hname, ItemText.ofItem]

lemma leaf (leaf : Leaf) : Puts .ofItem leaf.events (joinedBy TextElement.text leaf.texts) := by
  cases leaf with
  | text element =>
    rw [Leaf.texts, joinedBy_singleton]
    exact textElement element
  | guide tag hname content hcontent => exact guide hname hcontent
  | other event htext hguide => exact other htext hguide

lemma part (part : ItemPart) : Puts .ofItem part.events (joinedBy TextElement.text part.texts) := by
  cases part with
  | leaf single => exact leaf single
  | run tag hname content =>
    -- The tags of the run are passed over like what may stand around a text element.
    have hother (event : Event) (hevent : event = .start tag ∨ event = .finish tag.name) :
        isTagOf "t" event = false ∧ isTagOf "rPh" event = false := by
      rcases hevent with rfl | rfl <;> simp [isTagOf, Name.eq_of_is hname]
    have hstart := hother _ (.inl rfl)
    have hfinish := hother _ (.inr rfl)
    have hrun := flatMap
      (l := .other _ hstart.1 hstart.2 :: content ++ [.other _ hfinish.1 hfinish.2])
      fun single _ => leaf single
    simpa [ItemPart.events, ItemPart.texts, Leaf.events, Leaf.texts] using hrun

end Puts

/-- The text of parts is what their text elements outside guides hold. -/
theorem ItemText.read_parts (parts : List ItemPart) :
    ItemText.ofItem.read (parts.flatMap ItemPart.events) =
      ofMarkup (joinedBy TextElement.text (parts.flatMap ItemPart.texts)) := by
  have hparts := Puts.flatMap (l := parts) (fun part _ => Puts.part part) ""
  rw [read]
  show (List.foldlM ItemText.step { ItemText.ofItem with text := "" } _).map _ = _
  rw [hparts]
  cases joinedBy TextElement.text (parts.flatMap ItemPart.texts) with
  | error error => rfl
  | ok s => exact congrArg Except.ok String.empty_append

/-! ### Cells -/

/-- Inside a cell, the event belongs neither to a row nor to a cell and begins no value. -/
def isBeside : Event → Bool
  | .start tag => ["row", "c", "is", "v"].all (!tag.name.is ·)
  | .finish name => ["row", "c"].all (!name.is ·)
  | _ => true

/-- A cell of a type, its value in an element of the given name. -/
structure ValueCell (type name : String) where
  tag : Tag
  before : List Event := []
  valueTag : Tag
  content : List Event := []
  after : List Event := []
  tag_name : tag.name.is "c" = true
  tag_type : tag.attribute? "t" = .ok (some type)
  before_beside : ∀ event ∈ before, isBeside event = true
  valueTag_name : valueTag.name.is name = true
  content_ends : ∀ event ∈ content, ends name event = false
  after_beside : ∀ event ∈ after, isBeside event = true

/-- A cell with the number of a shared item. -/
abbrev NumberedCell := ValueCell "s" "v"

/-- A cell with a text as its value. -/
abbrev TextValueCell := ValueCell "str" "v"

/-- A cell with an item of its own. -/
abbrev InlineCell := ValueCell "inlineStr" "is"

def ValueCell.value {type name : String} (cell : ValueCell type name) : List Event :=
  .start cell.valueTag :: cell.content ++ [.finish cell.valueTag.name]

def ValueCell.events {type name : String} (cell : ValueCell type name) : List Event :=
  .start cell.tag :: (cell.before ++ cell.value ++ cell.after) ++ [.finish cell.tag.name]

/-- The value of the cell is the number, with white space around it if wanted. -/
def NumberedCell.HasNumber (cell : NumberedCell) (k : Nat) : Prop :=
  ∃ text, ItemText.ofValue.read cell.content = .ok text ∧ readCount (trim text.toList) = .ok k

/-- The text of the shared item of a number. -/
def Context.item (context : Context) (k : Nat) : Except Error String :=
  match context.shared[k]? with
  | some text => .ok text
  | none => .error (.missingSharedText context.file k)

namespace Cursor

/-- The cursor behind a cell with a text, which is put on the sheet unless it is empty. -/
def withText (cursor : Cursor) (reference : Option String) (text : String) : Cursor :=
  { cursor.inCell reference .empty with
    sheet :=
      if text = "" then cursor.sheet
      else
        cursor.sheet.push
          ⟨(cursor.positionOf reference).1, (cursor.positionOf reference).2, .text, text⟩ }

variable (context : Context) {cursor : Cursor}

lemma startCell_of_type {tag : Tag} {type : Option String} (htype : tag.attribute? "t" = .ok type)
    (hkind : kindOfType type ≠ .number) :
    cursor.startCell context tag =
      (cursor.referenceOf tag).map (cursor.inCell · (kindOfType type)) := by
  have hkindOf : kindOf context tag = .ok (kindOfType type) := by
    simp [kindOf, htype, ofMarkup, hkind, bind, Except.bind]
  rw [startCell_eq, hkindOf]
  cases cursor.referenceOf tag <;> rfl

lemma step_of_isBeside {event : Event} (hcollecting : cursor.collecting = none)
    (h : isBeside event = true) : cursor.step context event = .ok cursor := by
  rw [step, hcollecting]
  cases event with
  | start tag | finish name => simp_all [isBeside, stepOutside]
  | _ => rfl

/-- Inside a cell the value is read, and nothing else. -/
lemma foldlM_inside {before content after : List Event} {valueTag : Tag} {name : String}
    {start : ItemText} (hbefore : ∀ event ∈ before, isBeside event = true)
    (hafter : ∀ event ∈ after, isBeside event = true) (hname : valueTag.name.is name = true)
    (hcontent : ∀ event ∈ content, ends name event = false)
    (hstart : cursor.step context (.start valueTag) =
      .ok { cursor with collecting := some (name, start) })
    (hcollecting : cursor.collecting = none) :
    (before ++ (Event.start valueTag :: content ++ [Event.finish valueTag.name]) ++ after).foldlM
        (step context) cursor =
      (start.read content).map fun text => { cursor with value := text } := by
  have hbeside (next : Cursor) (hnext : next.collecting = none) {events : List Event}
      (h : ∀ event ∈ events, isBeside event = true) :
      events.foldlM (step context) next = .ok next :=
    foldlM_passed fun event hevent => step_of_isBeside context hnext (h event hevent)
  have hread : content.foldlM (step context) { cursor with collecting := some (name, start) } =
      (content.foldlM ItemText.step start).map
        fun read => { cursor with collecting := some (name, read) } := by
    refine foldlM_embedded (fun read => { cursor with collecting := some (name, read) }) ?_ _
    intro event hevent read
    simp [step, hcontent event hevent]
  have hfinish (read : ItemText) :
      step context { cursor with collecting := some (name, read) } (.finish valueTag.name) =
        .ok { cursor with value := read.text } := by
    simp [step, ends, hname, hcollecting]
  rw [List.foldlM_append, List.foldlM_append, hbeside _ hcollecting hbefore, ItemText.read]
  simp only [bind, Except.bind, foldlM_enclosed, hstart, hread]
  cases content.foldlM ItemText.step start with
  | error error => rfl
  | ok read =>
    simp only [Except.map, hfinish]
    exact hbeside { cursor with value := read.text } hcollecting hafter

/-- A cell with a text is put on the sheet. -/
lemma endCell_text (reference : Option String) (text : String) :
    { cursor.inCell reference .text with value := text }.endCell context =
      .ok (cursor.withText reference text) := by
  by_cases htext : text = ""
  · simp [endCell, settled, inCell, withText, htext, bind, Except.bind]
  · simp [endCell, settled, inCell, withText, htext, bind, Except.bind]

/-- A cell with the number of an item is put on the sheet with its text. -/
lemma endCell_numbered (reference : Option String) {value : String} {k : Nat}
    (hvalue : readCount (trim value.toList) = .ok k) :
    { cursor.inCell reference .sharedText with value }.endCell context =
      (context.item k).map (cursor.withText reference) := by
  have hsettled : { cursor.inCell reference .sharedText with value }.settled context =
      (context.item k).map (CellKind.text, ·) := by
    simp only [settled, inCell, hvalue, Context.item, BEq.rfl, if_true]
    cases context.shared[k]? <;> rfl
  cases hitem : context.item k with
  | error error =>
    rw [endCell, hsettled, hitem]
    rfl
  | ok text =>
    -- With its text looked up, the cell ends like one that has the text as its value.
    rw [Except.map, ← endCell_text context reference text, endCell, endCell, hsettled,
      hitem]
    rfl

end Cursor

namespace ValueCell

variable {type name : String} {context : Context} {cursor : Cursor}

lemma foldlM_inside (cell : ValueCell type name) {start : ItemText}
    (hstart : cursor.step context (.start cell.valueTag) =
      .ok { cursor with collecting := some (name, start) })
    (hcollecting : cursor.collecting = none) :
    (cell.before ++ cell.value ++ cell.after).foldlM (Cursor.step context) cursor =
      (start.read cell.content).map fun text => { cursor with value := text } :=
  Cursor.foldlM_inside context cell.before_beside cell.after_beside cell.valueTag_name
    cell.content_ends hstart hcollecting

/-- A cell is read as its tag, its value and its end. -/
lemma foldlM_events (cell : ValueCell type name) {start : ItemText} {kind : CellKind}
    (hkind : Cursor.kindOfType (some type) = kind) (hne : kind ≠ .number)
    (hstart : ∀ cursor : Cursor, cursor.collecting = none →
      cursor.step context (.start cell.valueTag) =
        .ok { cursor with collecting := some (name, start) })
    (hcollecting : cursor.collecting = none) :
    cell.events.foldlM (Cursor.step context) cursor = (do
      let reference ← cursor.referenceOf cell.tag
      let value ← start.read cell.content
      { cursor.inCell reference kind with value }.endCell context) := by
  have hname := Name.eq_of_is cell.tag_name
  subst hkind
  have htag : cursor.step context (.start cell.tag) =
      (cursor.referenceOf cell.tag).map (cursor.inCell · (Cursor.kindOfType (some type))) := by
    rw [← Cursor.startCell_of_type context cell.tag_type hne, Cursor.step,
      hcollecting]
    simp [Cursor.stepOutside, hname]
  have hfinish (next : Cursor) (hnext : next.collecting = none) :
      next.step context (.finish cell.tag.name) = next.endCell context := by
    simp [Cursor.step, hnext, Cursor.stepOutside, hname]
  rw [events, foldlM_enclosed, htag]
  cases cursor.referenceOf cell.tag with
  | error error => rfl
  | ok reference =>
    have hbegun : (cursor.inCell reference (Cursor.kindOfType (some type))).collecting = none :=
      hcollecting
    simp only [Except.map, bind, Except.bind, cell.foldlM_inside (hstart _ hbegun) hbegun]
    cases start.read cell.content with
    | error error => rfl
    | ok value => exact hfinish _ hbegun

end ValueCell

/-- An inline cell is read as a cell with the text of its content. -/
lemma InlineCell.foldlM_events (cell : InlineCell) {context : Context} {cursor : Cursor}
    (hcollecting : cursor.collecting = none) :
    List.foldlM (Cursor.step context) cursor cell.events = (do
      let reference ← cursor.referenceOf cell.tag
      let text ← ItemText.ofItem.read cell.content
      .ok (cursor.withText reference text)) := by
  have hname := Name.eq_of_is cell.valueTag_name
  have hstart (cursor : Cursor) (hcollecting : cursor.collecting = none) :
      cursor.step context (.start cell.valueTag) =
        .ok { cursor with collecting := some ("is", .ofItem) } := by
    simp [Cursor.step, hcollecting, Cursor.stepOutside, hname]
  have hkind : Cursor.kindOfType (some "inlineStr") = .text := rfl
  rw [ValueCell.foldlM_events cell hkind (by simp) hstart hcollecting]
  simp only [Cursor.endCell_text]

lemma ValueCell.step_start_value {type : String} (cell : ValueCell type "v") {context : Context}
    (cursor : Cursor) (hcollecting : cursor.collecting = none) :
    cursor.step context (.start cell.valueTag) =
      .ok { cursor with collecting := some ("v", .ofValue) } := by
  have hname := Name.eq_of_is cell.valueTag_name
  simp [Cursor.step, hcollecting, Cursor.stepOutside, hname]

/-- A cell with a text as its value is read as a cell with that text. -/
lemma TextValueCell.foldlM_events (cell : TextValueCell) {context : Context} {cursor : Cursor}
    (hcollecting : cursor.collecting = none) :
    List.foldlM (Cursor.step context) cursor cell.events = (do
      let reference ← cursor.referenceOf cell.tag
      let text ← ItemText.ofValue.read cell.content
      .ok (cursor.withText reference text)) := by
  have hkind : Cursor.kindOfType (some "str") = .text := rfl
  rw [ValueCell.foldlM_events cell hkind (by simp) cell.step_start_value hcollecting]
  simp only [Cursor.endCell_text]

/-- A cell with the number of an item is read as a cell with the text of the item. -/
lemma NumberedCell.foldlM_events (cell : NumberedCell) {k : Nat} (hnumber : cell.HasNumber k)
    {context : Context} {cursor : Cursor} (hcollecting : cursor.collecting = none) :
    List.foldlM (Cursor.step context) cursor cell.events = (do
      let reference ← cursor.referenceOf cell.tag
      let text ← context.item k
      .ok (cursor.withText reference text)) := by
  obtain ⟨value, hvalue, hread⟩ := hnumber
  have hkind : Cursor.kindOfType (some "s") = .sharedText := rfl
  rw [ValueCell.foldlM_events cell hkind (by simp) cell.step_start_value hcollecting, hvalue]
  refine bind_congr fun reference => ?_
  show Cursor.endCell context { cursor.inCell reference .sharedText with value } = _
  rw [Cursor.endCell_numbered context reference hread]
  cases context.item k <;> rfl

/-! ### Worksheets -/

/-- Two lists of events are those of worksheets that differ in where texts are stored: where the
first has the number of an item in a cell, the second has a cell with the content of the item. -/
inductive AreStored (items : List SharedItem) : List Event → List Event → Prop
  | rest (events : List Event) : AreStored items events events
  /-- Every text that begins in what stands between cells ends there. -/
  | passage {events a b : List Event} (closed : (events.foldl Watch.step {}).collecting = none) :
    AreStored items a b → AreStored items (events ++ a) (events ++ b)
  | cell {k : Nat} {item : SharedItem} {numbered : NumberedCell} {inline : InlineCell}
      {a b : List Event} (item_eq : items[k]? = some item) (number : numbered.HasNumber k)
      (content_eq : inline.content = item.content)
      (reference_eq : inline.tag.attribute? "r" = numbered.tag.attribute? "r") :
    AreStored items a b → AreStored items (numbered.events ++ a) (inline.events ++ b)

/-- Two worksheets differ in where texts are stored. -/
structure StoredAs (items : List SharedItem) (document other : Document) : Prop where
  events : AreStored items document.events other.events
  error_eq : other.error = document.error

/-- The texts of the context are those of the items. -/
lemma Context.item_eq {context : Context} {items : List SharedItem} {texts : List String}
    (htexts : items.mapM SharedItem.text = .ok texts) (hshared : context.shared = texts.toArray)
    {k : Nat} {item : SharedItem} (hitem : items[k]? = some item) :
    context.item k = item.text := by
  obtain ⟨hk, rfl⟩ := List.getElem?_eq_some_iff.mp hitem
  have hall := mapM_eq_ok_iff.mp htexts
  have hk' : k < texts.length := hall.length_eq ▸ hk
  have htext : items[k].text = .ok texts[k] := hall.get hk hk'
  simp [item, hshared, hk', htext]

lemma AreStored.foldlM_eq {items : List SharedItem} {a b : List Event} (h : AreStored items a b)
    {context : Context}
    (hitems : ∀ k item, items[k]? = some item → context.item k = item.text) {cursor : Cursor}
    (hcollecting : cursor.collecting = none) :
    b.foldlM (Cursor.step context) cursor = a.foldlM (Cursor.step context) cursor := by
  -- Between two cells both readings are at the same cursor, outside any text.
  induction h generalizing cursor with
  | rest => rfl
  | @passage events a b hclosed _ ih =>
    rw [List.foldlM_append, List.foldlM_append]
    cases hnext : events.foldlM (Cursor.step context) cursor with
    | error error => rfl
    | ok next => exact ih (Cursor.collecting_eq_none hclosed hcollecting hnext)
  | @cell k item numbered inline a b hitem hnumber hcontent hreference _ ih =>
    rw [List.foldlM_append, List.foldlM_append, inline.foldlM_events hcollecting,
      numbered.foldlM_events hnumber hcollecting, Cursor.referenceOf, hreference,
      ← Cursor.referenceOf, hcontent, hitems k item hitem, SharedItem.text]
    cases cursor.referenceOf numbered.tag with
    | error error => rfl
    | ok reference =>
      cases ItemText.ofItem.read item.content with
      | error error => rfl
      | ok text => exact ih hcollecting

/-! ### Workbooks -/

namespace Package

variable {package : Package} {shared : SharedItems}

/-- The workbook has the shared items. -/
def Shares (package : Package) (shared : SharedItems) : Prop :=
  document? package.archive "xl/sharedStrings.xml" = some { events := shared.events } ∨
    document? package.archive "xl/sharedStrings.xml" = none ∧ shared.items = []

/-- Reading comes to the events at the cursor: the chosen sheets before theirs can be read, and so
can what stands before them in their worksheet, where no text is being collected behind it. -/
inductive ComesTo (package : Package) (texts : Array String) (selection : Selection)
    (cursor : Cursor) (events : List Event) : Prop
  | intro {done rest : List SheetEntry} {entry : SheetEntry} {sheets : List Sheet}
      {before after : List Event} {error : Option Markup.Error}
      (chosen : selection.choose SheetEntry.name package.sheets = done ++ entry :: rest)
      (done_read : done.mapM (package.readEntry texts) = .ok sheets)
      (worksheet : document? package.archive entry.path =
        some { events := before ++ events ++ after, error })
      (before_read : before.foldlM (Cursor.step ⟨package.file, texts, package.kinds⟩)
        { sheet := .new package.file entry.name } = .ok cursor)
      (outside : cursor.collecting = none)

lemma sharedTexts_of_shares (h : package.Shares shared) :
    package.sharedTexts = (shared.items.mapM SharedItem.text).map List.toArray := by
  rw [sharedTexts]
  obtain hpart | ⟨hnone, hitems⟩ := h
  · rw [hpart]
    exact SharedTexts.ofDocument_events shared
  · rw [hnone, hitems]
    rfl

lemma readEntry_storedAs {other : Archive} {texts : List String}
    (htexts : shared.items.mapM SharedItem.text = .ok texts) {entry : SheetEntry}
    (h : Option.Rel (StoredAs shared.items) (document? package.archive entry.path)
      (document? other entry.path)) :
    { package with archive := other }.readEntry texts.toArray entry =
      package.readEntry texts.toArray entry := by
  rw [readEntry, readEntry, document, document]
  obtain ⟨hnone, hnone'⟩ | ⟨told, told', htold, htold', hstored⟩ := rel_cases h
  · simp only [hnone, hnone']
  · simp only [htold, htold', bind, Except.bind, readWorksheet, foldDocument, hstored.error_eq]
    rw [hstored.events.foldlM_eq (fun _ _ => Context.item_eq htexts rfl) rfl]

/-- If reading comes to events that fail, it fails like them, whatever follows. -/
lemma readSheets_of_comesTo {texts : Array String} (htexts : package.sharedTexts = .ok texts)
    {selection : Selection} {cursor : Cursor} {events : List Event}
    (h : package.ComesTo texts selection cursor events) {fault : Error}
    (hfault : cursor.collecting = none →
      events.foldlM (Cursor.step ⟨package.file, texts, package.kinds⟩) cursor = .error fault) :
    package.readSheets selection = .error fault := by
  obtain @⟨done, rest, entry, sheets, before, after, error, hchosen, hdone, hworksheet, hbefore,
    hcursor⟩ := h
  have hfold : (before ++ events ++ after).foldlM
      (Cursor.step ⟨package.file, texts, package.kinds⟩)
      { sheet := .new package.file entry.name } = .error fault := by
    rw [List.foldlM_append, List.foldlM_append, hbefore]
    simp only [bind, Except.bind, hfault hcursor]
  have hentry : package.readEntry texts entry = .error fault := by
    rw [readEntry, document_eq_ok_iff.mpr hworksheet]
    show readWorksheet _ _ _ = _
    rw [readWorksheet, foldDocument, hfold]
    rfl
  rw [readSheets_eq, htexts]
  show List.mapM _ (selection.choose SheetEntry.name package.sheets) = _
  rw [hchosen, List.mapM_append, hdone, List.mapM_cons, hentry]
  rfl

/-- A workbook is read as the same sheets wherever its texts are stored. The shared texts are those
of the items, in order and one for each of them; the text of parts is what their text elements
outside phonetic guides hold; and a cell with an item of its own is a cell with the text of that. So
a cell with the number of a shared item may have the content of the item instead. A number that no
item has ends the reading, if the cell can begin at all. -/
theorem readSheets_stored (h : package.Shares shared) :
    package.sharedTexts = (shared.items.mapM SharedItem.text).map List.toArray ∧
    (∀ parts : List ItemPart, ItemText.ofItem.read (parts.flatMap ItemPart.events) =
      ofMarkup (joinedBy TextElement.text (parts.flatMap ItemPart.texts))) ∧
    (∀ (cell : InlineCell) (context : Context) (cursor : Cursor), cursor.collecting = none →
      cell.events.foldlM (Cursor.step context) cursor = (do
        let reference ← cursor.referenceOf cell.tag
        let text ← ItemText.ofItem.read cell.content
        .ok (cursor.withText reference text))) ∧
    (∀ other : Archive,
      document? other "xl/sharedStrings.xml" =
        document? package.archive "xl/sharedStrings.xml" →
      ∀ selection : Selection,
        (∀ entry ∈ selection.choose SheetEntry.name package.sheets,
          Option.Rel (StoredAs shared.items) (document? package.archive entry.path)
            (document? other entry.path)) →
        { package with archive := other }.readSheets selection = package.readSheets selection) ∧
    ∀ (texts : Array String) (selection : Selection) (cursor : Cursor) (cell : NumberedCell) (k : Nat),
      package.sharedTexts = .ok texts → package.ComesTo texts selection cursor cell.events →
      cell.HasNumber k → shared.items.length ≤ k →
      package.readSheets selection = (do
        let _ ← cursor.referenceOf cell.tag
        .error (.missingSharedText package.file k)) := by
  have hshared := sharedTexts_of_shares h
  refine ⟨hshared, ItemText.read_parts, fun cell _ _ => cell.foldlM_events, ?_, ?_⟩
  · intro other hother selection hentries
    rw [readSheets_eq, readSheets_eq, sharedTexts, hother, ← sharedTexts, hshared]
    -- Items that cannot be read end both readings before any worksheet is opened.
    cases htexts : shared.items.mapM SharedItem.text with
    | error error => rfl
    | ok texts =>
      exact mapM_congr fun entry hentry => readEntry_storedAs htexts (hentries entry hentry)
  · intro texts selection cursor cell k htexts hcomes hnumber hk
    have hread (hcollecting : cursor.collecting = none) :
        cell.events.foldlM (Cursor.step ⟨package.file, texts, package.kinds⟩) cursor = (do
          let reference ← cursor.referenceOf cell.tag
          let text ← Context.item ⟨package.file, texts, package.kinds⟩ k
          .ok (cursor.withText reference text)) :=
      cell.foldlM_events hnumber hcollecting
    cases hreference : cursor.referenceOf cell.tag with
    | error error =>
      refine readSheets_of_comesTo htexts hcomes fun hcollecting => ?_
      rw [hread hcollecting, hreference]
      rfl
    | ok reference =>
      refine readSheets_of_comesTo htexts hcomes fun hcollecting => ?_
      rw [hshared] at htexts
      obtain ⟨list, hlist, rfl⟩ := map_eq_ok htexts
      have hlength := (mapM_eq_ok_iff.mp hlist).length_eq
      have hnone : list[k]? = none := List.getElem?_eq_none (hlength ▸ hk)
      rw [hread hcollecting, hreference]
      simp [Context.item, hnone, bind, Except.bind]

end Package

/-! ### A workbook with its texts stored both ways -/

/-- A written cell with the number of an item. -/
def numberedCell (reference : String) (k : Nat) : NumberedCell where
  tag := .written "c" [("r", reference), ("t", "s")]
  valueTag := .written "v" []
  content := [.text (bytesOf (String.ofList (decimal k)))]
  tag_name := by simp
  tag_type := by simp [List.lookup_cons]
  before_beside := by simp
  valueTag_name := by simp
  content_ends := by simp [ends]
  after_beside := by simp

/-- Every number of 64 bits is that of a written cell. -/
lemma hasNumber_numberedCell (reference : String) {k : Nat} (h : k < wordLimit) :
    NumberedCell.HasNumber (numberedCell reference k) k := by
  have hdigits : ∀ c ∈ decimal k, c.isDigit = true := fun _ => isDigit_of_mem_decimal
  have hcontent : content (bytesOf (String.ofList (decimal k))) =
      .ok (String.ofList (decimal k)) := by
    rw [content_bytesOf, String.toList_ofList, normalizeLines_of_isDigit hdigits]
  refine ⟨String.ofList (decimal k), ?_, ?_⟩
  · simp [ItemText.read, numberedCell, ItemText.step, ItemText.append, ItemText.ofValue, hcontent,
      Except.map, bind, Except.bind, pure, Except.pure]
  · rw [String.toList_ofList, trim_of_isDigit hdigits, readCount_decimal h]

/-- A written cell with an item of its own. -/
def inlineCell (reference : String) (content : List Event)
    (content_ends : ∀ event ∈ content, ends "is" event = false) : InlineCell where
  tag := .written "c" [("r", reference), ("t", "inlineStr")]
  valueTag := .written "is" []
  content := content
  tag_name := by simp
  tag_type := by simp [List.lookup_cons]
  before_beside := by simp
  valueTag_name := by simp
  content_ends := content_ends
  after_beside := by simp

/-- A written shared item. -/
def sharedItem (content : List Event)
    (content_ends : ∀ event ∈ content, ends "si" event = false) : SharedItem where
  tag := .written "si" []
  content := content
  before_begins := by simp
  name := by simp
  content_ends := content_ends

/-- A written text element. -/
def writtenText (text : String) : TextElement where
  tag := .written "t" []
  content := [.text (bytesOf text)]
  name := by simp
  content_isData := by simp [isData]

/-- A text in two runs, the first with properties, and a phonetic guide for it. -/
def kilogram : List ItemPart := [
  .run (.written "r" []) (by simp) [
    .other (.start (.written "b" [])) (by simp [isTagOf]) (by simp [isTagOf]),
    .other (.finish ⟨bytesOf "b"⟩) (by simp [isTagOf]) (by simp [isTagOf]),
    .text (writtenText "kilo")],
  .leaf (.other (.text (bytesOf " ")) rfl rfl),
  .run (.written "r" []) (by simp) [.text (writtenText "gram")],
  .leaf (.guide (.written "rPh" []) (by simp) (writtenText "kee").events (by decide))]

/-- A plain item, one without parts and one with runs and a guide. -/
def labels : SharedItems where
  items := [
    { sharedItem (writtenText "unit").events (by decide) with
      before := [.start (.written "sst" [])]
      before_begins := by simp [begins] },
    sharedItem [] (by simp),
    sharedItem (kilogram.flatMap ItemPart.events) (by decide)]
  after := [.finish ⟨bytesOf "sst"⟩]
  after_begins := by simp [begins]

/-- The content of the item with runs, as it is written. -/
def kilogramText : String :=
  "<r><b/><t>kilo</t></r> <r><t>gram</t></r><rPh><t>kee</t></rPh>"

/-- The archive with the shared items and a row of the given cells. -/
def labelsArchive (cells : String) : Archive :=
  tallyArchive (tallyWorkbook "" asDefault) [
    ⟨"xl/worksheets/a.xml", bytesOf <| written "" "row" "" cells⟩,
    ⟨"xl/sharedStrings.xml", bytesOf <| written "" "sst" "" <|
      "<si><t>unit</t></si><si/>" ++ written "" "si" "" kilogramText⟩]

/-- The workbook with the given cells, opened. -/
def labelsPackage (cells : String) : Package where
  file := "/usage.xlsx"
  archive := labelsArchive cells
  sheets := [⟨"Tally", "xl/worksheets/a.xml"⟩]
  kinds := #[]

/-- Cells with the numbers of the items. -/
def labelsNumbered : String :=
  "<c r=\"A1\" t=\"s\"><v>2</v></c><c r=\"B1\" t=\"s\"><v>1</v></c><c t=\"str\"><v>1</v></c>"

/-- The same with items of their own. -/
def labelsInline : String :=
  "<c r=\"A1\" t=\"inlineStr\"><is>" ++ kilogramText ++ "</is></c>" ++
    "<c r=\"B1\" t=\"inlineStr\"><is/></c><c t=\"str\"><v>1</v></c>"

/-- A cell with a number that no item has. -/
def labelsLost : String := "<c r=\"A1\" t=\"s\"><v>3</v></c>"

/-- The events behind the cells that are stored. -/
def labelsRest : List Event :=
  element "c" [("t", "str")] (element "v" [] [.text (bytesOf "1")]) ++ [.finish ⟨bytesOf "row"⟩]

lemma areStored_labels : AreStored labels.items
    ([.start (.written "row" [])] ++
      ((numberedCell "A1" 2).events ++ ((numberedCell "B1" 1).events ++ labelsRest)))
    ([.start (.written "row" [])] ++
      ((inlineCell "A1" (kilogram.flatMap ItemPart.events) (by decide)).events ++
        ((inlineCell "B1" [] (by simp)).events ++ labelsRest))) := by
  have hreference (reference : String) (k : Nat) (content : List Event)
      (hcontent : ∀ event ∈ content, ends "is" event = false) :
      (inlineCell reference content hcontent).tag.attribute? "r" =
        (numberedCell reference k).tag.attribute? "r" := by
    simp [inlineCell, numberedCell]
  refine .passage (by decide) (.cell (k := 2) rfl ?_ rfl (hreference _ _ _ _)
    (.cell (k := 1) rfl ?_ rfl (hreference _ _ _ _) (.rest labelsRest)))
  · exact hasNumber_numberedCell "A1" (by decide)
  · exact hasNumber_numberedCell "B1" (by decide)

lemma storedAs_labels : Option.Rel (StoredAs labels.items)
    (document? (labelsArchive labelsNumbered) "xl/worksheets/a.xml")
    (document? (labelsArchive labelsInline) "xl/worksheets/a.xml") := by
  have hnumbered : document? (labelsArchive labelsNumbered) "xl/worksheets/a.xml" = some {
      events := [.start (.written "row" [])] ++
        ((numberedCell "A1" 2).events ++ ((numberedCell "B1" 1).events ++ labelsRest)) } := by
    decide +kernel
  have hinline : document? (labelsArchive labelsInline) "xl/worksheets/a.xml" = some {
      events := [.start (.written "row" [])] ++
        ((inlineCell "A1" (kilogram.flatMap ItemPart.events) (by decide)).events ++
          ((inlineCell "B1" [] (by simp)).events ++ labelsRest)) } := by
    decide +kernel
  rw [hnumbered, hinline]
  exact .some ⟨areStored_labels, rfl⟩

lemma comesTo_labelsLost :
    (labelsPackage labelsLost).ComesTo #["unit", "", "kilogram"] {}
      { sheet := .new "/usage.xlsx" "Tally" } (numberedCell "A1" 3).events := by
  have hchosen : ({} : Selection).choose SheetEntry.name (labelsPackage labelsLost).sheets =
      [] ++ ⟨"Tally", "xl/worksheets/a.xml"⟩ :: [] := by decide
  have hworksheet : document? (labelsArchive labelsLost) "xl/worksheets/a.xml" = some {
      events := [.start (.written "row" [])] ++ (numberedCell "A1" 3).events ++
        [.finish ⟨bytesOf "row"⟩] } := by
    decide +kernel
  have hrow (context : Context) (cursor : Cursor) (hcollecting : cursor.collecting = none) :
      [.start (.written "row" [])].foldlM (Cursor.step context) cursor =
        .ok { cursor with row := cursor.nextRow, nextCol := 0 } := by
    have hcount : (Tag.written "row" []).count? "r" = .ok none := Tag.count?_written_none rfl
    simp [Cursor.step, hcollecting, Cursor.stepOutside, Cursor.startRow, hcount, ofMarkup, bind,
      Except.bind, pure, Except.pure]
  exact .intro hchosen rfl hworksheet (hrow _ _ rfl) rfl

theorem Package.readSheets_stored_labels :
    Package.load (diskWith (labelsArchive labelsNumbered)) "/usage.xlsx" =
      .ok (labelsPackage labelsNumbered) ∧
    (labelsPackage labelsNumbered).Shares labels ∧
    (labelsPackage labelsNumbered).sharedTexts = .ok #["unit", "", "kilogram"] ∧
    { labelsPackage labelsNumbered with archive := labelsArchive labelsInline }.readSheets {} =
      (labelsPackage labelsNumbered).readSheets {} ∧
    ((labelsPackage labelsNumbered).readSheets {}).map (·.map (·.cells.toList)) =
      .ok [[⟨0, 0, .text, "kilogram"⟩, ⟨0, 2, .text, "1"⟩]] ∧
    (labelsPackage labelsLost).Shares labels ∧
    (labelsPackage labelsLost).readSheets {} = .error (.missingSharedText "/usage.xlsx" 3) := by
  have hload : Package.load (diskWith (labelsArchive labelsNumbered)) "/usage.xlsx" =
      .ok (labelsPackage labelsNumbered) := by decide +kernel
  have hnumbered : (labelsPackage labelsNumbered).Shares labels := .inl (by decide +kernel)
  have hlost : (labelsPackage labelsLost).Shares labels := .inl (by decide +kernel)
  have htexts : labels.items.mapM SharedItem.text = .ok ["unit", "", "kilogram"] := by
    decide +kernel
  have hentries : ∀ entry ∈ ({} : Selection).choose SheetEntry.name
      (labelsPackage labelsNumbered).sheets, Option.Rel (StoredAs labels.items)
        (document? (labelsArchive labelsNumbered) entry.path)
        (document? (labelsArchive labelsInline) entry.path) :=
    List.forall_mem_singleton.mpr storedAs_labels
  obtain ⟨hshared, -, -, hother, -⟩ := readSheets_stored hnumbered
  obtain ⟨hshared', -, -, -, hmissing⟩ := readSheets_stored hlost
  rw [htexts] at hshared hshared'
  have hread := hother (labelsArchive labelsInline) rfl {} hentries
  have hfails := hmissing _ {} _ (numberedCell "A1" 3) 3 hshared' comesTo_labelsLost
    (hasNumber_numberedCell "A1" (by decide)) (by decide)
  have hreference : Cursor.referenceOf { sheet := .new "/usage.xlsx" "Tally" }
      (numberedCell "A1" 3).tag = .ok (some "A1") :=
    Cursor.referenceOf_of_lt (by simp [numberedCell]) (by decide)
  rw [hreference] at hfails
  exact ⟨hload, hnumbered, hshared, hread, by decide +kernel, hlost, hfails⟩

end DataDictionary.Workbook.OpenXml
