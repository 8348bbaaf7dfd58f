import DataDictionary.Proofs.Workbook.Paragraphs

/-!
# Character data between the children of a cell

Character data between the paragraphs of a cell in a table is not passed over, even if it is white
space that only sets the elements off from each other: it is put into the text where it stands.
-/

namespace DataDictionary.Workbook.OpenDocument

open Markup Text

open OpenXml (isTagOf)

/-! ### Blocks -/

/-- An annotation is open behind the event. -/
def isAnnotated (isOpen : Bool) : Event → Bool
  | .start tag => tag.name.is "office:annotation" || isOpen
  | .finish name => !name.is "office:annotation" && isOpen
  | _ => isOpen

/-- Content of a cell in which every annotation ends, such as a child of the cell. -/
structure Block where
  events : List Event
  within : events.all isWithin = true
  closed : events.foldl isAnnotated false = false

/-- The tags of an element that is no annotation tell nothing of annotations. -/
lemma foldl_isAnnotated_element {tag : Tag} (hname : tag.name.is "office:annotation" = false)
    (content : List Event) (isOpen : Bool) :
    (Event.start tag :: content ++ [Event.finish tag.name]).foldl isAnnotated isOpen =
      content.foldl isAnnotated isOpen := by
  simp [isAnnotated, hname]

lemma Remark.closed (remark : Remark) :
    remark.events.foldl isAnnotated false = false := by
  have hcontent : remark.content.foldl isAnnotated true = true := by
    refine List.foldlRecOn (motive := (· = true)) remark.content isAnnotated rfl ?_
    rintro _ rfl event hevent
    have hother := remark.content_not_remark event hevent
    cases event with
    | start | finish => simp_all [isTagOf, isAnnotated]
    | _ => rfl
  simp [events, isAnnotated, remark.name, hcontent]

lemma Leaf.closed (leaf : Leaf) : leaf.events.foldl isAnnotated false = false := by
  cases leaf with
  | text | reference => rfl
  | spaces tag hname | tab tag hname | lineBreak tag hname =>
    simp [events, isAnnotated, Name.eq_of_is hname]
  | remark note => exact note.closed

lemma Inline.closed (content : Inline) : content.events.foldl isAnnotated false = false := by
  induction content with
  | nil => rfl
  | leaf first rest ih => rw [events, List.foldl_append, first.closed, ih]
  | element tag hname content rest ihcontent ihrest =>
    obtain ⟨-, hnames⟩ := Bool.and_eq_true_iff.mp hname
    simp only [List.all_cons, Bool.and_eq_true, Bool.not_eq_true'] at hnames
    rw [events, List.foldl_append, foldl_isAnnotated_element hnames.1, ihcontent, ihrest]

/-- A child of a cell is a block. -/
def Child.block (child : Child) : Block where
  events := child.events
  within := child.all_isWithin
  closed := by
    cases child with
    | paragraph element =>
      have hname : element.tag.name.is "office:annotation" = false := by
        simp [Name.eq_of_is element.name]
      rw [events, Paragraph.events, foldl_isAnnotated_element hname, element.content.closed]
    | remark note => exact note.closed

/-- The content of a cell in blocks, with texts in front of each of them and behind the last. -/
structure SpacedContent where
  blocks : List (String × Block)
  last : String

namespace SpacedContent

/-- The content without the texts. -/
def plain (content : SpacedContent) : List Event := content.blocks.flatMap fun p => p.2.events

/-- The content with the texts where they stand. -/
def spaced (content : SpacedContent) : List Event :=
  (content.blocks.flatMap fun p => runEvents p.1.toList ++ p.2.events) ++
    runEvents content.last.toList

def gaps (content : SpacedContent) : List String := content.blocks.map Prod.fst ++ [content.last]

/-- What the blocks hold, with the texts where they stand. -/
def spacedText (content : SpacedContent) (texts : List String) : String :=
  String.join (content.blocks.zipWith (fun p text => lined p.1 ++ text) texts) ++
    lined content.last

end SpacedContent

namespace Cursor

/-- The cursor with what another one has read of the text of a cell put behind its value. -/
def goOn (cursor part : Cursor) : Cursor :=
  { cursor with
    value := cursor.value ++ part.value
    inText := part.inText
    inAnnotation := part.inAnnotation
    paragraphs := part.paragraphs }

/-- A cursor in the text of a cell that has no value yet, behind so many paragraphs. -/
def inTextBehind (begun : Nat) : Cursor := { loose with inText := true, paragraphs := begun }

/-- What is read of the text of a cell does not depend on the text in front of it. -/
lemma isFrame_goOn (cursor : Cursor) : IsFrame cursor.goOn where
  inText_eq _ := rfl
  inAnnotation_eq _ := rfl
  paragraphs_eq _ := rfl
  append_eq part s := by simp [append, goOn, String.append_assoc]
  annotated_eq _ _ := rfl
  counted_eq _ _ := rfl

variable {cursor : Cursor}

lemma IsInText.goOn_inTextBehind {begun : Nat} (h : cursor.IsInText begun) :
    cursor.goOn (inTextBehind begun) = cursor := by
  obtain ⟨hinText, hremark, rfl⟩ := h
  simp [goOn, inTextBehind, ← hinText, ← hremark, loose]

lemma inText_startInText {tag : Tag} (hinText : cursor.inText = true) {next : Cursor}
    (h : cursor.startInText tag = .ok next) :
    next.inText = true ∧
      next.inAnnotation = (tag.name.is "office:annotation" || cursor.inAnnotation) := by
  rw [startInText] at h
  split at h
  · next hname =>
    obtain rfl := Except.ok.inj h
    exact ⟨hinText, by rw [hname, Bool.true_or]⟩
  next hname =>
  rw [Bool.eq_false_of_not_eq_true hname, Bool.false_or]
  split at h
  · obtain rfl := Except.ok.inj h
    exact ⟨hinText, rfl⟩
  split at h
  · obtain rfl := Except.ok.inj h
    rw [startParagraph_eq_append]
    exact ⟨hinText, rfl⟩
  split at h
  · obtain ⟨count, -, h⟩ := bind_eq_ok h
    obtain ⟨spaces, -, h⟩ := bind_eq_ok h
    obtain rfl := Except.ok.inj h
    exact ⟨hinText, rfl⟩
  -- A tab, a line break and any other element leave both flags as they are.
  split at h
  · obtain rfl := Except.ok.inj h
    exact ⟨hinText, rfl⟩
  split at h <;>
  · obtain rfl := Except.ok.inj h
    exact ⟨hinText, rfl⟩

lemma inText_appendContent {content : Except Markup.Error String} {next : Cursor}
    (h : cursor.appendContent content = .ok next) :
    next.inText = cursor.inText ∧ next.inAnnotation = cursor.inAnnotation := by
  rw [appendContent] at h
  split at h
  · obtain ⟨s, -, rfl⟩ := goOn_eq_ok h
    exact ⟨rfl, rfl⟩
  · obtain rfl := Except.ok.inj h
    exact ⟨rfl, rfl⟩

/-- Inside a cell, an event goes on with the text, and annotations are as the events tell. -/
lemma inText_step {event : Event} (h : isWithin event = true) (hinText : cursor.inText = true)
    {next : Cursor} (hstep : cursor.step event = .ok next) :
    next.inText = true ∧ next.inAnnotation = isAnnotated cursor.inAnnotation event := by
  cases event with
  | start tag =>
    have hgrid : isGridName tag.name = false := by simpa [isWithin] using h
    rw [step_start_within _ hgrid, if_pos hinText] at hstep
    exact inText_startInText hinText hstep
  | finish name =>
    have hgrid : isGridName name = false := by simpa [isWithin] using h
    rw [step_finish_within _ hgrid, hinText, Bool.true_and] at hstep
    split at hstep
    · next hname =>
      obtain rfl := Except.ok.inj hstep
      exact ⟨rfl, by simp [isAnnotated, hname]⟩
    · next hname =>
      obtain rfl := Except.ok.inj hstep
      exact ⟨hinText, by simp [isAnnotated, hname]⟩
  | text | reference =>
    obtain ⟨htext, hremark⟩ := inText_appendContent hstep
    exact ⟨htext.trans hinText, hremark⟩
  | _ =>
    obtain rfl := Except.ok.inj hstep
    exact ⟨hinText, rfl⟩

lemma inText_foldlM {events : List Event} (h : events.all isWithin = true)
    (hinText : cursor.inText = true) {last : Cursor}
    (hread : events.foldlM step cursor = .ok last) :
    last.inText = true ∧ last.inAnnotation = events.foldl isAnnotated cursor.inAnnotation := by
  induction events generalizing cursor with
  | nil =>
    obtain rfl := Except.ok.inj hread
    exact ⟨hinText, rfl⟩
  | cons event events ih =>
    obtain ⟨hevent, hevents⟩ := Bool.and_eq_true_iff.mp (List.all_cons ▸ h)
    rw [List.foldlM_cons] at hread
    obtain ⟨next, hnext, hread⟩ := bind_eq_ok hread
    obtain ⟨hinText', hremark⟩ := inText_step hevent hinText hnext
    rw [List.foldl_cons, ← hremark]
    exact ih hevents hinText' hread

end Cursor

/-- A block that can be read adds a text of its own. -/
lemma Block.exists_adds (block : Block) {begun : Nat} {cursor next : Cursor}
    (hcursor : cursor.IsInText begun) (h : block.events.foldlM Cursor.step cursor = .ok next) :
    ∃ text paragraphs, Adds block.events begun paragraphs (.ok text) ∧
      next.IsInText paragraphs := by
  have hrun (cursor : Cursor) (hcursor : cursor.IsInText begun) :
      block.events.foldlM Cursor.step cursor =
        (block.events.foldlM Cursor.step (.inTextBehind begun)).map cursor.goOn := by
    have hembedded := cursor.isFrame_goOn.foldlM_eq (.inTextBehind begun) block.within
    rwa [hcursor.goOn_inTextBehind] at hembedded
  rw [hrun cursor hcursor] at h
  obtain ⟨part, hpart, rfl⟩ := map_eq_ok h
  obtain ⟨hinText, hremark⟩ := Cursor.inText_foldlM block.within rfl hpart
  replace hremark := hremark.trans block.closed
  refine ⟨part.value, part.paragraphs, fun other hother => ?_, hinText, hremark, rfl⟩
  rw [hrun other hother, hpart]
  simp [Except.map, Cursor.goOn, Cursor.append, hinText, hremark, hother.inText_eq,
    hother.inAnnotation_eq]

/-- Character data is put behind the value with its line ends made one. -/
lemma Adds.gap {begun : Nat} (gap : String) :
    Adds (runEvents gap.toList) begun begun (.ok (lined gap)) := by
  rw [runEvents]
  split
  · next h =>
    obtain rfl : gap = "" := by simpa using h
    exact passed fun _ _ => rfl
  · rw [String.ofList_toList, lined]
    have hdata : Adds [.text (bytesOf gap)] begun begun (ofMarkup (content (bytesOf gap))) :=
      data fun _ => rfl
    rwa [content_bytesOf] at hdata

namespace SpacedContent

/-- Blocks that can be read one after the other are also read with character data in front of each
of them. -/
lemma exists_adds {blocks : List (String × Block)} {begun : Nat} {cursor last : Cursor}
    (hcursor : cursor.IsInText begun)
    (h : (blocks.flatMap fun p => p.2.events).foldlM Cursor.step cursor = .ok last) :
    ∃ texts paragraphs, texts.length = blocks.length ∧
      Adds (blocks.flatMap fun p => p.2.events) begun paragraphs (.ok (String.join texts)) ∧
      Adds (blocks.flatMap fun p => runEvents p.1.toList ++ p.2.events) begun paragraphs
        (.ok (String.join (blocks.zipWith (fun p text => lined p.1 ++ text) texts))) := by
  induction blocks generalizing begun cursor with
  | nil => exact ⟨[], begun, rfl, .passed fun _ _ => rfl, .passed fun _ _ => rfl⟩
  | cons block blocks ih =>
    rw [List.flatMap_cons, List.foldlM_append] at h
    obtain ⟨next, hnext, hlast⟩ := bind_eq_ok h
    obtain ⟨text, begun', hblock, hcursor'⟩ := block.2.exists_adds hcursor hnext
    obtain ⟨texts, paragraphs, hlength, hplain, hspaced⟩ := ih hcursor' hlast
    refine ⟨text :: texts, paragraphs, congrArg Nat.succ hlength, ?_, ?_⟩
    · rw [List.flatMap_cons, String.join_cons]
      exact hblock.append hplain
    · rw [List.flatMap_cons, List.zipWith_cons_cons, String.join_cons]
      exact ((Adds.gap block.1).append hblock).append hspaced

lemma adds_spaced {content : SpacedContent} {texts : List String} {paragraphs : Nat}
    (h : Adds (content.blocks.flatMap fun p => runEvents p.1.toList ++ p.2.events) 0 paragraphs
      (.ok (String.join (content.blocks.zipWith (fun p text => lined p.1 ++ text) texts)))) :
    Adds content.spaced 0 paragraphs (.ok (content.spacedText texts)) :=
  h.append (Adds.gap content.last)

/-- The texts that stand between blocks make the text longer by their lengths. -/
lemma length_zipWith_gaps {blocks : List (String × Block)} {texts : List String}
    (h : texts.length = blocks.length) :
    (String.join (blocks.zipWith (fun p text => lined p.1 ++ text) texts)).length =
      (String.join texts).length + (blocks.map fun p => (lined p.1).length).sum := by
  induction blocks generalizing texts with
  | nil =>
    obtain rfl := List.eq_nil_of_length_eq_zero h
    rfl
  | cons block blocks ih =>
    obtain - | ⟨text, texts⟩ := texts
    · exact absurd h (by simp)
    rw [List.zipWith_cons_cons, String.join_cons, String.join_cons, String.length_append,
      String.length_append, String.length_append, ih (Nat.succ.inj h), List.map_cons, List.sum_cons]
    omega

/-- Empty texts between blocks leave the text as it is. -/
lemma zipWith_gaps_eq {blocks : List (String × Block)} {texts : List String}
    (h : texts.length = blocks.length) (hgaps : ∀ p ∈ blocks, p.1 = "") :
    blocks.zipWith (fun p text => lined p.1 ++ text) texts = texts := by
  induction blocks generalizing texts with
  | nil =>
    obtain rfl := List.eq_nil_of_length_eq_zero h
    rfl
  | cons block blocks ih =>
    obtain - | ⟨text, texts⟩ := texts
    · exact absurd h (by simp)
    rw [List.forall_mem_cons] at hgaps
    have hgap : lined block.1 = "" := congrArg lined hgaps.1
    rw [List.zipWith_cons_cons, ih (Nat.succ.inj h) hgaps.2, hgap, String.empty_append]

/-- A text between blocks that is not empty makes the text another one. -/
lemma spacedText_eq_iff {content : SpacedContent} {texts : List String}
    (h : texts.length = content.blocks.length) :
    content.spacedText texts = String.join texts ↔ ∀ gap ∈ content.gaps, gap = "" := by
  have hlength : (content.spacedText texts).length =
      (String.join texts).length + (content.gaps.map fun gap => (lined gap).length).sum := by
    simp [spacedText, gaps, String.length_append, length_zipWith_gaps h, Function.comp_def,
      Nat.add_assoc]
  constructor
  · intro heq gap hgap
    have hsum : (content.gaps.map fun gap => (lined gap).length).sum = 0 := by
      rw [heq] at hlength
      omega
    by_contra hne
    refine lined_ne_empty hne (String.length_eq_zero_iff.mp ?_)
    exact List.sum_eq_zero_iff_forall_eq_nat.mp hsum _ (List.mem_map_of_mem hgap)
  · intro hgaps
    have hblocks : ∀ p ∈ content.blocks, p.1 = "" := fun p hp =>
      hgaps p.1 (List.mem_append_left _ (List.mem_map_of_mem hp))
    have hlast : lined content.last = "" :=
      congrArg lined (hgaps content.last (List.mem_append_right _ (List.mem_singleton_self _)))
    rw [spacedText, zipWith_gaps_eq h hblocks, hlast, String.append_empty]

lemma all_isWithin_runEvents (run : List Char) : (runEvents run).all isWithin = true := by
  rw [runEvents]
  split <;> rfl

lemma plain_within (content : SpacedContent) : content.plain.all isWithin = true := by
  rw [plain, List.all_flatMap, List.all_eq_true]
  exact fun p _ => p.2.within

lemma spaced_within (content : SpacedContent) : content.spaced.all isWithin = true := by
  rw [spaced, List.all_append, all_isWithin_runEvents, Bool.and_true, List.all_flatMap,
    List.all_eq_true]
  intro p _
  rw [List.all_append, all_isWithin_runEvents, p.2.within, Bool.true_and]

/-- Wherever a cell with a text is read, outside annotations, character data between its children is
put into the text where it stands, white space like any other. So it leaves the value as it is only
if there is none. -/
theorem readTables_spaced (content : SpacedContent) {tag : Tag} (htag : BeginsText tag)
    {last : Cursor} (h : CellElement.read { tag, content := content.plain } = .ok last) :
    ∃ texts paragraphs, texts.length = content.blocks.length ∧
      (∀ cursor : Cursor, cursor.inAnnotation = false → ∀ (file : String) (selection : Selection)
        (error : Option Markup.Error) (sheets : Array Sheet) (rest : List Event),
        readTables file selection error sheets (some cursor)
            (.start tag :: content.plain ++ [.finish tag.name] ++ rest) =
          readTables file selection error sheets
            (some (cursor.behindText (countOf cellCountName tag) paragraphs (String.join texts)))
            rest ∧
        readTables file selection error sheets (some cursor)
            (.start tag :: content.spaced ++ [.finish tag.name] ++ rest) =
          readTables file selection error sheets
            (some (cursor.behindText (countOf cellCountName tag) paragraphs
              (content.spacedText texts)))
            rest) ∧
      (content.spacedText texts = String.join texts ↔ ∀ gap ∈ content.gaps, gap = "") := by
  rw [CellElement.read, Cursor.startCell_of_beginsText _ htag] at h
  have hbegun : (Cursor.loose.beginText (countOf cellCountName tag)).IsInText 0 := ⟨rfl, rfl, rfl⟩
  obtain ⟨texts, paragraphs, hlength, hplain, hspaced⟩ := exists_adds hbegun h
  refine ⟨texts, paragraphs, hlength, fun cursor hcursor file selection error sheets rest => ?_,
    spacedText_eq_iff hlength⟩
  exact ⟨readTables_textCell file selection error sheets htag content.plain_within hplain hcursor
      rest,
    readTables_textCell file selection error sheets htag content.spaced_within
      (adds_spaced hspaced) hcursor rest⟩

end SpacedContent

/-! ### Paragraphs on lines of their own -/

/-- Two paragraphs with an annotation between them. -/
def listedCell : TextCell where
  tag := textTag
  children := [
    .paragraph (writtenParagraph (.leaf (.text (bytesOf "kg")) .nil)),
    .remark (writtenNote "checked"),
    .paragraph (writtenParagraph (.leaf (.text (bytesOf "lb")) .nil))]
  begins := beginsText_textTag

/-- The same with each of them on a line of its own. -/
def indentedContent : SpacedContent where
  blocks := listedCell.children.map fun child => ("\n  ", child.block)
  last := "\n"

theorem SpacedContent.readTables_spaced_indented :
    ∃ last, CellElement.read { tag := textTag, content := indentedContent.plain } = .ok last ∧
      ∃ texts paragraphs, texts.length = 3 ∧
        (∀ rest : List Event,
          readTables "notes.ods" {} none #[] (some Cursor.loose)
              (.start textTag :: indentedContent.plain ++ [.finish textTag.name] ++ rest) =
            readTables "notes.ods" {} none #[]
              (some (Cursor.loose.behindText 1 paragraphs (String.join texts))) rest ∧
          readTables "notes.ods" {} none #[] (some Cursor.loose)
              (.start textTag :: indentedContent.spaced ++ [.finish textTag.name] ++ rest) =
            readTables "notes.ods" {} none #[]
              (some (Cursor.loose.behindText 1 paragraphs (indentedContent.spacedText texts)))
              rest) ∧
        indentedContent.spacedText texts ≠ String.join texts := by
  have hcount : countOf cellCountName textTag = 1 := countOf_eq (Tag.count?_written_none rfl)
  have hread : listedCell.read = .ok "kg\nlb" := by decide +kernel
  have hcontent := listedCell.adds_content (Cursor.loose.beginText 1) ⟨rfl, rfl, rfl⟩
  rw [hread] at hcontent
  obtain ⟨last, hlast⟩ : ∃ last,
      CellElement.read { tag := textTag, content := indentedContent.plain } = .ok last := by
    rw [CellElement.read, Cursor.startCell_of_beginsText _ beginsText_textTag, hcount]
    exact ⟨_, hcontent⟩
  obtain ⟨texts, paragraphs, hlength, hreads, hiff⟩ :=
    readTables_spaced indentedContent beginsText_textTag hlast
  rw [hcount] at hreads
  refine ⟨last, hlast, texts, paragraphs, hlength, hreads _ rfl _ _ _ _, fun heq => ?_⟩
  exact absurd (hiff.mp heq "\n" (by simp [gaps, indentedContent])) (by decide)

/-- A cell with a paragraph on a line of its own. -/
def indentedCellText : String :=
  "<table:table-cell office:value-type=\"string\">\n  <text:p>kg</text:p>\n</table:table-cell>"

/-- White space that only sets a paragraph off from the tags of its cell is part of the value. -/
theorem readSheets_indented :
    ((notesPackage
      "<table:table-cell office:value-type=\"string\"><text:p>kg</text:p></table:table-cell>"
      ).readSheets {}).map (·.map (·.cells)) = .ok [#[⟨0, 0, .text, "kg"⟩]] ∧
    ((notesPackage indentedCellText).readSheets {}).map (·.map (·.cells)) =
      .ok [#[⟨0, 0, .text, "\n  kg\n"⟩]] := by
  constructor <;> decide +kernel

end DataDictionary.Workbook.OpenDocument
