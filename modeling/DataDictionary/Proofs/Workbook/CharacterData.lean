import DataDictionary.Proofs.Markup.CharacterData
import DataDictionary.Proofs.Workbook.Paragraphs

/-!
# Character data in cells

In a workbook the text of a cell is the same however its character data is written, wherever it is
stored. The paragraphs of a cell in a spreadsheet are read without what is written as a section.
-/

namespace DataDictionary.Workbook

open Markup Text

/-! ### Texts of fragments -/

/-- The text of fragments. -/
def textOf (fragments : List Fragment) : List Char := fragments.flatMap Fragment.text

/-- What the fragment holds unless it is a section. -/
def outsideSection : Fragment → List Char
  | .cdata _ _ => []
  | fragment => fragment.text

open OpenXml (joinedBy joinedBy_append joinedBy_singleton dataOf isData)

/-- Events are read one by one, so fragments are read as what each of them is read as. -/
lemma joinedBy_eventsFrom {read : Event → Except Markup.Error String} (part : Fragment → List Char)
    (htext : ∀ bytes, read (.text bytes) = content bytes)
    (hplain : ∀ s free, part (.plain s free) = s) {fragments : List Fragment}
    (hlined : ∀ fragment ∈ fragments, IsLined fragment.text)
    (hpart : ∀ fragment ∈ fragments, ∀ event, fragment.event? = some event →
      read event = .ok (String.ofList (part fragment)))
    {run : List Char} (hrun : IsLined run) :
    joinedBy read (Fragment.eventsFrom run fragments) =
      .ok (String.ofList (run ++ fragments.flatMap part)) := by
  have hread (run : List Char) (hrun : IsLined run) :
      joinedBy read (runEvents run) = .ok (String.ofList run) := by
    rw [runEvents]
    split
    · next h =>
      rw [List.isEmpty_iff.mp h]
      rfl
    · rw [joinedBy_singleton, htext, content_bytesOf, String.toList_ofList,
        normalizeLines_of_isLined hrun]
  induction fragments generalizing run with
  | nil =>
    rw [List.flatMap_nil, List.append_nil]
    exact hread run hrun
  | cons fragment fragments ih =>
    rw [List.forall_mem_cons] at hlined hpart
    rw [Fragment.eventsFrom, List.flatMap_cons]
    cases hevent : fragment.event? with
    | none =>
      obtain ⟨s, free, rfl⟩ := Fragment.eq_plain_of_event? hevent
      have hmore : IsLined (run ++ s) :=
        fun c hc => (List.mem_append.mp hc).elim (hrun c) (hlined.1 c)
      rw [hplain, ← List.append_assoc]
      exact ih hlined.2 hpart.2 hmore
    | some event =>
      have hrest := ih hlined.2 hpart.2 (List.forall_mem_nil _)
      have hcons : event :: Fragment.eventsFrom [] fragments =
          [event] ++ Fragment.eventsFrom [] fragments := rfl
      dsimp only
      rw [hcons, joinedBy_append, joinedBy_append, joinedBy_singleton, hread run hrun,
        hpart.1 event hevent, hrest, List.nil_append]
      simp [bind, Except.bind, pure, Except.pure, String.ofList_append]

variable {fragments : List Fragment}

lemma isLined_text (h : IsLined (textOf fragments)) :
    ∀ fragment ∈ fragments, IsLined fragment.text :=
  fun fragment hmem c hc => h c (List.mem_flatMap.mpr ⟨fragment, hmem, hc⟩)

lemma isData_of_mem_eventsFrom {run : List Char} :
    ∀ event ∈ Fragment.eventsFrom run fragments, isData event = true := by
  have hrun (run : List Char) : ∀ event ∈ runEvents run, isData event = true := by
    intro event hevent
    rw [runEvents] at hevent
    split at hevent
    · exact absurd hevent List.not_mem_nil
    · rw [List.mem_singleton.mp hevent]
      rfl
  induction fragments generalizing run with
  | nil => exact hrun run
  | cons fragment fragments ih =>
    rw [Fragment.eventsFrom]
    cases hevent : fragment.event? with
    | none => exact ih
    | some event =>
      have hdata : isData event = true := by
        cases fragment <;> cases hevent <;> rfl
      intro other hother
      rcases List.mem_append.mp hother with hother | hother
      · exact hrun run other hother
      rcases List.mem_cons.mp hother with rfl | hother
      · exact hdata
      · exact ih other hother

lemma isData_of_mem_eventsOf : ∀ event ∈ Fragment.eventsOf fragments, isData event = true :=
  isData_of_mem_eventsFrom

lemma dataOf_event {fragment : Fragment} (hlined : IsLined fragment.text) {event : Event}
    (h : fragment.event? = some event) : dataOf event = .ok (String.ofList fragment.text) := by
  cases fragment with
  | plain => exact absurd h (by simp [Fragment.event?])
  | named c name hentity =>
    obtain rfl := Option.some.inj h
    exact referenceContent_entity hentity
  | numbered c radix digits hnumbers =>
    obtain rfl := Option.some.inj h
    exact hnumbers.referenceContent_eq
  | cdata s hs =>
    obtain rfl := Option.some.inj h
    have hs' : normalizeLines s = s := normalizeLines_of_isLined hlined
    show content _ = _
    rw [content_bytesOf, String.toList_ofList, hs']
    rfl

/-- What the events of fragments stand for is the text of the fragments. -/
lemma joinedBy_eventsOf (h : IsLined (textOf fragments)) :
    joinedBy dataOf (Fragment.eventsOf fragments) = .ok (String.ofList (textOf fragments)) :=
  joinedBy_eventsFrom Fragment.text (fun _ => rfl) (fun _ _ => rfl) (isLined_text h)
    (fun _ hmem _ hevent => dataOf_event (isLined_text h _ hmem) hevent) (List.forall_mem_nil _)

/-- The text that an event adds in a paragraph. -/
def paragraphDataOf : Event → Except Markup.Error String
  | .text s => content s
  | .reference name => referenceContent name
  | _ => .ok ""

/-- In a paragraph, sections are not looked at. -/
lemma joinedBy_paragraphDataOf (h : IsLined (textOf fragments)) :
    joinedBy paragraphDataOf (Fragment.eventsOf fragments) =
      .ok (String.ofList (fragments.flatMap outsideSection)) := by
  refine joinedBy_eventsFrom outsideSection (fun _ => rfl) (fun _ _ => rfl) (isLined_text h)
    (fun fragment hmem event hevent => ?_) (List.forall_mem_nil _)
  have hdata := dataOf_event (isLined_text h fragment hmem) hevent
  cases fragment with
  | plain => exact absurd hevent (by simp [Fragment.event?])
  | named | numbered =>
    obtain rfl := Option.some.inj hevent
    exact hdata
  | cdata =>
    obtain rfl := Option.some.inj hevent
    rfl

lemma outsideSection_sublist (fragment : Fragment) :
    (outsideSection fragment).Sublist fragment.text := by
  cases fragment with
  | cdata => exact List.nil_sublist _
  | _ => exact List.Sublist.refl _

lemma flatMap_outsideSection_sublist (fragments : List Fragment) :
    (fragments.flatMap outsideSection).Sublist (textOf fragments) := by
  induction fragments with
  | nil => exact List.Sublist.refl _
  | cons fragment fragments ih => exact (outsideSection_sublist fragment).append ih

/-- Nothing is left out just if every section is empty. -/
lemma flatMap_outsideSection_eq_iff :
    fragments.flatMap outsideSection = textOf fragments ↔
      ∀ s free, .cdata s free ∈ fragments → s = [] := by
  constructor
  · intro h
    induction fragments with
    | nil => simp
    | cons fragment fragments ih =>
      have hfirst := outsideSection_sublist fragment
      have hrest := flatMap_outsideSection_sublist fragments
      have hlength := congrArg List.length h
      simp only [textOf, List.flatMap_cons, List.length_append] at hlength
      have heq : outsideSection fragment = fragment.text := by
        refine hfirst.eq_of_length (Nat.le_antisymm hfirst.length_le ?_)
        have hle : (fragments.flatMap outsideSection).length ≤
            (fragments.flatMap Fragment.text).length := hrest.length_le
        omega
      rw [textOf, List.flatMap_cons, List.flatMap_cons, heq, List.append_cancel_left_eq] at h
      intro s free hmem
      rcases List.mem_cons.mp hmem with rfl | hmem
      · exact heq.symm
      · exact ih h s free hmem
  · intro h
    refine List.flatMap_congr fun fragment hmem => ?_
    cases fragment with
    | cdata s free => exact (h s free hmem).symm
    | _ => rfl

/-! ### Paragraphs -/

namespace OpenDocument

lemma Adds.dataEvents {events : List Event} (h : ∀ event ∈ events, isData event = true)
    (begun : Nat) : Adds events begun begun (ofMarkup (joinedBy paragraphDataOf events)) := by
  induction events with
  | nil => exact .passed fun _ _ => rfl
  | cons event events ih =>
    rw [List.forall_mem_cons] at h
    have hevent : Adds [event] begun begun (ofMarkup (paragraphDataOf event)) := by
      cases event with
      | text | reference => exact .data fun _ => rfl
      | start | finish => exact absurd h.1 (by simp [isData])
      | _ => exact .passed fun _ _ => rfl
    have hcons : event :: events = [event] ++ events := rfl
    have hjoined := hevent.append (ih h.2)
    rw [hcons, joinedBy_append, joinedBy_singleton]
    cases hfirst : paragraphDataOf event with
    | error error => rwa [hfirst] at hjoined
    | ok s =>
      cases hrest : joinedBy paragraphDataOf events <;> rwa [hfirst, hrest] at hjoined

/-- A cell with a paragraph of fragments is put on the sheet with what stands outside sections. -/
lemma readTables_fragments (h : IsLined (textOf fragments)) {tag paragraph : Tag}
    (htag : BeginsText tag) (hparagraph : paragraph.name.is "text:p" = true) {cursor : Cursor}
    (hcursor : cursor.inAnnotation = false) (file : String) (selection : Selection)
    (error : Option Markup.Error) (sheets : Array Sheet) (rest : List Event) :
    readTables file selection error sheets (some cursor)
        (.start tag ::
          (.start paragraph :: Fragment.eventsOf fragments ++ [.finish paragraph.name]) ++
          [.finish tag.name] ++ rest) =
      readTables file selection error sheets
        (some (cursor.behindText (countOf cellCountName tag) 1
          (String.ofList (fragments.flatMap outsideSection))))
        rest := by
  have hadds : Adds
      (.start paragraph :: Fragment.eventsOf fragments ++ [.finish paragraph.name]) 0 1
      (.ok (String.ofList (fragments.flatMap outsideSection))) := by
    have hcontent : Adds (Fragment.eventsOf fragments) 1 1
        (ofMarkup (joinedBy paragraphDataOf (Fragment.eventsOf fragments))) :=
      .dataEvents isData_of_mem_eventsOf 1
    rw [joinedBy_paragraphDataOf h] at hcontent
    have helement : Adds
        (.start paragraph :: Fragment.eventsOf fragments ++ [.finish paragraph.name]) 0 1
        (.ok (separator 0 ++ String.ofList (fragments.flatMap outsideSection))) :=
      hcontent.paragraph hparagraph
    rwa [separator, if_neg (Nat.lt_irrefl 0), String.empty_append] at helement
  have hwithin : (Event.start paragraph :: Fragment.eventsOf fragments ++
      [Event.finish paragraph.name]).all isWithin = true := by
    refine all_isWithin_element ?_ (List.all_eq_true.mpr fun event hevent => ?_)
    · simp [isGridName, Cursor.isCellName, Name.eq_of_is hparagraph]
    · have hdata := isData_of_mem_eventsOf event hevent
      cases event with
      | start | finish => exact absurd hdata (by simp [isData])
      | _ => rfl
  exact readTables_textCell file selection error sheets htag hwithin hadds hcursor rest

end OpenDocument

/-! ### Cells -/

namespace OpenXml

/-- Wherever it is read, outside the texts of cells, the element is a cell with the text, unless its
tag is refused. -/
def IsReadAs (context : Context) (tag : Tag) (events : List Event) (text : String) : Prop :=
  ∀ cursor : Cursor, cursor.collecting = none →
    events.foldlM (Cursor.step context) cursor =
      (cursor.referenceOf tag).map (cursor.withText · text)

lemma ItemText.read_ofValue {content : List Event} (h : ∀ event ∈ content, isData event = true) :
    ItemText.ofValue.read content = ofMarkup (joinedBy dataOf content) := by
  have hcontent := Puts.content h ""
  rw [read]
  show (List.foldlM ItemText.step { ItemText.ofValue with text := "" } _).map _ = _
  rw [hcontent]
  cases joinedBy dataOf content with
  | error error => rfl
  | ok s => exact congrArg Except.ok String.empty_append

variable {context : Context} {element : TextElement}

lemma isReadAs_textValue (h : IsLined (textOf fragments)) {cell : TextValueCell}
    (hcell : cell.content = Fragment.eventsOf fragments) :
    IsReadAs context cell.tag cell.events (String.ofList (textOf fragments)) := by
  intro cursor hcollecting
  have hread : ItemText.ofValue.read cell.content = .ok (String.ofList (textOf fragments)) := by
    rw [hcell, ItemText.read_ofValue isData_of_mem_eventsOf, joinedBy_eventsOf h]
    rfl
  rw [TextValueCell.foldlM_events cell hcollecting, hread]
  cases cursor.referenceOf cell.tag <;> rfl

/-- A text element is read as the text of its fragments. -/
lemma read_textElement (h : IsLined (textOf fragments))
    (helement : element.content = Fragment.eventsOf fragments) :
    ItemText.ofItem.read element.events = .ok (String.ofList (textOf fragments)) := by
  have hparts := ItemText.read_parts [.leaf (.text element)]
  simp only [List.flatMap_cons, List.flatMap_nil, List.append_nil, ItemPart.events, Leaf.events,
    ItemPart.texts, Leaf.texts, joinedBy_singleton, TextElement.text, helement,
    joinedBy_eventsOf h] at hparts
  exact hparts

lemma isReadAs_inline (h : IsLined (textOf fragments))
    (helement : element.content = Fragment.eventsOf fragments) {cell : InlineCell}
    (hcell : cell.content = element.events) :
    IsReadAs context cell.tag cell.events (String.ofList (textOf fragments)) := by
  intro cursor hcollecting
  rw [InlineCell.foldlM_events cell hcollecting, hcell, read_textElement h helement]
  cases cursor.referenceOf cell.tag <;> rfl

lemma isReadAs_numbered (h : IsLined (textOf fragments))
    (helement : element.content = Fragment.eventsOf fragments) {shared : SharedItems}
    (hshared : SharedTexts.ofDocument { events := shared.events } = .ok context.shared)
    {k : Nat} {item : SharedItem} (hk : shared.items[k]? = some item)
    (hitem : item.content = element.events) {cell : NumberedCell} (hcell : cell.HasNumber k) :
    IsReadAs context cell.tag cell.events (String.ofList (textOf fragments)) := by
  intro cursor hcollecting
  rw [SharedTexts.ofDocument_events] at hshared
  obtain ⟨texts, htexts, harray⟩ := map_eq_ok hshared
  have hcontext := Context.item_eq htexts harray.symm hk
  rw [SharedItem.text, hitem, read_textElement h helement] at hcontext
  rw [NumberedCell.foldlM_events cell hcell hcollecting, hcontext]
  cases cursor.referenceOf cell.tag <;> rfl

end OpenXml

/-! ### Both formats -/

/-- Character data is read as the same events wherever it stands in a document. In a workbook, a
cell with these events is a cell with their text, be they its value, its own item or the shared item
that it numbers. In a spreadsheet, a cell with a paragraph of them is a cell with what stands
outside sections, which is the same text only if every section is empty. -/
theorem isReadAs_fragments (h : IsLined (textOf fragments)) :
    (∀ (openElements : Nat) (rest : List UInt8),
      Scans openElements
        (bytesOf (String.ofList (fragments.flatMap Fragment.written)) ++ 60 :: rest)
        (Fragment.eventsOf fragments) openElements (60 :: rest)) ∧
    (∀ (context : OpenXml.Context) (cell : OpenXml.TextValueCell),
      cell.content = Fragment.eventsOf fragments →
        OpenXml.IsReadAs context cell.tag cell.events (String.ofList (textOf fragments))) ∧
    (∀ (context : OpenXml.Context) (element : OpenXml.TextElement),
      element.content = Fragment.eventsOf fragments →
        (∀ cell : OpenXml.InlineCell, cell.content = element.events →
          OpenXml.IsReadAs context cell.tag cell.events (String.ofList (textOf fragments))) ∧
        ∀ (shared : OpenXml.SharedItems) (k : Nat) (item : OpenXml.SharedItem)
          (cell : OpenXml.NumberedCell),
          OpenXml.SharedTexts.ofDocument { events := shared.events } = .ok context.shared →
          shared.items[k]? = some item → item.content = element.events → cell.HasNumber k →
            OpenXml.IsReadAs context cell.tag cell.events (String.ofList (textOf fragments))) ∧
    (∀ (tag paragraph : Tag), OpenDocument.BeginsText tag → paragraph.name.is "text:p" = true →
      ∀ cursor : OpenDocument.Cursor, cursor.inAnnotation = false →
        ∀ (file : String) (selection : Selection) (error : Option Markup.Error)
          (sheets : Array Sheet) (rest : List Event),
          OpenDocument.readTables file selection error sheets (some cursor)
              (.start tag ::
                (.start paragraph :: Fragment.eventsOf fragments ++ [.finish paragraph.name]) ++
                [.finish tag.name] ++ rest) =
            OpenDocument.readTables file selection error sheets
              (some (cursor.behindText (OpenDocument.countOf OpenDocument.cellCountName tag) 1
                (String.ofList (fragments.flatMap outsideSection))))
              rest) ∧
    (fragments.flatMap outsideSection = textOf fragments ↔
      ∀ s free, .cdata s free ∈ fragments → s = []) := by
  refine ⟨fun _ _ => Fragment.scans_eventsOf fragments,
    fun _ _ hcell => OpenXml.isReadAs_textValue h hcell,
    fun _ _ helement => ⟨fun _ hcell => OpenXml.isReadAs_inline h helement hcell,
      fun _ _ _ _ hshared hk hitem hcell =>
        OpenXml.isReadAs_numbered h helement hshared hk hitem hcell⟩,
    fun _ _ htag hparagraph _ hcursor file selection error sheets rest =>
      OpenDocument.readTables_fragments h htag hparagraph hcursor file selection error sheets rest,
    flatMap_outsideSection_eq_iff⟩

/-! ### A text in every way -/

/-- A text that is written as it is, by a name, as a section and by a number. -/
def mixedFragments : List Fragment := [
  .plain "a ".toList (by simp),
  .named '<' "lt" rfl,
  .cdata " b & ".toList (by decide +kernel),
  .numbered 'é' .hexadecimal "00e9".toList
    ⟨by simp, by simp [digitValue, Radix.base], by decide⟩]

/-- The text as it is written. -/
def mixedText : String := "a &lt;<![CDATA[ b & ]]>&#x00e9;"

/-- A text element with the text. -/
def mixedElement : OpenXml.TextElement :=
  { OpenXml.writtenText "" with
    content := Fragment.eventsOf mixedFragments
    content_isData := isData_of_mem_eventsOf }

theorem isReadAs_fragments_mixed :
    IsLined (textOf mixedFragments) ∧
    Scans 0 (bytesOf mixedText ++ bytesOf "</t>") (Fragment.eventsOf mixedFragments) 0
      (bytesOf "</t>") ∧
    (∀ context : OpenXml.Context,
      OpenXml.IsReadAs context (OpenXml.inlineCell "A1" mixedElement.events (by decide)).tag
        (OpenXml.inlineCell "A1" mixedElement.events (by decide)).events "a < b & é") ∧
    mixedFragments.flatMap outsideSection ≠ textOf mixedFragments ∧
    ((OpenXml.labelsPackage ("<c t=\"inlineStr\"><is><t>" ++ mixedText ++
      "</t></is></c><c t=\"str\"><v>" ++ mixedText ++ "</v></c>")).readSheets {}).map
        (·.map (·.cells)) = .ok [#[⟨0, 0, .text, "a < b & é"⟩, ⟨0, 1, .text, "a < b & é"⟩]] ∧
    ((OpenDocument.notesPackage ("<table:table-cell office:value-type=\"string\"><text:p>" ++
      mixedText ++ "</text:p></table:table-cell>")).readSheets {}).map (·.map (·.cells)) =
        .ok [#[⟨0, 0, .text, "a <é"⟩]] := by
  have hlined : IsLined (textOf mixedFragments) := by
    simp [IsLined, textOf, mixedFragments, Fragment.text, lineChar]
  obtain ⟨hscans, -, hitem, -, hiff⟩ := isReadAs_fragments hlined
  refine ⟨hlined, hscans 0 _, fun context => (hitem context mixedElement rfl).1 _ rfl,
    fun heq => ?_, by decide +kernel, by decide +kernel⟩
  exact absurd (hiff.mp heq _ _ (by simp [mixedFragments]; rfl)) (by decide)

/-- A section is read as its text in a workbook, and not at all in a spreadsheet. -/
theorem readSheets_sections :
    ((OpenXml.labelsPackage
      "<c t=\"str\"><v><![CDATA[a < b]]></v></c>").readSheets {}).map (·.map (·.cells)) =
        .ok [#[⟨0, 0, .text, "a < b"⟩]] ∧
    ((OpenDocument.notesPackage ("<table:table-cell office:value-type=\"string\">" ++
      "<text:p>a &lt; b</text:p></table:table-cell>")).readSheets {}).map (·.map (·.cells)) =
        .ok [#[⟨0, 0, .text, "a < b"⟩]] ∧
    ((OpenDocument.notesPackage ("<table:table-cell office:value-type=\"string\">" ++
      "<text:p><![CDATA[a < b]]></text:p></table:table-cell>")).readSheets {}).map
        (·.map (·.cells)) = .ok [#[]] := by
  refine ⟨?_, ?_, ?_⟩ <;> decide +kernel

end DataDictionary.Workbook
