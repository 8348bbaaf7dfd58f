import DataDictionary.Proofs.Markup.Pieces
import DataDictionary.Proofs.Workbook.Steps

/-!
# Parts that are cut off

The readers of worksheets, shared texts and tables take what comes, and end where the events end.
Which elements are open by then is not asked. So a part that is cut off in front of a tag is read
as far as it goes: as a sheet that lacks the cells behind the cut, as a list of texts or sheets
that ends sooner, its last element possibly unfinished. Only a cut inside of a tag is found.
-/

namespace DataDictionary

open Markup

/-! ### What is read in part -/

/-- More cells are put on the one sheet to have the other. -/
def Sheet.Begins (sheet whole : Sheet) : Prop := ∃ cells, whole = sheet.pushAll cells

namespace Sheet

variable {a b c : Sheet}

lemma Begins.refl (sheet : Sheet) : sheet.Begins sheet := ⟨[], rfl⟩

lemma begins_push (sheet : Sheet) (cell : Cell) : sheet.Begins (sheet.push cell) := ⟨[cell], rfl⟩

lemma Begins.trans (hab : a.Begins b) (hbc : b.Begins c) : a.Begins c := by
  obtain ⟨cells, rfl⟩ := hab
  obtain ⟨more, rfl⟩ := hbc
  exact ⟨cells ++ more, (pushAll_append a cells more).symm⟩

end Sheet

/-- A list that is cut short: it ends sooner than the other, and its last element may only begin
what stands there. -/
inductive CutShort {α : Type} (R : α → α → Prop) : List α → List α → Prop
  | nil (long : List α) : CutShort R [] long
  | last {x y : α} (begins : R x y) (more : List α) : CutShort R [x] (y :: more)
  | cons (x : α) {short long : List α} (tail : CutShort R short long) :
    CutShort R (x :: short) (x :: long)

namespace CutShort

variable {α : Type} {R : α → α → Prop} {a b c : List α}

lemma append (done : List α) (h : CutShort R a b) : CutShort R (done ++ a) (done ++ b) := by
  induction done with
  | nil => exact h
  | cons x done ih => exact .cons x ih

lemma refl (l : List α) : CutShort R l l := by
  have h := append l (CutShort.nil (R := R) [])
  rwa [List.append_nil] at h

lemma append_right (done more : List α) : CutShort R done (done ++ more) := by
  have h := append done (CutShort.nil (R := R) more)
  rwa [List.append_nil] at h

lemma trans (hR : ∀ x y z, R x y → R y z → R x z) (hab : CutShort R a b) (hbc : CutShort R b c) :
    CutShort R a c := by
  -- along the first list: its last element may be the last of the second one, too
  induction hab generalizing c with
  | nil => exact .nil c
  | last hxy more =>
    cases hbc with
    | last hyz more => exact .last (hR _ _ _ hxy hyz) more
    | cons y _ => exact .last hxy _
  | cons x tail ih =>
    cases hbc with
    | last hxz more =>
      cases tail with
      | nil => exact .last hxz more
    | cons y hbc => exact .cons x (ih hbc)

end CutShort

namespace Workbook

/-- A text goes on as another. -/
def Spelled (s whole : String) : Prop := ∃ rest, whole = s ++ rest

lemma Spelled.refl (s : String) : Spelled s s := ⟨"", (String.append_empty).symm⟩

lemma Spelled.trans {s t u : String} (hst : Spelled s t) (htu : Spelled t u) : Spelled s u := by
  obtain ⟨rest, rfl⟩ := hst
  obtain ⟨more, rfl⟩ := htu
  exact ⟨rest ++ more, String.append_assoc⟩

/-- If a document can be read, so can one that has the first of its events; the steps over the
other events lie between what the two give. -/
lemma foldDocument_kept {σ : Type} {step : σ → Event → Except Error σ} {state last : σ}
    {kept whole : Document} {more : List Event} (hkept : kept.error = none)
    (hevents : whole.events = kept.events ++ more)
    (h : foldDocument step state whole = .ok last) :
    ∃ middle, foldDocument step state kept = .ok middle ∧ more.foldlM step middle = .ok last := by
  obtain ⟨hfold, -⟩ := foldDocument_eq_ok h
  rw [hevents] at hfold
  obtain ⟨middle, hmiddle, hlast⟩ := foldlM_append_eq_ok hfold
  refine ⟨middle, ?_, hlast⟩
  rw [foldDocument, hmiddle, hkept]

/-! ### Worksheets -/

namespace OpenXml

lemma Cursor.begins_of_takes {cursor next : Cursor} {event : Event} (h : cursor.Takes event next) :
    cursor.sheet.Begins next.sheet := by
  cases h with
  | stay _ hsheet | startRow _ _ _ hsheet | endRow _ _ hsheet | startCell _ _ _ _ hsheet =>
    rw [hsheet]
    exact .refl _
  | endCell _ _ _ hsheet =>
    rw [hsheet]
    exact Sheet.begins_push _ _

lemma readWorksheet_kept {context : Context} {name : String} {kept whole : Document}
    {more : List Event} (hkept : kept.error = none) (hevents : whole.events = kept.events ++ more)
    {sheet : Sheet} (h : readWorksheet context name whole = .ok sheet) :
    ∃ short, readWorksheet context name kept = .ok short ∧ short.Begins sheet := by
  rw [readWorksheet] at h
  obtain ⟨last, hlast, rfl⟩ := map_eq_ok h
  obtain ⟨middle, hmiddle, hmore⟩ := foldDocument_kept hkept hevents hlast
  refine ⟨middle.sheet, ?_, ?_⟩
  · rw [readWorksheet, hmiddle]
    rfl
  · refine foldlM_of_step (R := fun a b : Cursor => a.sheet.Begins b.sheet) ?_ ?_ ?_ hmore
    · exact fun cursor => .refl cursor.sheet
    · exact fun _ _ _ => .trans
    · exact fun _ _ _ hstep => Cursor.begins_of_takes (Cursor.takes_of_step hstep)

/-! ### Shared texts -/

lemma ItemText.spelled_append {item next : ItemText} {content : Except Markup.Error String}
    (h : item.append content = .ok next) : Spelled item.text next.text := by
  rw [ItemText.append] at h
  split at h
  · obtain ⟨s, -, rfl⟩ := goOn_eq_ok h
    exact ⟨s, rfl⟩
  · obtain rfl := Except.ok.inj h
    exact .refl _

/-- An event only puts text behind the text of an item. -/
lemma ItemText.spelled_step {item next : ItemText} {event : Event}
    (h : item.step event = .ok next) : Spelled item.text next.text := by
  cases event with
  | start tag =>
    simp only [ItemText.step] at h
    split at h
    · obtain rfl := Except.ok.inj h
      exact .refl _
    split at h
    · obtain rfl := Except.ok.inj h
      exact .refl _
    · obtain rfl := Except.ok.inj h
      exact .refl _
  | finish name =>
    simp only [ItemText.step] at h
    split at h
    · obtain rfl := Except.ok.inj h
      exact .refl _
    split at h
    · obtain rfl := Except.ok.inj h
      exact .refl _
    · obtain rfl := Except.ok.inj h
      exact .refl _
  | text s | cdata s | reference s => exact ItemText.spelled_append h
  | _ =>
    obtain rfl := Except.ok.inj h
    exact .refl _

namespace SharedTexts

lemma cutShort_step {shared next : SharedTexts} {event : Event}
    (h : shared.step event = .ok next) :
    CutShort Spelled shared.finish.toList next.finish.toList := by
  obtain ⟨items, current⟩ := shared
  cases current with
  | some item =>
    simp only [SharedTexts.step] at h
    split at h
    · obtain rfl := Except.ok.inj h
      exact .refl _
    · obtain ⟨item', hitem, rfl⟩ := map_eq_ok h
      simp only [finish, Array.toList_push]
      exact .append _ (.last (ItemText.spelled_step hitem) [])
  | none =>
    simp only [SharedTexts.step] at h
    split at h
    · split at h
      · obtain rfl := Except.ok.inj h
        simp only [finish, Array.toList_push]
        exact .append_right _ _
      · obtain rfl := Except.ok.inj h
        exact .refl _
    · obtain rfl := Except.ok.inj h
      exact .refl _

lemma ofDocument_kept {kept whole : Document} {more : List Event} (hkept : kept.error = none)
    (hevents : whole.events = kept.events ++ more) {items : Array String}
    (h : ofDocument whole = .ok items) :
    ∃ short, ofDocument kept = .ok short ∧ CutShort Spelled short.toList items.toList := by
  rw [ofDocument] at h
  obtain ⟨last, hlast, rfl⟩ := map_eq_ok h
  obtain ⟨middle, hmiddle, hmore⟩ := foldDocument_kept hkept hevents hlast
  refine ⟨middle.finish, ?_, ?_⟩
  · rw [ofDocument, hmiddle]
    rfl
  · refine foldlM_of_step
      (R := fun a b : SharedTexts => CutShort Spelled a.finish.toList b.finish.toList) ?_ ?_ ?_ hmore
    · exact fun shared => .refl _
    · exact fun _ _ _ => .trans fun _ _ _ => Spelled.trans
    · exact fun _ _ _ => cutShort_step

end SharedTexts

end OpenXml

/-! ### Tables -/

namespace OpenDocument

lemma Cursor.begins_of_takes {cursor next : Cursor} {event : Event} (h : cursor.Takes event next) :
    cursor.sheet.Begins next.sheet := by
  cases h with
  | stay _ _ hsheet | startRow _ _ hsheet | endRow _ _ hsheet =>
    rw [hsheet]
    exact .refl _
  | endCell _ _ hsheet =>
    rw [hsheet]
    exact ⟨cursor.cells, rfl⟩

/-- The sheets at a place between events; one that is being read counts. -/
def soFar (sheets : Array Sheet) : Option Cursor → Array Sheet
  | some cursor => sheets.push cursor.sheet
  | none => sheets

/-- What an event between or inside of tables comes to: it ends the reading, whatever stands behind
it, or the reading goes on behind it, and nothing is taken back. -/
inductive Turns (file : String) (selection : Selection) (sheets : Array Sheet)
    (table : Option Cursor) (event : Event) : Prop
  | ends (result : Except Error (Array Sheet))
      (begins : ∀ out, result = .ok out →
        CutShort Sheet.Begins (soFar sheets table).toList out.toList)
      (readTables_eq : ∀ error events,
        readTables file selection error sheets table (event :: events) = result)
  | goesOn (sheets' : Array Sheet) (table' : Option Cursor)
      (begins : CutShort Sheet.Begins (soFar sheets table).toList (soFar sheets' table').toList)
      (readTables_eq : ∀ error events,
        readTables file selection error sheets table (event :: events) =
          readTables file selection error sheets' table' events)

variable {file : String} {selection : Selection} {error : Option Markup.Error}
  {sheets out : Array Sheet} {table : Option Cursor} {kept more : List Event}

lemma turns_inside (cursor : Cursor) (event : Event) :
    Turns file selection sheets (some cursor) event := by
  cases hend : cursor.isTableEnd event with
  | true =>
    refine .goesOn (sheets.push cursor.sheet) none (.refl _) ?_
    intro error events
    rw [readTables, if_pos hend]
  | false =>
    cases hstep : cursor.step event with
    | error fault =>
      refine .ends (.error fault) (fun _ h => absurd h (by simp)) ?_
      intro error events
      simp [readTables, hend, hstep]
    | ok next =>
      refine .goesOn sheets (some next) ?_ ?_
      · simp only [soFar, Array.toList_push]
        exact .append _ (.last (Cursor.begins_of_takes (Cursor.takes_of_step hstep)) [])
      · intro error events
        simp [readTables, hend, hstep]

lemma turns_start (tag : Tag) : Turns file selection sheets none (.start tag) := by
  have hends (result : Except Error (Array Sheet)) (hresult : ∀ out, result = .ok out → out = sheets)
      (heq : ∀ error events,
        readTables file selection error sheets none (.start tag :: events) = result) :
      Turns file selection sheets none (.start tag) := by
    refine .ends result ?_ heq
    intro out hout
    rw [hresult out hout]
    exact .refl _
  cases htable : tag.name.is "table:table" with
  | false => exact .goesOn sheets none (.refl _) fun _ _ => by simp [readTables, htable]
  | true =>
    cases hname : tag.attribute? "table:name" with
    | error fault =>
      refine hends (.error (.markup fault)) (fun _ h => absurd h (by simp)) ?_
      intro error events
      simp [readTables, htable, hname]
    | ok name =>
      cases hfull : selection.isFull sheets.size with
      | true =>
        refine hends (.ok sheets) (fun _ h => (Except.ok.inj h).symm) ?_
        intro error events
        simp [readTables, htable, hname, hfull]
      | false =>
        cases haccepts : selection.accepts (name.getD "") with
        | true =>
          refine .goesOn sheets (some { sheet := .new file (name.getD "") }) ?_ ?_
          · simp only [soFar, Array.toList_push]
            exact .append_right _ _
          · intro error events
            simp [readTables, htable, hname, hfull, haccepts]
        | false =>
          refine .goesOn sheets none (.refl _) ?_
          intro error events
          simp [readTables, htable, hname, hfull, haccepts]

lemma turns (file : String) (selection : Selection) (sheets : Array Sheet) (table : Option Cursor)
    (event : Event) : Turns file selection sheets table event := by
  cases table with
  | some cursor => exact turns_inside cursor event
  | none =>
    cases event with
    | start tag => exact turns_start tag
    | finish name =>
      cases hname : name.is "office:spreadsheet" with
      | true =>
        refine .ends (.ok sheets) ?_ fun _ _ => by rw [readTables, if_pos hname]
        intro out hout
        obtain rfl := Except.ok.inj hout
        exact .refl _
      | false => exact .goesOn sheets none (.refl _) fun _ _ => by simp [readTables, hname]
    | _ => exact .goesOn sheets none (.refl _) fun _ _ => rfl

lemma readTables_nil (file : String) (selection : Selection) (sheets : Array Sheet)
    (table : Option Cursor) :
    readTables file selection none sheets table [] = .ok (soFar sheets table) := by
  cases table <;> rfl

/-- What was read at a place begins what is read in the end. -/
lemma cutShort_readTables (h : readTables file selection error sheets table more = .ok out) :
    CutShort Sheet.Begins (soFar sheets table).toList out.toList := by
  induction more generalizing sheets table with
  | nil =>
    cases error with
    | some error => exact absurd h (by simp [readTables])
    | none =>
      rw [readTables_nil] at h
      obtain rfl := Except.ok.inj h
      exact .refl _
  | cons event more ih =>
    cases turns file selection sheets table event with
    | ends result begins heq =>
      rw [heq] at h
      exact begins out h
    | goesOn sheets' table' begins heq =>
      rw [heq] at h
      exact begins.trans (fun _ _ _ => Sheet.Begins.trans) (ih h)

/-- The tables of a document can be read up to any of its events if they can be read at all. -/
lemma readTables_kept (h : readTables file selection error sheets table (kept ++ more) = .ok out) :
    ∃ short, readTables file selection none sheets table kept = .ok short ∧
      CutShort Sheet.Begins short.toList out.toList := by
  induction kept generalizing sheets table with
  | nil => exact ⟨_, readTables_nil file selection sheets table, cutShort_readTables h⟩
  | cons event kept ih =>
    rw [List.cons_append] at h
    cases turns file selection sheets table event with
    | ends result _ heq =>
      rw [heq] at h
      exact ⟨out, by rw [heq, h], .refl _⟩
    | goesOn sheets' table' _ heq =>
      rw [heq] at h ⊢
      exact ih h

/-- A reading that is not stopped by the error behind the events has ended before. -/
lemma readTables_ended {fault : Markup.Error}
    (h : readTables file selection (some fault) sheets table kept = .ok out)
    (error : Option Markup.Error) (more : List Event) :
    readTables file selection error sheets table (kept ++ more) = .ok out := by
  induction kept generalizing sheets table with
  | nil => exact absurd h (by cases table <;> simp [readTables])
  | cons event kept ih =>
    rw [List.cons_append]
    cases turns file selection sheets table event with
    | ends result _ heq =>
      rw [heq] at h ⊢
      exact h
    | goesOn sheets' table' _ heq =>
      rw [heq] at h ⊢
      exact ih h

end OpenDocument

/-! ### Parts -/

open OpenXml (readWorksheet SharedTexts)
open OpenDocument (readTables)

/-- Whatever a document is read as, what was kept of it is read as well, and as less. -/
structure ReadsShort (kept whole : Document) : Prop where
  /-- The sheet lacks cells that are put on it last. -/
  worksheet : ∀ context name sheet, readWorksheet context name whole = .ok sheet →
    ∃ short, readWorksheet context name kept = .ok short ∧ short.Begins sheet
  /-- The texts end sooner, the last of them maybe within. -/
  sharedTexts : ∀ items, SharedTexts.ofDocument whole = .ok items →
    ∃ short, SharedTexts.ofDocument kept = .ok short ∧
      CutShort Spelled short.toList items.toList
  /-- The sheets end sooner, the last of them maybe within. -/
  tables : ∀ file selection sheets,
    readTables file selection whole.error #[] none whole.events = .ok sheets →
    ∃ short, readTables file selection kept.error #[] none kept.events = .ok short ∧
      CutShort Sheet.Begins short.toList sheets.toList

/-- A document that no reader takes to its end. -/
structure IsRefused (document : Document) : Prop where
  worksheet : ∀ context name sheet, readWorksheet context name document ≠ .ok sheet
  sharedTexts : ∀ items, SharedTexts.ofDocument document ≠ .ok items
  /-- Tables are only read from it if nothing behind its events is looked at. -/
  tables : ∀ file selection sheets,
    readTables file selection document.error #[] none document.events = .ok sheets →
    ∀ error more, readTables file selection error #[] none (document.events ++ more) = .ok sheets

lemma readsShort_of_events {kept whole : Document} {more : List Event} (hkept : kept.error = none)
    (hevents : whole.events = kept.events ++ more) : ReadsShort kept whole where
  worksheet _ _ _ h := OpenXml.readWorksheet_kept hkept hevents h
  sharedTexts _ h := SharedTexts.ofDocument_kept hkept hevents h
  tables file selection sheets h := by
    rw [hevents] at h
    rw [hkept]
    exact OpenDocument.readTables_kept h

lemma isRefused_of_error {document : Document} {fault : Markup.Error}
    (h : document.error = some fault) : IsRefused document where
  worksheet context name sheet hsheet := by
    rw [readWorksheet] at hsheet
    obtain ⟨last, hlast, -⟩ := map_eq_ok hsheet
    have hnone := (foldDocument_eq_ok hlast).2
    rw [h] at hnone
    exact absurd hnone (by simp)
  sharedTexts items hitems := by
    rw [SharedTexts.ofDocument] at hitems
    obtain ⟨last, hlast, -⟩ := map_eq_ok hitems
    have hnone := (foldDocument_eq_ok hlast).2
    rw [h] at hnone
    exact absurd hnone (by simp)
  tables file selection sheets hsheets := by
    rw [h] at hsheets
    exact OpenDocument.readTables_ended hsheets

/-- A part that is cut off in front of a tag is read as less, whatever elements are open there;
one that is cut off inside of the tag is refused. -/
theorem readsShort_or_isRefused {kept : List UInt8} (h : (Document.ofBytes kept).error = none)
    (lost : List UInt8) :
    ReadsShort (Document.ofBytes kept) (Document.ofBytes (kept ++ 60 :: lost)) ∧
      (62 ∉ lost → IsRefused (Document.ofBytes (kept ++ 60 :: lost))) := by
  obtain ⟨more, error, hwhole, herror⟩ := Document.ofBytes_append h lost
  rw [hwhole]
  constructor
  · exact readsShort_of_events h rfl
  · intro hlost
    exact isRefused_of_error (herror hlost).2

/-- The beginning of a worksheet, up to the end tag of a value. -/
def keptWorksheet : List UInt8 :=
  bytesOf "<worksheet><sheetData><row><c><v>1</v></c><c><v>2"

/-- The rest of the worksheet behind the bracket of that tag. -/
def lostWorksheet : List UInt8 := bytesOf "/v></c></row></sheetData></worksheet>"

theorem readsShort_worksheet :
    (Document.ofBytes keptWorksheet).error = none ∧
      ReadsShort (Document.ofBytes keptWorksheet)
        (Document.ofBytes (keptWorksheet ++ 60 :: lostWorksheet)) ∧
      62 ∉ bytesOf "/v" ∧ IsRefused (Document.ofBytes (keptWorksheet ++ 60 :: bytesOf "/v")) := by
  have h : (Document.ofBytes keptWorksheet).error = none := by decide +kernel
  have hlost : 62 ∉ bytesOf "/v" := by decide +kernel
  exact ⟨h, (readsShort_or_isRefused h lostWorksheet).1, hlost,
    (readsShort_or_isRefused h (bytesOf "/v")).2 hlost⟩

/-- How many elements are open behind events. -/
def openBehind (events : List Event) : Nat :=
  events.foldl (fun count event =>
    match event with
    | .start _ => count + 1
    | .finish _ => count - 1
    | _ => count) 0

/-- A part ends while elements are open, without an error in its markup. -/
def IsCutOff (archive : Archive) (name : String) : Prop :=
  ∃ document, OpenXml.document? archive name = some document ∧ document.error = none ∧
    0 < openBehind document.events

/-- A workbook whose worksheet ends within its second cell. -/
def cutWorksheet : OpenXml.Package where
  file := "stock.xlsx"
  archive := ⟨[⟨"xl/worksheets/sheet1.xml", keptWorksheet⟩]⟩
  sheets := [⟨"Stock", "xl/worksheets/sheet1.xml"⟩]
  kinds := #[]

/-- A workbook whose shared texts end within the first of them. -/
def cutSharedTexts : OpenXml.Package where
  file := "stock.xlsx"
  archive := ⟨[⟨"xl/sharedStrings.xml", bytesOf "<sst><si><t>unit pr"⟩,
    ⟨"xl/worksheets/sheet1.xml", bytesOf <|
      "<worksheet><sheetData><row><c t=\"s\"><v>0</v></c></row></sheetData></worksheet>"⟩]⟩
  sheets := [⟨"Stock", "xl/worksheets/sheet1.xml"⟩]
  kinds := #[]

/-- A spreadsheet whose content ends within its second row. -/
def cutContent : OpenDocument.Package where
  file := "stock.ods"
  archive := ⟨[⟨"content.xml", bytesOf <|
    "<office:spreadsheet><table:table table:name=\"Stock\"><table:table-row><table:table-cell " ++
    "office:value-type=\"string\"><text:p>unit</text:p></table:table-cell></table:table-row>" ++
    "<table:table-row><table:table-cell office:value-type=\"string\"><text:p>kg"⟩]⟩

/-- Parts that end within elements are read as sheets that lack what is not there. -/
theorem readSheets_cut :
    IsCutOff cutWorksheet.archive "xl/worksheets/sheet1.xml" ∧
    (cutWorksheet.readSheets {}).map (·.map (·.cells)) = .ok [#[⟨0, 0, .number, "1"⟩]] ∧
    IsCutOff cutSharedTexts.archive "xl/sharedStrings.xml" ∧
    (cutSharedTexts.readSheets {}).map (·.map (·.cells)) = .ok [#[⟨0, 0, .text, "unit pr"⟩]] ∧
    IsCutOff cutContent.archive "content.xml" ∧
    (cutContent.readSheets {}).map (·.map (·.cells)) = .ok [#[⟨0, 0, .text, "unit"⟩]] := by
  refine ⟨⟨_, rfl, ?_, ?_⟩, ?_, ⟨_, rfl, ?_, ?_⟩, ?_, ⟨_, rfl, ?_, ?_⟩, ?_⟩ <;> decide +kernel

end Workbook

end DataDictionary
