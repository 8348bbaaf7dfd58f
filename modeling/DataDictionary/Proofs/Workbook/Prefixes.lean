import DataDictionary.Proofs.Workbook.ChosenSheets
import Mathlib.Data.List.TakeWhile

/-!
# Names with a namespace prefix

The names of a part may be written with a prefix for their namespace. The relationships and the
workbook part are read by local names, so a prefix makes no difference there. Worksheets, shared
texts and styles are read by names as they are written, and every element that has a prefix is
passed over: the sheets are listed as before, without any cells.
-/

namespace DataDictionary

/-! ### Prefixed names -/

namespace Markup

/-- The name has a prefix. -/
def Name.IsQualified (name : Name) : Prop := 58 ∈ name.bytes
deriving Decidable

/-- The name with a prefix, if it has none. -/
def Name.withPrefix (p : String) (name : Name) : Name :=
  if name.IsQualified then name else ⟨bytesOf p ++ 58 :: name.bytes⟩

lemma Name.isQualified_withPrefix (p : String) (name : Name) :
    (name.withPrefix p).IsQualified := by
  rw [withPrefix]
  split
  · assumption
  · simp [IsQualified]

lemma Name.localPart_of_not_isQualified {name : Name} (h : ¬ name.IsQualified) :
    name.localPart = name := by
  have hdrop : name.bytes.dropWhile (· != 58) = [] := by
    rw [List.dropWhile_eq_nil_iff]
    intro b hb
    rw [bne_iff_ne]
    rintro rfl
    exact h hb
  rw [localPart, hdrop]

/-- A prefix without a colon leaves the local part as it is. -/
lemma Name.localPart_withPrefix {p : String} (hp : 58 ∉ bytesOf p) (name : Name) :
    (name.withPrefix p).localPart = name.localPart := by
  rw [withPrefix]
  split
  · rfl
  · next h =>
    have hdrop : (bytesOf p ++ 58 :: name.bytes).dropWhile (· != 58) = 58 :: name.bytes := by
      rw [List.dropWhile_append_of_pos]
      · simp
      · intro b hb
        rw [bne_iff_ne]
        rintro rfl
        exact hp hb
    rw [localPart_of_not_isQualified h, localPart, hdrop]

/-- A name with a prefix is none of the names that are asked for as they are written. -/
lemma Name.is_of_isQualified {name : Name} (h : name.IsQualified) {s : String}
    (hs : 58 ∉ bytesOf s) : name.is s = false := by
  rw [is, beq_eq_false_iff_ne]
  intro hbytes
  rw [IsQualified, hbytes] at h
  exact hs h

end Markup

namespace Workbook.OpenXml

open Markup

/-! ### Parts with prefixed names -/

/-- The name of a part's outermost element, where namespaces are declared. -/
def isRoot (name : Name) : Bool :=
  ["workbook", "worksheet", "sst", "styleSheet"].any name.localPart.is

/-- The event without the attributes of an outermost element. -/
def undeclared : Event → Event
  | .start tag => if isRoot tag.name then .start { name := tag.name } else .start tag
  | event => event

/-- The event with its name under a prefix. -/
def withPrefix (p : String) : Event → Event
  | .start tag => .start { tag with name := tag.name.withPrefix p }
  | .finish name => .finish (name.withPrefix p)
  | event => event

/-- Another document has the names of the first under a prefix, and declares it somehow. -/
structure PrefixedAs (p : String) (document other : Document) : Prop where
  events_eq : other.events.map undeclared =
    document.events.map fun event => withPrefix p (undeclared event)
  error_eq : other.error = document.error

/-- The tags of the event have names with prefixes. -/
def IsQualified : Event → Prop
  | .start tag => tag.name.IsQualified
  | .finish name => name.IsQualified
  | _ => True

lemma isQualified_undeclared_iff (event : Event) :
    IsQualified (undeclared event) ↔ IsQualified event := by
  cases event with
  | start tag =>
    rw [undeclared]
    split
    · rfl
    · rfl
  | _ => rfl

lemma isQualified_withPrefix (p : String) (event : Event) : IsQualified (withPrefix p event) := by
  cases event with
  | start tag => exact tag.name.isQualified_withPrefix p
  | finish name => exact name.isQualified_withPrefix p
  | _ => trivial

lemma PrefixedAs.isQualified {p : String} {document other : Document}
    (h : PrefixedAs p document other) : ∀ event ∈ other.events, IsQualified event := by
  intro event hevent
  have hmem : undeclared event ∈ other.events.map undeclared := List.mem_map_of_mem hevent
  rw [h.events_eq] at hmem
  obtain ⟨plain, -, heq⟩ := List.mem_map.mp hmem
  rw [← isQualified_undeclared_iff, ← heq]
  exact isQualified_withPrefix p _

/-! ### The workbook part -/

lemma is_of_isRoot {name : Name} (h : isRoot name = true) {s : String}
    (hs : bytesOf s ∉ ["workbook", "worksheet", "sst", "styleSheet"].map bytesOf) :
    name.localPart.is s = false := by
  obtain ⟨root, hroot, his⟩ := List.any_eq_true.mp h
  apply is_eq_false his
  intro heq
  exact hs (heq ▸ List.mem_map_of_mem hroot)

namespace Contents

variable {relationships : Relationships}

lemma step_undeclared (contents : Contents) (event : Event) :
    step relationships contents (undeclared event) = step relationships contents event := by
  cases event with
  | start tag =>
    rw [undeclared]
    split
    · next hroot =>
      have hsheet := is_of_isRoot (s := "sheet") hroot (by decide)
      have hepoch := is_of_isRoot (s := "workbookPr") hroot (by decide)
      simp [step, hsheet, hepoch]
    · rfl
  | _ => rfl

/-- The elements of a workbook part are known by their local names. -/
lemma step_withPrefix {p : String} (hp : 58 ∉ bytesOf p) (contents : Contents) (event : Event) :
    step relationships contents (withPrefix p event) = step relationships contents event := by
  cases event with
  | start tag =>
    simp only [withPrefix, step, Name.localPart_withPrefix hp]
    rfl
  | _ => rfl

lemma foldlM_undeclared (events : List Event) (contents : Contents) :
    (events.map undeclared).foldlM (step relationships) contents =
      events.foldlM (step relationships) contents := by
  rw [List.foldlM_map]
  simp only [step_undeclared]

lemma foldDocument_prefixedAs {p : String} (hp : 58 ∉ bytesOf p) {document other : Document}
    (h : PrefixedAs p document other) (contents : Contents) :
    foldDocument (step relationships) contents other =
      foldDocument (step relationships) contents document := by
  have hfold : other.events.foldlM (step relationships) contents =
      document.events.foldlM (step relationships) contents := by
    rw [← foldlM_undeclared other.events, h.events_eq, List.foldlM_map]
    simp only [step_withPrefix hp, step_undeclared]
  rw [foldDocument, foldDocument, hfold, h.error_eq]

end Contents

/-! ### Parts that are passed over -/

section Passed

variable {σ : Type} {step : σ → Event → Except Error σ} {state : σ}

/-- A part whose elements are all passed over says nothing. -/
lemma foldDocument_passed {p : String} {document other : Document}
    (h : PrefixedAs p document other) (herror : document.error = none)
    (hstep : ∀ event, IsQualified event → step state event = .ok state) :
    foldDocument step state other = .ok state := by
  have hfold : other.events.foldlM step state = .ok state :=
    foldlM_passed fun event hevent => hstep event (h.isQualified event hevent)
  rw [foldDocument, hfold, h.error_eq, herror]

end Passed

lemma Styles.step_of_isQualified {event : Event} (h : IsQualified event) (epoch : Epoch)
    (styles : Styles) : styles.step epoch event = .ok styles := by
  cases event with
  | start tag =>
    have hformats := Name.is_of_isQualified (s := "numFmts") h (by decide)
    have hformat := Name.is_of_isQualified (s := "numFmt") h (by decide)
    have hstyles := Name.is_of_isQualified (s := "cellXfs") h (by decide)
    have hstyle := Name.is_of_isQualified (s := "xf") h (by decide)
    simp [step, start, hformats, hformat, hstyles, hstyle]
  | finish name =>
    have hformats := Name.is_of_isQualified (s := "numFmts") h (by decide)
    have hstyles := Name.is_of_isQualified (s := "cellXfs") h (by decide)
    simp [step, hformats, hstyles]
  | _ => rfl

lemma SharedTexts.step_of_isQualified {event : Event} (h : IsQualified event) :
    step {} event = .ok {} := by
  cases event with
  | start tag =>
    have hitem := Name.is_of_isQualified (s := "si") h (by decide)
    simp [step, hitem]
  | _ => rfl

lemma Cursor.step_of_isQualified {event : Event} (h : IsQualified event) (context : Context)
    {cursor : Cursor} (hcollecting : cursor.collecting = none) :
    cursor.step context event = .ok cursor := by
  rw [step, hcollecting]
  cases event with
  | start tag =>
    have hrow := Name.is_of_isQualified (s := "row") h (by decide)
    have hcell := Name.is_of_isQualified (s := "c") h (by decide)
    have hinline := Name.is_of_isQualified (s := "is") h (by decide)
    have hvalue := Name.is_of_isQualified (s := "v") h (by decide)
    simp [stepOutside, hrow, hcell, hinline, hvalue]
  | finish name =>
    have hrow := Name.is_of_isQualified (s := "row") h (by decide)
    have hcell := Name.is_of_isQualified (s := "c") h (by decide)
    simp [stepOutside, hrow, hcell]
  | _ => rfl

/-! ### Workbooks -/

/-- The sheet without its cells. -/
def withoutCells (sheet : Sheet) : Sheet := .new sheet.file sheet.name

/-- Of a sheet that is filled, the name stays, and everything if it has no cells in the end. -/
structure FilledTo (sheet filled : Sheet) : Prop where
  withoutCells_eq : withoutCells filled = withoutCells sheet
  eq_of_empty : filled.cells = #[] → filled = sheet

namespace FilledTo

lemma refl (sheet : Sheet) : FilledTo sheet sheet := ⟨rfl, fun _ => rfl⟩

lemma trans {a b c : Sheet} (hab : FilledTo a b) (hbc : FilledTo b c) : FilledTo a c where
  withoutCells_eq := hbc.withoutCells_eq.trans hab.withoutCells_eq
  eq_of_empty := by
    intro hc
    obtain rfl := hbc.eq_of_empty hc
    exact hab.eq_of_empty hc

lemma push (sheet : Sheet) (cell : Cell) : FilledTo sheet (sheet.push cell) where
  withoutCells_eq := by
    rw [withoutCells, Sheet.name_push, Sheet.push]
    split <;> rfl
  eq_of_empty := by
    intro h
    rw [Sheet.push] at h ⊢
    split at h
    · next place _ =>
      have hcells : sheet.cells = #[] := by simpa using h
      have hset : sheet.cells.setIfInBounds place cell = sheet.cells := by simp [hcells]
      rw [hset]
    · exact absurd h (by simp)

end FilledTo

lemma Cursor.filledTo_of_takes {cursor next : Cursor} {event : Event}
    (h : cursor.Takes event next) : FilledTo cursor.sheet next.sheet := by
  cases h with
  | stay _ hsheet | startRow _ _ _ hsheet | endRow _ _ hsheet | startCell _ _ _ _ hsheet =>
    rw [hsheet]
    exact .refl _
  | endCell _ _ _ hsheet =>
    rw [hsheet]
    exact .push _ _

/-- Another archive has its workbook part under a prefix, and the same relationships. -/
structure PrefixedWorkbook (p : String) (archive other : Archive) : Prop where
  relationships : document? other "xl/_rels/workbook.xml.rels" =
    document? archive "xl/_rels/workbook.xml.rels"
  workbook : Option.Rel (PrefixedAs p) (document? archive "xl/workbook.xml")
    (document? other "xl/workbook.xml")

/-- Another archive has its other parts under a prefix: the styles, the shared texts and the
worksheets of the workbook. -/
structure PrefixedSheets (p : String) (entries : List SheetEntry) (archive other : Archive) :
    Prop where
  styles : Option.Rel (PrefixedAs p) (document? archive "xl/styles.xml")
    (document? other "xl/styles.xml")
  sharedTexts : Option.Rel (PrefixedAs p) (document? archive "xl/sharedStrings.xml")
    (document? other "xl/sharedStrings.xml")
  worksheets : ∀ entry ∈ entries, Option.Rel (PrefixedAs p) (document? archive entry.path)
    (document? other entry.path)

lemma rel_cases {α : Type} {r : α → α → Prop} {x y : Option α} (h : Option.Rel r x y) :
    (x = none ∧ y = none) ∨ ∃ a b, x = some a ∧ y = some b ∧ r a b := by
  cases h with
  | none => exact .inl ⟨rfl, rfl⟩
  | some hab => exact .inr ⟨_, _, rfl, rfl, hab⟩

lemma document_eq_ok_iff {archive : Archive} {name : String} {told : Document} :
    document archive name = .ok told ↔ document? archive name = some told := by
  rw [document]
  cases document? archive name <;> simp

namespace Package

variable {p : String} {package : Package} {other : Archive}

lemma exists_document_of_rel {archive : Archive} {name : String} {told : Document}
    (h : Option.Rel (PrefixedAs p) (document? archive name) (document? other name))
    (htold : document archive name = .ok told) :
    ∃ told', document other name = .ok told' ∧ PrefixedAs p told told' := by
  rw [document_eq_ok_iff] at htold
  obtain ⟨hnone, -⟩ | ⟨told, told', hsome, hother, hprefixed⟩ := rel_cases h
  · rw [hnone] at htold
    cases htold
  · obtain rfl := Option.some.inj (hsome.symm.trans htold)
    exact ⟨told', document_eq_ok_iff.mpr hother, hprefixed⟩

/-- What the relationships and the workbook part of an archive list. -/
def contentsOf (archive : Archive) : Except Error Contents := do
  let relations ← document archive "xl/_rels/workbook.xml.rels"
  let relationships ← foldDocument Relationships.step [] relations
  let workbook ← document archive "xl/workbook.xml"
  foldDocument (Contents.step relationships) {} workbook

lemma load_of_readArchive {disk : Disk} {file : String} {archive : Archive}
    (h : disk.readArchive file = .ok archive) :
    load disk file = (do
      let contents ← contentsOf archive
      withContents file archive contents) := by
  rw [load_eq, h]
  simp only [contentsOf, bind_assoc]
  rfl

/-- Under a prefix the workbook part lists the same, and fails alike. -/
lemma contentsOf_prefixed {archive : Archive} (hp : 58 ∉ bytesOf p)
    (h : PrefixedWorkbook p archive other) : contentsOf other = contentsOf archive := by
  have hrelations : document other "xl/_rels/workbook.xml.rels" =
      document archive "xl/_rels/workbook.xml.rels" := by
    rw [document, h.relationships, ← document]
  rw [contentsOf, contentsOf, hrelations]
  refine bind_congr fun relations => bind_congr fun relationships => ?_
  obtain ⟨hnone, hnone'⟩ | ⟨told, told', htold, htold', hprefixed⟩ := rel_cases h.workbook
  · simp only [document, hnone, hnone']
  · simp only [document, htold, htold']
    exact Contents.foldDocument_prefixedAs hp hprefixed {}

/-- The archive counts for the opening of a workbook by its styles alone. -/
lemma withContents_of_styles {file : String} {archive : Archive} {contents : Contents}
    (h : document? other "xl/styles.xml" = document? archive "xl/styles.xml") :
    withContents file other contents =
      (withContents file archive contents).map fun package => { package with archive := other } := by
  rw [withContents, withContents, stylesOf, h, ← stylesOf]
  split
  · rfl
  · cases stylesOf archive contents.epoch <;> rfl

/-- Styles under a prefix say nothing. -/
lemma stylesOf_prefixed {archive : Archive} {epoch : Epoch} {styles : Styles}
    (h : Option.Rel (PrefixedAs p) (document? archive "xl/styles.xml")
      (document? other "xl/styles.xml"))
    (hstyles : stylesOf archive epoch = .ok styles) : stylesOf other epoch = .ok {} := by
  rw [stylesOf] at hstyles ⊢
  obtain ⟨-, hother⟩ | ⟨told, told', htold, hother, hprefixed⟩ := rel_cases h
  · rw [hother]
  · rw [htold] at hstyles
    rw [hother]
    exact foldDocument_passed hprefixed (foldDocument_eq_ok hstyles).2
      fun _ hevent => Styles.step_of_isQualified hevent epoch {}

/-- Shared texts under a prefix are none. -/
lemma sharedTexts_prefixed {kinds : Array CellKind} {shared : Array String}
    (h : Option.Rel (PrefixedAs p) (document? package.archive "xl/sharedStrings.xml")
      (document? other "xl/sharedStrings.xml"))
    (hshared : package.sharedTexts = .ok shared) :
    { package with archive := other, kinds }.sharedTexts = .ok #[] := by
  rw [sharedTexts] at hshared ⊢
  obtain ⟨-, hother⟩ | ⟨told, told', htold, hother, hprefixed⟩ := rel_cases h
  · rw [hother]
  · rw [htold] at hshared
    obtain ⟨last, hlast, -⟩ := map_eq_ok hshared
    have hpassed : foldDocument SharedTexts.step {} told' = .ok {} :=
      foldDocument_passed hprefixed (foldDocument_eq_ok hlast).2
        fun _ => SharedTexts.step_of_isQualified
    rw [hother]
    show (foldDocument SharedTexts.step {} told').map SharedTexts.finish = .ok #[]
    rw [hpassed]
    rfl

lemma filledTo_readEntry {shared : Array String} {entry : SheetEntry} {sheet : Sheet}
    (h : package.readEntry shared entry = .ok sheet) :
    FilledTo (.new package.file entry.name) sheet := by
  rw [readEntry] at h
  obtain ⟨told, -, h⟩ := bind_eq_ok h
  rw [readWorksheet] at h
  obtain ⟨last, hlast, rfl⟩ := map_eq_ok h
  exact foldlM_of_step (R := fun a b : Cursor => FilledTo a.sheet b.sheet)
    (fun cursor => .refl cursor.sheet) (fun _ _ _ => .trans)
    (fun _ _ _ hstep => Cursor.filledTo_of_takes (Cursor.takes_of_step hstep))
    (foldDocument_eq_ok hlast).1

/-- A worksheet under a prefix has no cells. -/
lemma readEntry_prefixed {entry : SheetEntry} {kinds : Array CellKind}
    {shared shared' : Array String} {sheet : Sheet}
    (h : Option.Rel (PrefixedAs p) (document? package.archive entry.path)
      (document? other entry.path))
    (hsheet : package.readEntry shared entry = .ok sheet) :
    { package with archive := other, kinds }.readEntry shared' entry =
      .ok (.new package.file entry.name) := by
  rw [readEntry] at hsheet ⊢
  obtain ⟨told, htold, hsheet⟩ := bind_eq_ok hsheet
  obtain ⟨told', htold', hprefixed⟩ := exists_document_of_rel h htold
  rw [readWorksheet] at hsheet
  obtain ⟨last, hlast, -⟩ := map_eq_ok hsheet
  have hpassed (context : Context) : foldDocument (Cursor.step context)
      { sheet := .new package.file entry.name } told' =
        .ok { sheet := .new package.file entry.name } :=
    foldDocument_passed hprefixed (foldDocument_eq_ok hlast).2
      fun _ hevent => Cursor.step_of_isQualified hevent context rfl
  simp only [htold', readWorksheet, hpassed, bind, Except.bind]
  rfl

/-- Under a prefix every chosen sheet is read without its cells. -/
lemma readSheets_withoutCells (kinds : Array CellKind) {selection : Selection}
    {sheets : List Sheet} (hother : PrefixedSheets p package.sheets package.archive other)
    (h : package.readSheets selection = .ok sheets) :
    { package with archive := other, kinds }.readSheets selection =
      .ok (sheets.map withoutCells) := by
  rw [readSheets_eq] at h ⊢
  obtain ⟨shared, hshared, h⟩ := bind_eq_ok h
  rw [mapM_eq_ok_iff] at h
  rw [sharedTexts_prefixed hother.sharedTexts hshared]
  show List.mapM _ (selection.choose SheetEntry.name package.sheets) = _
  rw [mapM_eq_ok_iff, List.forall₂_map_right_iff]
  have hentries : ∀ entry ∈ selection.choose SheetEntry.name package.sheets,
      entry ∈ package.sheets := fun _ => (Selection.choose_sublist _ _).mem
  refine ((List.forall₂_and_left _ _).mpr ⟨hentries, h⟩).imp ?_
  rintro entry sheet ⟨hentry, hsheet⟩
  rw [readEntry_prefixed (hother.worksheets entry hentry) hsheet]
  exact congrArg Except.ok (filledTo_readEntry hsheet).withoutCells_eq.symm

/-- Sheets that are read are the same without their cells just if they have none. -/
lemma map_withoutCells_eq_iff {selection : Selection} {sheets : List Sheet}
    (h : package.readSheets selection = .ok sheets) :
    sheets.map withoutCells = sheets ↔ ∀ sheet ∈ sheets, sheet.cells = #[] := by
  have hmap : sheets.map withoutCells = sheets ↔ ∀ sheet ∈ sheets, withoutCells sheet = sheet := by
    simpa using List.map_inj_left (l := sheets) (f := withoutCells) (g := id)
  rw [readSheets_eq] at h
  obtain ⟨shared, -, h⟩ := bind_eq_ok h
  rw [hmap]
  constructor
  · intro hsame sheet hsheet
    rw [← hsame sheet hsheet]
    rfl
  · intro hempty sheet hsheet
    obtain ⟨entry, -, hentry⟩ := exists_of_mem_mapM h hsheet
    have hfilled := filledTo_readEntry hentry
    rw [hfilled.eq_of_empty (hempty sheet hsheet)]
    rfl

/-- A prefix for the elements of the workbook part makes no difference: the workbook opens as
before or fails alike, and the same is read of it. A prefix for those of all parts leaves the list
of sheets as it is, but no sheet has cells any more: so what is read is changed just if there were
some. -/
theorem readSheets_prefixed (hp : 58 ∉ bytesOf p) {disk disk' : Disk} {file : String}
    {archive : Archive} (hdisk : disk.readArchive file = .ok archive)
    (hdisk' : disk'.readArchive file = .ok other) (hworkbook : PrefixedWorkbook p archive other) :
    (document? other "xl/styles.xml" = document? archive "xl/styles.xml" →
      load disk' file =
        (load disk file).map fun package => { package with archive := other }) ∧
    ∀ package : Package, load disk file = .ok package →
      (document? other "xl/sharedStrings.xml" = document? archive "xl/sharedStrings.xml" →
        ∀ selection : Selection, ChosenAlike selection package.sheets archive other →
          { package with archive := other }.readSheets selection =
            package.readSheets selection) ∧
      (PrefixedSheets p package.sheets archive other →
        load disk' file = .ok { package with archive := other, kinds := #[] } ∧
        ∀ (selection : Selection) (sheets : List Sheet),
          package.readSheets selection = .ok sheets →
          { package with archive := other, kinds := #[] }.readSheets selection =
              .ok (sheets.map withoutCells) ∧
            ({ package with archive := other, kinds := #[] }.readSheets selection =
                package.readSheets selection ↔ ∀ sheet ∈ sheets, sheet.cells = #[])) := by
  have hload' := load_of_readArchive hdisk'
  rw [contentsOf_prefixed hp hworkbook] at hload'
  rw [load_of_readArchive hdisk, hload']
  constructor
  · intro hsame
    cases contentsOf archive with
    | error fault => rfl
    | ok contents => exact withContents_of_styles hsame
  · intro package h
    obtain ⟨contents, hcontents, h⟩ := bind_eq_ok h
    rw [withContents] at h
    split at h
    · cases h
    next hempty =>
    obtain ⟨styles, hstyles, rfl⟩ := map_eq_ok h
    constructor
    · intro hshared selection hchosen
      rw [readSheets_eq, readSheets_eq, sharedTexts, sharedTexts, hshared]
      refine bind_congr fun shared => mapM_congr fun entry hentry => ?_
      exact readEntry_of_map (hchosen entry hentry) shared
    · intro hother
      refine ⟨?_, ?_⟩
      · rw [hcontents]
        simp only [withContents, hempty, stylesOf_prefixed hother.styles hstyles, Styles.kinds,
          Except.map, bind, Except.bind, Array.map_empty, Bool.false_eq_true, if_false]
      · intro selection sheets hsheets
        have hread := readSheets_withoutCells #[] hother hsheets
        refine ⟨hread, ?_⟩
        rw [hread, hsheets, Except.ok.injEq]
        exact map_withoutCells_eq_iff hsheets

end Package

/-! ### A workbook written both ways -/

/-- An element, its name written behind the given text. -/
def written (p name attributes content : String) : String :=
  "<" ++ p ++ name ++ attributes ++ ">" ++ content ++ "</" ++ p ++ name ++ ">"

/-- A workbook part with one sheet. -/
def tallyWorkbook (p declared : String) : Part := ⟨"xl/workbook.xml", bytesOf <|
  written p "workbook" declared <| written p "sheets" "" <|
    written p "sheet" " name=\"Tally\" r:id=\"a\"" ""⟩

/-- The worksheet with a shared text and a date, and what they refer to. -/
def tallySheets (p declared : String) : List Part := [
  ⟨"xl/worksheets/a.xml", bytesOf <|
    written p "worksheet" declared <| written p "sheetData" "" <| written p "row" "" <|
      written p "c" " t=\"s\"" (written p "v" "" "0") ++
      written p "c" " s=\"0\"" (written p "v" "" "45292")⟩,
  ⟨"xl/sharedStrings.xml", bytesOf <|
    written p "sst" declared <| written p "si" "" <| written p "t" "" "unit"⟩,
  ⟨"xl/styles.xml", bytesOf <|
    written p "styleSheet" declared <| written p "cellXfs" "" <|
      written p "xf" " numFmtId=\"14\"" ""⟩]

/-- The declaration of the namespace as the default one. -/
def asDefault : String := " xmlns=\"" ++ mainNamespace ++ "\""

/-- The declaration of the namespace under a prefix. -/
def asPrefix : String := " xmlns:x=\"" ++ mainNamespace ++ "\""

/-- The archive with the given parts. -/
def tallyArchive (workbook : Part) (sheets : List Part) : Archive := ⟨
  workbook ::
  ⟨"xl/_rels/workbook.xml.rels", bytesOf <|
    "<Relationships>" ++ relationshipTo "a" ++ "</Relationships>"⟩ ::
  sheets⟩

/-- The workbook with all names as they are. -/
def tally : Archive :=
  tallyArchive (tallyWorkbook "" asDefault) (tallySheets "" asDefault)

/-- The workbook with a prefix for the names of its workbook part. -/
def tallyListed : Archive :=
  tallyArchive (tallyWorkbook "x:" asPrefix) (tallySheets "" asDefault)

/-- The workbook with a prefix for all names. -/
def tallyPrefixed : Archive :=
  tallyArchive (tallyWorkbook "x:" asPrefix) (tallySheets "x:" asPrefix)

/-- The workbook, opened. -/
def tallyPackage : Package where
  file := "/usage.xlsx"
  archive := tally
  sheets := [⟨"Tally", "xl/worksheets/a.xml"⟩]
  kinds := #[.serial .date .from1900]

lemma readArchive_diskWith (archive : Archive) :
    (diskWith archive).readArchive "/usage.xlsx" = .ok archive := rfl

/-- Whatever the other parts are. -/
lemma prefixedWorkbook_tally (sheets : List Part) :
    PrefixedWorkbook "x" tally (tallyArchive (tallyWorkbook "x:" asPrefix) sheets) where
  relationships := rfl
  workbook := .some ⟨by decide +kernel, by decide +kernel⟩

lemma prefixedSheets_tallyPrefixed :
    PrefixedSheets "x" tallyPackage.sheets tally tallyPrefixed where
  styles := .some ⟨by decide +kernel, by decide +kernel⟩
  sharedTexts := .some ⟨by decide +kernel, by decide +kernel⟩
  worksheets := by
    rw [tallyPackage, List.forall_mem_singleton]
    exact .some ⟨by decide +kernel, by decide +kernel⟩

lemma load_tally : Package.load (diskWith tally) "/usage.xlsx" = .ok tallyPackage := by
  decide +kernel

lemma cells_tally : (tallyPackage.readSheets {}).map (·.map (·.cells.toList)) =
    .ok [[⟨0, 0, .text, "unit"⟩, ⟨0, 1, .serial .date .from1900, "45292"⟩]] := by
  decide +kernel

theorem readSheets_prefixed_tally :
    58 ∉ bytesOf "x" ∧ Package.load (diskWith tally) "/usage.xlsx" = .ok tallyPackage ∧
    (PrefixedWorkbook "x" tally tallyListed ∧
      Package.load (diskWith tallyListed) "/usage.xlsx" =
        .ok { tallyPackage with archive := tallyListed } ∧
      { tallyPackage with archive := tallyListed }.readSheets {} = tallyPackage.readSheets {}) ∧
    (PrefixedWorkbook "x" tally tallyPrefixed ∧
      PrefixedSheets "x" tallyPackage.sheets tally tallyPrefixed ∧
      Package.load (diskWith tallyPrefixed) "/usage.xlsx" =
        .ok { tallyPackage with archive := tallyPrefixed, kinds := #[] } ∧
      ∃ sheets, tallyPackage.readSheets {} = .ok sheets ∧
        { tallyPackage with archive := tallyPrefixed, kinds := #[] }.readSheets {} =
          .ok (sheets.map withoutCells)) := by
  have hp : 58 ∉ bytesOf "x" := by decide
  have hchosen : ChosenAlike {} tallyPackage.sheets tally tallyListed := by
    rw [ChosenAlike]
    decide +kernel
  obtain ⟨sheets, hsheets, -⟩ := map_eq_ok cells_tally
  obtain ⟨hopens, hlisted⟩ := Package.readSheets_prefixed hp (readArchive_diskWith tally)
    (readArchive_diskWith tallyListed) (prefixedWorkbook_tally _)
  obtain ⟨-, hprefixed⟩ := Package.readSheets_prefixed hp (readArchive_diskWith tally)
    (readArchive_diskWith tallyPrefixed) (prefixedWorkbook_tally _)
  have hload := hopens (by decide +kernel)
  rw [load_tally] at hload
  have hread := (hlisted tallyPackage load_tally).1 (by decide +kernel)
  obtain ⟨hload', hread'⟩ := (hprefixed tallyPackage load_tally).2 prefixedSheets_tallyPrefixed
  exact ⟨hp, load_tally, ⟨prefixedWorkbook_tally _, hload, hread {} hchosen⟩,
    prefixedWorkbook_tally _, prefixedSheets_tallyPrefixed, hload', sheets, hsheets,
    (hread' {} sheets hsheets).1⟩

/-- The cells of a workbook are lost where all names of it have a prefix. -/
theorem readSheets_prefixed_ne :
    PrefixedWorkbook "x" tally tallyPrefixed ∧
    PrefixedSheets "x" tallyPackage.sheets tally tallyPrefixed ∧
    Package.load (diskWith tally) "/usage.xlsx" = .ok tallyPackage ∧
    ∃ package, Package.load (diskWith tallyPrefixed) "/usage.xlsx" = .ok package ∧
      package.readSheets {} ≠ tallyPackage.readSheets {} := by
  have hload : Package.load (diskWith tallyPrefixed) "/usage.xlsx" =
      .ok { tallyPackage with archive := tallyPrefixed, kinds := #[] } := by decide +kernel
  refine ⟨prefixedWorkbook_tally _, prefixedSheets_tallyPrefixed, load_tally, _, hload, ?_⟩
  intro hread
  have hcells : (Package.readSheets
      { tallyPackage with archive := tallyPrefixed, kinds := #[] } {}).map
        (·.map (·.cells.toList)) = .ok [[]] := by decide +kernel
  rw [hread, cells_tally] at hcells
  exact absurd hcells (by decide)

end Workbook.OpenXml

end DataDictionary
