import DataDictionary.Proofs.Upsert
import DataDictionary.Proofs.Workbook.StoredTexts

/-!
# Cell styles

The styles part has the format codes of the workbook in one section and the cell styles in another,
among sections of other things. Elements of the same names stand in some of these, and they count
for nothing. The style of a number says whether it is shown as a date: its format is the last one
that is declared under its id, wherever in the part that stands, or else the built-in one.
-/

namespace DataDictionary.Workbook.OpenXml

open Markup Text

/-! ### Sections -/

/-- The event is a tag of one of the two sections that count. -/
def isSectionTag (event : Event) : Bool := isTagOf "numFmts" event || isTagOf "cellXfs" event

/-- One of the two sections, or an event outside of them. -/
inductive StylePart
  | formats (tag : Tag) (name : tag.name.is "numFmts" = true) (content : List Event)
      (content_plain : ∀ event ∈ content, isSectionTag event = false)
  | cellStyles (tag : Tag) (name : tag.name.is "cellXfs" = true) (content : List Event)
      (content_plain : ∀ event ∈ content, isSectionTag event = false)
  | other (event : Event) (plain : isSectionTag event = false)

/-- The tag of an event that begins an element of the given name. -/
def tagOf? (name : String) : Event → Option Tag
  | .start tag => if tag.name.is name then some tag else none
  | _ => none

/-- The start tags of elements of the given name. -/
def tagsOf (name : String) (events : List Event) : List Tag := events.filterMap (tagOf? name)

namespace StylePart

def events : StylePart → List Event
  | formats tag _ content _ | cellStyles tag _ content _ =>
    .start tag :: content ++ [.finish tag.name]
  | other event _ => [event]

/-- The elements that declare formats. -/
def formatTags : StylePart → List Tag
  | formats _ _ content _ => tagsOf "numFmt" content
  | cellStyles _ _ _ _ | other _ _ => []

/-- The elements of cell styles. -/
def styleTags : StylePart → List Tag
  | cellStyles _ _ content _ => tagsOf "xf" content
  | formats _ _ _ _ | other _ _ => []

/-- What the elements of the two sections are asked for can be read. -/
structure IsReadable (part : StylePart) : Prop where
  formats : ∀ tag ∈ part.formatTags, ∀ name ∈ ["numFmtId", "formatCode"],
    ∃ value, tag.attribute? name = .ok value
  styles : ∀ tag ∈ part.styleTags, ∃ value, tag.attribute? "numFmtId" = .ok value

end StylePart

/-- The id and the code of a format that is declared with both. -/
def declared? (tag : Tag) : Option (String × String) :=
  match given? tag "numFmtId", given? tag "formatCode" with
  | some id, some code => some (id, code)
  | _, _ => none

/-- The format id of a cell style. -/
def formatOf (tag : Tag) : String := (given? tag "numFmtId").getD ""

/-- The kind of the numbers of a format id: that of the last code under the id, or else that of the
built-in format. -/
def kindOfFormat (epoch : Epoch) (declared : List (String × String)) (id : String) : CellKind :=
  match lastWith? Prod.fst id declared with
  | some (_, code) => NumberFormat.custom epoch code
  | none => (NumberFormat.builtin? epoch id).getD .number

/-- The kind of the numbers of the cell style with the given number. -/
def kindOfStyle (epoch : Epoch) (parts : List StylePart) (k : Nat) : CellKind :=
  match (parts.flatMap StylePart.styleTags)[k]? with
  | some tag =>
    kindOfFormat epoch ((parts.flatMap StylePart.formatTags).filterMap declared?) (formatOf tag)
  | none => .number

/-- An event that begins an element of the given name is told by its tag. -/
lemma eq_start_of_tagOf? {name : String} {event : Event} {tag : Tag}
    (h : tagOf? name event = some tag) : event = .start tag ∧ tag.name.is name = true := by
  cases event with
  | start other =>
    rw [tagOf?] at h
    split at h
    · next hname =>
      obtain rfl := Option.some.inj h
      exact ⟨rfl, hname⟩
    · cases h
  | _ => cases h

/-! ### Reading -/

namespace Styles

variable {epoch : Epoch} {styles : Styles}

/-- The styles with more formats and more cell styles behind them. -/
def extend (epoch : Epoch) (styles : Styles) (declared : List (String × String))
    (ids : List String) : Styles :=
  { styles with
    custom := (declared.map fun p => (p.1, NumberFormat.custom epoch p.2)).reverse ++ styles.custom
    ids := styles.ids ++ ids.toArray }

@[simp]
lemma extend_nil (styles : Styles) : styles.extend epoch [] [] = styles := by
  simp [extend]

lemma extend_extend (styles : Styles) (declared declared' : List (String × String))
    (ids ids' : List String) :
    (styles.extend epoch declared ids).extend epoch declared' ids' =
      styles.extend epoch (declared ++ declared') (ids ++ ids') := by
  simp [extend]

/-- An event is passed over if it begins nothing that counts in the section that it stands in. -/
lemma step_passed {event : Event} (hplain : isSectionTag event = false)
    (hformats : styles.inFormats = true → tagOf? "numFmt" event = none)
    (hstyles : styles.inCellStyles = true → tagOf? "xf" event = none) :
    styles.step epoch event = .ok styles := by
  rw [isSectionTag, Bool.or_eq_false_iff] at hplain
  cases event with
  | start tag =>
    have hformat : (tag.name.is "numFmt" && styles.inFormats) = false := by
      cases hinside : styles.inFormats <;> simp_all [tagOf?]
    have hstyle : (tag.name.is "xf" && styles.inCellStyles) = false := by
      cases hinside : styles.inCellStyles <;> simp_all [tagOf?]
    rw [isTagOf, isTagOf] at hplain
    simp only [step, start, hplain, hformat, hstyle, Bool.false_eq_true, if_false]
  | finish name => simp_all [step, isTagOf]
  | _ => rfl

lemma step_format {tag : Tag} (hname : tag.name.is "numFmt" = true)
    (hreadable : ∀ name ∈ ["numFmtId", "formatCode"], ∃ value, tag.attribute? name = .ok value)
    (hformats : styles.inFormats = true) :
    styles.step epoch (.start tag) = .ok (styles.extend epoch (declared? tag).toList []) := by
  obtain ⟨id, hid⟩ := hreadable "numFmtId" (by simp)
  obtain ⟨code, hcode⟩ := hreadable "formatCode" (by simp)
  have hsection : tag.name.is "numFmts" = false := is_eq_false hname (by decide)
  rw [declared?, given?_of_ok hid, given?_of_ok hcode]
  simp only [step, start, hsection, hname, hformats, hid, hcode, ofMarkup, bind, Except.bind,
    Bool.false_eq_true, if_false, Bool.and_self, if_true]
  cases id with
  | none => simp
  | some id =>
    cases code with
    | none => simp
    | some code => simp [extend, hformats]

lemma step_style {tag : Tag} (hname : tag.name.is "xf" = true)
    (hreadable : ∃ value, tag.attribute? "numFmtId" = .ok value)
    (hstyles : styles.inCellStyles = true) :
    styles.step epoch (.start tag) = .ok (styles.extend epoch [] [formatOf tag]) := by
  obtain ⟨id, hid⟩ := hreadable
  have hformats : tag.name.is "numFmts" = false := is_eq_false hname (by decide)
  have hformat : tag.name.is "numFmt" = false := is_eq_false hname (by decide)
  have hsection : tag.name.is "cellXfs" = false := is_eq_false hname (by decide)
  rw [formatOf, given?_of_ok hid]
  simp [step, start, hformats, hformat, hsection, hname, hstyles, hid, ofMarkup, bind, Except.bind,
    extend]

/-- Read inside or outside of the sections, the events put these formats and cell styles behind the
others. -/
def Extends (epoch : Epoch) (inFormats inCellStyles : Bool) (events : List Event)
    (declared : List (String × String)) (ids : List String) : Prop :=
  ∀ styles : Styles, styles.inFormats = inFormats → styles.inCellStyles = inCellStyles →
    events.foldlM (step epoch) styles = .ok (styles.extend epoch declared ids)

namespace Extends

variable {inFormats inCellStyles : Bool}

lemma append {a b : List Event} {declared declared' : List (String × String)}
    {ids ids' : List String} (ha : Extends epoch inFormats inCellStyles a declared ids)
    (hb : Extends epoch inFormats inCellStyles b declared' ids') :
    Extends epoch inFormats inCellStyles (a ++ b) (declared ++ declared') (ids ++ ids') := by
  intro styles hformats hstyles
  have hrest := hb (styles.extend epoch declared ids) hformats hstyles
  rw [extend_extend] at hrest
  rw [List.foldlM_append, ha styles hformats hstyles]
  exact hrest

lemma flatMap {α : Type} {l : List α} {f : α → List Event} {g : α → List (String × String)}
    {h : α → List String}
    (hall : ∀ a ∈ l, Extends epoch inFormats inCellStyles (f a) (g a) (h a)) :
    Extends epoch inFormats inCellStyles (l.flatMap f) (l.flatMap g) (l.flatMap h) := by
  induction l with
  | nil =>
    intro styles _ _
    simp [pure, Except.pure]
  | cons a l ih =>
    rw [List.forall_mem_cons] at hall
    exact hall.1.append (ih hall.2)

lemma of_step {event : Event} {declared : List (String × String)} {ids : List String}
    (h : ∀ styles : Styles, styles.inFormats = inFormats → styles.inCellStyles = inCellStyles →
      styles.step epoch event = .ok (styles.extend epoch declared ids)) :
    Extends epoch inFormats inCellStyles [event] declared ids := by
  intro styles hformats hstyles
  rw [List.foldlM_cons, h styles hformats hstyles]
  rfl

/-- In the section of the formats, those that are declared are put behind the others. -/
lemma formats {content : List Event} (hplain : ∀ event ∈ content, isSectionTag event = false)
    (hreadable : ∀ tag ∈ tagsOf "numFmt" content, ∀ name ∈ ["numFmtId", "formatCode"],
      ∃ value, tag.attribute? name = .ok value) :
    Extends epoch true false content ((tagsOf "numFmt" content).filterMap declared?) [] := by
  have hevents : ∀ event ∈ content,
      Extends epoch true false [event] ((tagOf? "numFmt" event).bind declared?).toList [] := by
    intro event hevent
    refine of_step fun styles hformats hstyles => ?_
    cases htag : tagOf? "numFmt" event with
    | none =>
      have hstyle : styles.inCellStyles = true → tagOf? "xf" event = none := by simp [hstyles]
      simpa using step_passed (hplain event hevent) (fun _ => htag) hstyle
    | some tag =>
      obtain ⟨rfl, hname⟩ := eq_start_of_tagOf? htag
      have hmem : tag ∈ tagsOf "numFmt" content := List.mem_filterMap.mpr ⟨_, hevent, htag⟩
      exact step_format hname (hreadable tag hmem) hformats
  have hnone : content.flatMap (fun _ => ([] : List String)) = [] := by simp
  rw [tagsOf, List.filterMap_filterMap, List.filterMap_eq_flatMap_toList]
  simpa [hnone] using flatMap hevents

/-- In the section of the cell styles, their format ids are put behind the others. -/
lemma cellStyles {content : List Event} (hplain : ∀ event ∈ content, isSectionTag event = false)
    (hreadable : ∀ tag ∈ tagsOf "xf" content, ∃ value, tag.attribute? "numFmtId" = .ok value) :
    Extends epoch false true content [] ((tagsOf "xf" content).map formatOf) := by
  have hevents : ∀ event ∈ content,
      Extends epoch false true [event] [] ((tagOf? "xf" event).map formatOf).toList := by
    intro event hevent
    refine of_step fun styles hformats hstyles => ?_
    cases htag : tagOf? "xf" event with
    | none =>
      have hformat : styles.inFormats = true → tagOf? "numFmt" event = none := by simp [hformats]
      simpa using step_passed (hplain event hevent) hformat (fun _ => htag)
    | some tag =>
      obtain ⟨rfl, hname⟩ := eq_start_of_tagOf? htag
      have hmem : tag ∈ tagsOf "xf" content := List.mem_filterMap.mpr ⟨_, hevent, htag⟩
      exact step_style hname (hreadable tag hmem) hstyles
  have hnone : content.flatMap (fun _ => ([] : List (String × String))) = [] := by simp
  rw [tagsOf, List.map_filterMap, List.filterMap_eq_flatMap_toList]
  simpa [hnone] using flatMap hevents

/-- A part of the styles is left with what it declares behind the rest. -/
lemma part {part : StylePart} (hreadable : part.IsReadable) :
    Extends epoch false false part.events (part.formatTags.filterMap declared?)
      (part.styleTags.map formatOf) := by
  intro styles hformats hstyles
  cases part with
  | formats tag hname content hplain =>
    have hstart : styles.step epoch (.start tag) = .ok { styles with inFormats := true } := by
      simp [step, start, hname]
    have hcontent : Extends epoch true false content _ [] := formats hplain hreadable.formats
    have hread := hcontent { styles with inFormats := true } rfl hstyles
    rw [StylePart.events, foldlM_enclosed, hstart]
    simp only [bind, Except.bind, hread]
    simp [step, hname, extend, StylePart.formatTags, StylePart.styleTags, hformats]
  | cellStyles tag hname content hplain =>
    have hformatsName : tag.name.is "numFmts" = false := is_eq_false hname (by decide)
    have hformatName : tag.name.is "numFmt" = false := is_eq_false hname (by decide)
    have hstart : styles.step epoch (.start tag) = .ok { styles with inCellStyles := true } := by
      simp [step, start, hname, hformatsName, hformatName]
    have hcontent : Extends epoch false true content [] _ := cellStyles hplain hreadable.styles
    have hread := hcontent { styles with inCellStyles := true } hformats rfl
    rw [StylePart.events, foldlM_enclosed, hstart]
    simp only [bind, Except.bind, hread]
    simp [step, hname, hformatsName, extend, StylePart.formatTags, StylePart.styleTags, hstyles]
  | other event hplain =>
    rw [StylePart.events, List.foldlM_cons, step_passed hplain (by simp [hformats])
      (by simp [hstyles])]
    simp [StylePart.formatTags, StylePart.styleTags, bind, Except.bind, pure, Except.pure]

end Extends

lemma foldlM_parts {parts : List StylePart} (hreadable : ∀ part ∈ parts, part.IsReadable) :
    (parts.flatMap StylePart.events).foldlM (step epoch) {} =
      .ok (extend epoch {} ((parts.flatMap StylePart.formatTags).filterMap declared?)
        ((parts.flatMap StylePart.styleTags).map formatOf)) := by
  have hparts : Extends epoch false false (parts.flatMap StylePart.events) _ _ :=
    Extends.flatMap fun part hpart => Extends.part (hreadable part hpart)
  rw [hparts {} rfl rfl, List.filterMap_flatMap, List.map_flatMap]

/-- What is looked up in the formats is the last one that is declared. -/
lemma kindOf_extend (epoch : Epoch) (declared : List (String × String)) (ids : List String)
    (id : String) :
    (extend epoch {} declared ids).kindOf epoch id = kindOfFormat epoch declared id := by
  have hlookup : (extend epoch {} declared ids).custom.lookup id =
      (lastWith? Prod.fst id declared).map fun p => NumberFormat.custom epoch p.2 := by
    induction declared using List.reverseRecOn with
    | nil => rfl
    | append_singleton declared p ih =>
      rw [lastWith?_concat]
      by_cases hid : p.1 = id
      · simp [extend, hid]
      · have hne : (id == p.1) = false := beq_eq_false_iff_ne.mpr (Ne.symm hid)
        rw [if_neg hid, ← ih]
        simp [extend, List.lookup_cons, hne]
  rw [kindOf, hlookup, kindOfFormat]
  cases lastWith? Prod.fst id declared <;> rfl

/-- The styles part gives each number of a cell style the kind of its format. -/
lemma getD_kinds_extend (epoch : Epoch) (parts : List StylePart) (k : Nat) :
    (((extend epoch {} ((parts.flatMap StylePart.formatTags).filterMap declared?)
      ((parts.flatMap StylePart.styleTags).map formatOf)).kinds epoch)[k]?).getD .number =
        kindOfStyle epoch parts k := by
  rw [kinds, Array.getElem?_map, kindOfStyle]
  simp only [extend, List.getElem?_toArray, Array.empty_append, List.getElem?_map]
  cases (parts.flatMap StylePart.styleTags)[k]? with
  | none => rfl
  | some tag => exact kindOf_extend epoch _ ((parts.flatMap StylePart.styleTags).map formatOf) _

end Styles

/-! ### Cells of numbers -/

/-- A cell of no type, or of one that stands for numbers. -/
structure NumericCell where
  tag : Tag
  before : List Event := []
  valueTag : Tag
  content : List Event := []
  after : List Event := []
  tag_name : tag.name.is "c" = true
  tag_type : ∃ type, tag.attribute? "t" = .ok type ∧ Cursor.kindOfType type = .number
  before_beside : ∀ event ∈ before, isBeside event = true
  valueTag_name : valueTag.name.is "v" = true
  content_ends : ∀ event ∈ content, ends "v" event = false
  after_beside : ∀ event ∈ after, isBeside event = true

def NumericCell.events (cell : NumericCell) : List Event :=
  .start cell.tag ::
    (cell.before ++ (.start cell.valueTag :: cell.content ++ [.finish cell.valueTag.name]) ++
      cell.after) ++ [.finish cell.tag.name]

/-- The kind can be shown: it is one of numbers or of dates. -/
def IsNumeric : CellKind → Prop
  | .number | .serial _ _ => True
  | _ => False

lemma isNumeric_kindOfFormat (epoch : Epoch) (declared : List (String × String)) (id : String) :
    IsNumeric (kindOfFormat epoch declared id) := by
  rw [kindOfFormat]
  split
  · next code _ =>
    rw [NumberFormat.custom, NumberFormat.kindOf.eq_def]
    split <;> trivial
  · rw [NumberFormat.builtin?]
    split
    · trivial
    split
    · trivial
    split <;> trivial

lemma isNumeric_kindOfStyle (epoch : Epoch) (parts : List StylePart) (k : Nat) :
    IsNumeric (kindOfStyle epoch parts k) := by
  rw [kindOfStyle]
  split
  · exact isNumeric_kindOfFormat _ _ _
  · trivial

namespace Cursor

/-- The cursor behind a cell with a value, which is put on the sheet. -/
def withValue (cursor : Cursor) (reference : Option String) (kind : CellKind) (value : String) :
    Cursor :=
  { cursor.inCell reference .empty with
    sheet := cursor.sheet.push
      ⟨(cursor.positionOf reference).1, (cursor.positionOf reference).2, kind, value⟩ }

variable {context : Context} {cursor : Cursor}

lemma startCell_numeric {tag : Tag} {type : Option String} {k : Nat}
    (htype : tag.attribute? "t" = .ok type) (hnumber : kindOfType type = .number)
    (hstyle : tag.count? "s" = .ok (some k)) {kind : CellKind}
    (hkind : (context.kinds[k]?).getD .number = kind) :
    cursor.startCell context tag = (cursor.referenceOf tag).map (cursor.inCell · kind) := by
  have hkindOf : kindOf context tag = .ok kind := by
    simp [kindOf, htype, hnumber, hstyle, hkind, ofMarkup, bind, Except.bind]
  rw [startCell_eq, hkindOf]
  cases cursor.referenceOf tag <;> rfl

lemma endCell_numeric (context : Context) (cursor : Cursor) (reference : Option String)
    {kind : CellKind} (hkind : IsNumeric kind) {value : String} (hvalue : value ≠ "") :
    { cursor.inCell reference kind with value }.endCell context =
      .ok (cursor.withValue reference kind value) := by
  cases kind <;> simp_all [IsNumeric, endCell, settled, inCell, withValue, bind, Except.bind]

end Cursor

/-- A cell of a number is put on the sheet with the kind of its style. -/
lemma NumericCell.foldlM_events (cell : NumericCell) {context : Context} {cursor : Cursor}
    {k : Nat} {kind : CellKind} {value : String}
    (hstyle : cell.tag.count? "s" = .ok (some k))
    (hkind : (context.kinds[k]?).getD .number = kind) (hnumeric : IsNumeric kind)
    (hvalue : ItemText.ofValue.read cell.content = .ok value) (hne : value ≠ "")
    (hcollecting : cursor.collecting = none) :
    cell.events.foldlM (Cursor.step context) cursor = (do
      let reference ← cursor.referenceOf cell.tag
      .ok (cursor.withValue reference kind value)) := by
  obtain ⟨type, htype, hnumber⟩ := cell.tag_type
  have hname := Name.eq_of_is cell.tag_name
  have hvalueName := Name.eq_of_is cell.valueTag_name
  have hstart : cursor.step context (.start cell.tag) =
      (cursor.referenceOf cell.tag).map (cursor.inCell · kind) := by
    rw [← Cursor.startCell_numeric htype hnumber hstyle hkind, Cursor.step, hcollecting]
    simp [Cursor.stepOutside, hname]
  have hfinish (next : Cursor) (hnext : next.collecting = none) :
      next.step context (.finish cell.tag.name) = next.endCell context := by
    simp [Cursor.step, hnext, Cursor.stepOutside, hname]
  rw [events, foldlM_enclosed, hstart]
  cases cursor.referenceOf cell.tag with
  | error error => rfl
  | ok reference =>
    have hbegun : (cursor.inCell reference kind).step context (.start cell.valueTag) =
        .ok { cursor.inCell reference kind with collecting := some ("v", .ofValue) } := by
      simp [Cursor.step, Cursor.inCell, hcollecting, Cursor.stepOutside, hvalueName]
    have hinside := Cursor.foldlM_inside context cell.before_beside cell.after_beside
      cell.valueTag_name cell.content_ends hbegun hcollecting
    simp only [bind, Except.bind, hinside, hvalue, Except.map]
    exact (hfinish { cursor.inCell reference kind with value } hcollecting).trans
      (Cursor.endCell_numeric context cursor reference hnumeric hne)

/-! ### Workbooks -/

/-- The other parts of a workbook list these contents, with a sheet at least. -/
def Lists (archive : Archive) (contents : Contents) : Prop :=
  ∃ relations relationships workbook,
    document archive "xl/_rels/workbook.xml.rels" = .ok relations ∧
    foldDocument Relationships.step [] relations = .ok relationships ∧
    document archive "xl/workbook.xml" = .ok workbook ∧
    foldDocument (Contents.step relationships) {} workbook = .ok contents ∧
    contents.sheets.isEmpty = false

def StylePart.isFormats : StylePart → Bool
  | formats _ _ _ _ => true
  | _ => false

def StylePart.isCellStyles : StylePart → Bool
  | cellStyles _ _ _ _ => true
  | _ => false

/-- Members that give nothing can be left out. -/
lemma flatMap_filter_of_nil {α β : Type} {p : α → Bool} {f : α → List β}
    (h : ∀ a, p a = false → f a = []) (l : List α) : (l.filter p).flatMap f = l.flatMap f := by
  induction l with
  | nil => rfl
  | cons a l ih => cases ha : p a <;> simp [ha, ih, h]

/-- What stands outside of the sections counts for nothing, and neither does their order. -/
lemma kindOfStyle_filter (epoch : Epoch) (parts : List StylePart) :
    kindOfStyle epoch (parts.filter StylePart.isFormats ++ parts.filter StylePart.isCellStyles) =
      kindOfStyle epoch parts := by
  have hformats : (parts.filter StylePart.isFormats ++ parts.filter StylePart.isCellStyles).flatMap
      StylePart.formatTags = parts.flatMap StylePart.formatTags := by
    have hnone : (parts.filter StylePart.isCellStyles).flatMap StylePart.formatTags = [] := by
      rw [List.flatMap_eq_nil_iff]
      rintro (_ | _ | _) hpart
      · simp [StylePart.isCellStyles] at hpart
      · rfl
      · rfl
    rw [List.flatMap_append, hnone, List.append_nil]
    refine flatMap_filter_of_nil ?_ parts
    rintro (_ | _ | _) hpart
    · simp [StylePart.isFormats] at hpart
    · rfl
    · rfl
  have hstyles : (parts.filter StylePart.isFormats ++ parts.filter StylePart.isCellStyles).flatMap
      StylePart.styleTags = parts.flatMap StylePart.styleTags := by
    have hnone : (parts.filter StylePart.isFormats).flatMap StylePart.styleTags = [] := by
      rw [List.flatMap_eq_nil_iff]
      rintro (_ | _ | _) hpart
      · rfl
      · simp [StylePart.isFormats] at hpart
      · rfl
    rw [List.flatMap_append, hnone, List.nil_append]
    refine flatMap_filter_of_nil ?_ parts
    rintro (_ | _ | _) hpart
    · rfl
    · simp [StylePart.isCellStyles] at hpart
    · rfl
  funext k
  rw [kindOfStyle, kindOfStyle, hformats, hstyles]

/-- In a workbook with such styles, a number of a cell style is put on the sheet with the kind of
that style: the kind of the last format that is declared under its id, or else of the built-in one,
or else a plain number, as where there is no such style. The kinds are those that the two sections
give without what stands around them, whichever comes first. -/
theorem load_of_styleParts {archive : Archive} {contents : Contents} {parts : List StylePart}
    (hlists : Lists archive contents)
    (hstyles : document? archive "xl/styles.xml" =
      some { events := parts.flatMap StylePart.events })
    (hreadable : ∀ part ∈ parts, part.IsReadable) {disk : Disk} {file : String}
    (hdisk : disk.readArchive file = .ok archive) :
    ∃ package, Package.load disk file = .ok package ∧
      (∀ k, (package.kinds[k]?).getD .number = kindOfStyle contents.epoch parts k) ∧
      kindOfStyle contents.epoch
          (parts.filter StylePart.isFormats ++ parts.filter StylePart.isCellStyles) =
        kindOfStyle contents.epoch parts ∧
      ∀ (cell : NumericCell) (k : Nat) (value : String) (shared : Array String) (cursor : Cursor),
        cell.tag.count? "s" = .ok (some k) → ItemText.ofValue.read cell.content = .ok value →
        value ≠ "" → cursor.collecting = none →
        cell.events.foldlM (Cursor.step ⟨package.file, shared, package.kinds⟩) cursor = (do
          let reference ← cursor.referenceOf cell.tag
          .ok (cursor.withValue reference (kindOfStyle contents.epoch parts k) value)) := by
  obtain ⟨relations, relationships, workbook, hrelations, hrelationships, hworkbook, hcontents,
    hsheets⟩ := hlists
  have hread : Package.stylesOf archive contents.epoch =
      .ok (Styles.extend contents.epoch {}
        ((parts.flatMap StylePart.formatTags).filterMap declared?)
        ((parts.flatMap StylePart.styleTags).map formatOf)) := by
    rw [Package.stylesOf, hstyles]
    simp only [foldDocument, Styles.foldlM_parts hreadable]
  refine ⟨⟨file, archive, contents.sheets.toList, Styles.kinds contents.epoch _⟩, ?_,
    Styles.getD_kinds_extend contents.epoch parts, kindOfStyle_filter _ _, ?_⟩
  · simp only [Package.load_eq, hdisk, hrelations, hrelationships, hworkbook, hcontents,
      Package.withContents, hsheets, hread, Except.map, bind, Except.bind, Bool.false_eq_true,
      if_false]
  · intro cell k value shared cursor hstyle hvalue hne hcollecting
    exact cell.foldlM_events hstyle (Styles.getD_kinds_extend contents.epoch parts k)
      (isNumeric_kindOfStyle _ _ _) hvalue hne hcollecting

/-- A styles part with its cell styles in front of the formats, one of which is declared twice.
There are styles and formats in other sections, too. -/
def reportStyles : List StylePart := [
  .other (.start (.written "styleSheet" [])) (by decide),
  .other (.start (.written "cellStyleXfs" [])) (by decide),
  .other (.start (.written "xf" [("numFmtId", "22")])) (by decide),
  .other (.finish ⟨bytesOf "xf"⟩) (by decide),
  .other (.finish ⟨bytesOf "cellStyleXfs"⟩) (by decide),
  .cellStyles (.written "cellXfs" []) (by simp) (
    element "xf" [("numFmtId", "164")] [] ++ element "xf" [("numFmtId", "21")] []) (by decide),
  .formats (.written "numFmts" []) (by simp) (
    element "numFmt" [("numFmtId", "164"), ("formatCode", "0.0")] [] ++
      element "numFmt" [("numFmtId", "164"), ("formatCode", "d.m.yy")] []) (by decide),
  .other (.start (.written "dxfs" [])) (by decide),
  .other (.start (.written "numFmt" [("numFmtId", "164"), ("formatCode", "0")])) (by decide),
  .other (.finish ⟨bytesOf "numFmt"⟩) (by decide),
  .other (.finish ⟨bytesOf "dxfs"⟩) (by decide),
  .other (.finish ⟨bytesOf "styleSheet"⟩) (by decide)]

/-- The archive with these styles. -/
def reportArchive : Archive :=
  tallyArchive (tallyWorkbook "" asDefault) [
    ⟨"xl/worksheets/a.xml", bytesOf <| written "" "row" "" "<c s=\"0\"><v>45292</v></c>"⟩,
    ⟨"xl/styles.xml", bytesOf <| written "" "styleSheet" "" <|
      "<cellStyleXfs><xf numFmtId=\"22\"/></cellStyleXfs>" ++
      "<cellXfs><xf numFmtId=\"164\"/><xf numFmtId=\"21\"/></cellXfs>" ++
      "<numFmts><numFmt numFmtId=\"164\" formatCode=\"0.0\"/>" ++
      "<numFmt numFmtId=\"164\" formatCode=\"d.m.yy\"/></numFmts>" ++
      "<dxfs><numFmt numFmtId=\"164\" formatCode=\"0\"/></dxfs>"⟩]

/-- The sheet of the workbook. -/
def reportContents : Contents where
  sheets := #[⟨"Tally", "xl/worksheets/a.xml"⟩]

/-- A cell of its worksheet, with a formula in front of the value. -/
def reportCell : NumericCell where
  tag := .written "c" [("s", "0")]
  before := [.start (.written "f" []), .text (bytesOf "TODAY()"), .finish ⟨bytesOf "f"⟩]
  valueTag := .written "v" [("xml:space", "preserve")]
  content := [.text (bytesOf "45292")]
  after := [.text (bytesOf "\n")]
  tag_name := by simp
  tag_type := ⟨none, by simp, rfl⟩
  before_beside := by decide +kernel
  valueTag_name := by simp
  content_ends := by simp [ends]
  after_beside := by decide +kernel

deriving instance DecidableEq for Contents

lemma lists_report : Lists reportArchive reportContents :=
  ⟨_, [("a", "xl/worksheets/a.xml")], _, rfl, by decide +kernel, rfl, by decide +kernel, rfl⟩

lemma isReadable_report : ∀ part ∈ reportStyles, part.IsReadable := by
  have hread {α β : Type} {x : Except α β} (h : x.toBool = true) : ∃ value, x = .ok value := by
    cases x with
    | error error => cases h
    | ok value => exact ⟨value, rfl⟩
  have hformats : ∀ part ∈ reportStyles, ∀ tag ∈ part.formatTags,
      ∀ name ∈ ["numFmtId", "formatCode"], (tag.attribute? name).toBool = true := by
    decide +kernel
  have hstyles : ∀ part ∈ reportStyles, ∀ tag ∈ part.styleTags,
      (tag.attribute? "numFmtId").toBool = true := by
    decide +kernel
  intro part hpart
  exact ⟨fun tag htag name hname => hread (hformats part hpart tag htag name hname),
    fun tag htag => hread (hstyles part hpart tag htag)⟩

theorem load_of_styleParts_report :
    Lists reportArchive reportContents ∧
    document? reportArchive "xl/styles.xml" =
      some { events := reportStyles.flatMap StylePart.events } ∧
    (∀ part ∈ reportStyles, part.IsReadable) ∧
    (diskWith reportArchive).readArchive "/usage.xlsx" = .ok reportArchive ∧
    ∃ package, Package.load (diskWith reportArchive) "/usage.xlsx" = .ok package ∧
      ((package.kinds[0]?).getD .number = .serial .date .from1900 ∧
        (package.kinds[1]?).getD .number = .serial .time .from1900 ∧
        (package.kinds[2]?).getD .number = .number) ∧
      ∀ (shared : Array String) (cursor : Cursor), cursor.collecting = none →
        cursor.nextCol + 1 < wordLimit →
        reportCell.events.foldlM (Cursor.step ⟨package.file, shared, package.kinds⟩) cursor =
          .ok (cursor.withValue none (.serial .date .from1900) "45292") := by
  have hstyles : document? reportArchive "xl/styles.xml" =
      some { events := reportStyles.flatMap StylePart.events } := by
    decide +kernel
  have hdisk : (diskWith reportArchive).readArchive "/usage.xlsx" = .ok reportArchive := rfl
  have hkinds : kindOfStyle .from1900 reportStyles 0 = .serial .date .from1900 ∧
      kindOfStyle .from1900 reportStyles 1 = .serial .time .from1900 ∧
      kindOfStyle .from1900 reportStyles 2 = .number := by
    decide +kernel
  obtain ⟨package, hload, hpackage, -, hcell⟩ :=
    load_of_styleParts lists_report hstyles isReadable_report hdisk
  refine ⟨lists_report, hstyles, isReadable_report, hdisk, package, hload, ⟨?_, ?_, ?_⟩, ?_⟩
  · rw [hpackage]
    exact hkinds.1
  · rw [hpackage]
    exact hkinds.2.1
  · rw [hpackage]
    exact hkinds.2.2
  · intro shared cursor hcollecting hlt
    have hstyle : reportCell.tag.count? "s" = .ok (some 0) := by decide +kernel
    have hvalue : ItemText.ofValue.read reportCell.content = .ok "45292" := by decide +kernel
    have hread := hcell reportCell 0 "45292" shared cursor hstyle hvalue (by decide) hcollecting
    have hreference : cursor.referenceOf reportCell.tag = .ok none :=
      Cursor.referenceOf_of_lt (by simp [reportCell]) hlt
    have hkind : kindOfStyle reportContents.epoch reportStyles 0 = .serial .date .from1900 :=
      hkinds.1
    rw [hread, hreference, hkind]
    rfl

end DataDictionary.Workbook.OpenXml
