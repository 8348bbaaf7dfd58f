import DataDictionary.Proofs.Selection
import DataDictionary.Proofs.Upsert
import DataDictionary.Proofs.Workbook.Agreement
import DataDictionary.Proofs.Workbook.Steps

/-!
# Chosen sheets of an Office Open XML workbook

A workbook lists its sheets by name and by the id of a relationship, and the relationships lead to
the parts. What is read is told here by these three lists alone: the sheets whose ids lead to
worksheets, in the order of the workbook, and of these the chosen ones. The order of the
relationships does not matter, and no part of a sheet that is not chosen is looked at.
-/

namespace DataDictionary.Workbook.OpenXml

open Markup

/-! ### Relationships -/

/-- The name of relationships, under any prefix. -/
def isRelationship (name : Name) : Bool := name.localPart.is "Relationship"

/-- The tags of the relationships of a part, in order. -/
def relationshipTags (events : List Event) : List Tag :=
  events.filterMap fun
    | .start tag => if isRelationship tag.name then some tag else none
    | _ => none

/-- The id and the part that a relationship gives, if it leads to a worksheet. -/
def worksheetOf? (tag : Tag) : Option (String × String) :=
  match given? tag "Id", given? tag "Target" with
  | some id, some target =>
    if isWorksheet (given? tag "Type") then some (id, partPath target) else none
  | _, _ => none

/-- The ids and parts of worksheets, the latest first. -/
def worksheetsOf (tags : List Tag) : Relationships := (tags.filterMap worksheetOf?).reverse

/-- What a relationship is asked for can be read. -/
def IsReadable (tag : Tag) : Prop :=
  ∀ name ∈ ["Id", "Type", "Target"], ∃ value, tag.attribute? name = .ok value

lemma relationshipTags_cons (event : Event) (events : List Event) :
    relationshipTags (event :: events) = relationshipTags [event] ++ relationshipTags events := by
  rw [← List.singleton_append, relationshipTags, List.filterMap_append]
  rfl

lemma worksheetsOf_append (a b : List Tag) :
    worksheetsOf (a ++ b) = worksheetsOf b ++ worksheetsOf a := by
  rw [worksheetsOf, List.filterMap_append, List.reverse_append]
  rfl

namespace Relationships

variable {relationships next : Relationships}

/-- A relationship that can be read goes in front, if it leads to a worksheet. -/
lemma step_start {tag : Tag} (htag : isRelationship tag.name = true) (h : IsReadable tag) :
    step relationships (.start tag) = .ok (worksheetsOf [tag] ++ relationships) := by
  obtain ⟨id, hid⟩ := h "Id" (by simp)
  obtain ⟨kind, hkind⟩ := h "Type" (by simp)
  obtain ⟨target, htarget⟩ := h "Target" (by simp)
  rw [isRelationship] at htag
  have hworksheets : worksheetsOf [tag] = (match id, target with
      | some id, some target => if isWorksheet kind then some (id, partPath target) else none
      | _, _ => none).toList := by
    rw [← given?_of_ok hid, ← given?_of_ok hkind, ← given?_of_ok htarget, ← worksheetOf?]
    cases h : worksheetOf? tag <;> simp [worksheetsOf, h]
  rw [hworksheets]
  simp only [step, htag, hid, hkind, htarget, if_true, ofMarkup, bind, Except.bind]
  cases id <;> cases target <;> try rfl
  cases isWorksheet kind <;> rfl

lemma isReadable_of_step {tag : Tag} (htag : isRelationship tag.name = true)
    (h : step relationships (.start tag) = .ok next) : IsReadable tag := by
  rw [isRelationship] at htag
  simp only [step, htag, if_true] at h
  obtain ⟨id, hid, h⟩ := bind_eq_ok h
  obtain ⟨kind, hkind, h⟩ := bind_eq_ok h
  obtain ⟨target, htarget, -⟩ := bind_eq_ok h
  simp [IsReadable, ofMarkup_eq_ok hid, ofMarkup_eq_ok hkind, ofMarkup_eq_ok htarget]

/-- An event is taken up if the relationship that it begins can be read. -/
lemma step_eq_ok_iff {event : Event} :
    step relationships event = .ok next ↔
      (∀ tag ∈ relationshipTags [event], IsReadable tag) ∧
        next = worksheetsOf (relationshipTags [event]) ++ relationships := by
  have hpassed (hstep : step relationships event = .ok relationships)
      (htags : relationshipTags [event] = []) :
      step relationships event = .ok next ↔
        (∀ tag ∈ relationshipTags [event], IsReadable tag) ∧
          next = worksheetsOf (relationshipTags [event]) ++ relationships := by
    rw [hstep, htags]
    simp [worksheetsOf, eq_comm]
  cases event with
  | start tag =>
    cases htag : isRelationship tag.name with
    | false =>
      apply hpassed
      · rw [isRelationship] at htag
        simp [step, htag]
      · simp [relationshipTags, htag]
    | true =>
      have htags : relationshipTags [.start tag] = [tag] := by simp [relationshipTags, htag]
      rw [htags, List.forall_mem_singleton]
      constructor
      · intro h
        have hreadable := isReadable_of_step htag h
        rw [step_start htag hreadable] at h
        exact ⟨hreadable, (Except.ok.inj h).symm⟩
      · rintro ⟨hreadable, rfl⟩
        exact step_start htag hreadable
  | _ => exact hpassed rfl rfl

/-- A part is read if all of its relationships can be, and gives those that lead to worksheets. -/
lemma foldlM_eq_ok_iff {events : List Event} :
    events.foldlM step relationships = .ok next ↔
      (∀ tag ∈ relationshipTags events, IsReadable tag) ∧
        next = worksheetsOf (relationshipTags events) ++ relationships := by
  induction events generalizing relationships with
  | nil =>
    constructor
    · intro h
      exact ⟨fun _ hmem => absurd hmem List.not_mem_nil, (Except.ok.inj h).symm⟩
    · rintro ⟨-, rfl⟩
      rfl
  | cons event events ih =>
    rw [List.foldlM_cons, relationshipTags_cons, List.forall_mem_append, worksheetsOf_append]
    constructor
    · intro h
      obtain ⟨middle, hmiddle, hlast⟩ := bind_eq_ok h
      obtain ⟨hevent, rfl⟩ := step_eq_ok_iff.mp hmiddle
      obtain ⟨hevents, rfl⟩ := ih.mp hlast
      exact ⟨⟨hevent, hevents⟩, (List.append_assoc ..).symm⟩
    · rintro ⟨⟨hevent, hevents⟩, rfl⟩
      rw [step_eq_ok_iff.mpr ⟨hevent, rfl⟩]
      exact ih.mpr ⟨hevents, List.append_assoc ..⟩

end Relationships

/-- The ids that relationships have. -/
def idsOf (tags : List Tag) : List String := tags.filterMap (given? · "Id")

lemma sublist_idsOf (tags : List Tag) :
    ((tags.filterMap worksheetOf?).map Prod.fst).Sublist (idsOf tags) := by
  induction tags with
  | nil => exact .slnil
  | cons tag tags ih =>
    rw [idsOf, List.filterMap_cons, List.filterMap_cons, ← idsOf]
    cases hid : given? tag "Id" with
    | none =>
      have hnone : worksheetOf? tag = none := by rw [worksheetOf?, hid]
      rw [hnone]
      exact ih
    | some id =>
      cases hworksheet : worksheetOf? tag with
      | none => exact ih.cons _
      | some entry =>
        have hfst : entry.1 = id := by
          simp only [worksheetOf?, hid] at hworksheet
          split at hworksheet
          · next hid _ =>
            split at hworksheet
            · rw [← Option.some.inj hworksheet, Option.some.inj hid]
            · simp at hworksheet
          · simp at hworksheet
        rw [List.map_cons, hfst]
        exact ih.cons_cons _

/-- Relationships with distinct ids lead to the same parts in any order. -/
lemma lookup_worksheetsOf_of_perm {tags tags' : List Tag} (h : tags'.Perm tags)
    (hids : (idsOf tags).Nodup) (id : String) :
    (worksheetsOf tags').lookup id = (worksheetsOf tags).lookup id := by
  have hperm : (worksheetsOf tags).Perm (worksheetsOf tags') := by
    rw [worksheetsOf, worksheetsOf]
    exact (List.reverse_perm _).trans ((h.symm.filterMap _).trans (List.reverse_perm _).symm)
  refine (lookup_eq_of_perm hperm ?_ id).symm
  rw [worksheetsOf, List.map_reverse, List.nodup_reverse]
  exact (sublist_idsOf tags).nodup hids

/-! ### Sheets of the workbook part -/

/-- The text of the last attribute that has the name under any prefix. -/
def lastText? (name : String) (attributes : List (Except AttributeFault Attribute)) :
    Option String :=
  (attributes.filterMap fun
    | .ok a => if a.name.localPart.is name then a.text.toOption else none
    | .error _ => none).getLast?

/-- The sheet of a sheet element that has a name and an id which leads to a worksheet. -/
def entryOf? (relationships : Relationships) : Event → Option SheetEntry
  | .start tag =>
    if tag.name.localPart.is "sheet" then
      match lastText? "name" tag.distinctAttributes,
          (lastText? "id" tag.distinctAttributes).bind (List.lookup · relationships) with
      | some name, some path => some ⟨name, path⟩
      | _, _ => none
    else none
  | _ => none

/-- The sheets of a workbook part whose ids lead to worksheets, in order. -/
def listedSheets (relations workbook : Document) : List SheetEntry :=
  workbook.events.filterMap (entryOf? (worksheetsOf (relationshipTags relations.events)))

lemma lastText?_cons {name : String} {a : Attribute} (hname : a.name.localPart.is name = true)
    {text : String} (htext : a.text = .ok text)
    (attributes : List (Except AttributeFault Attribute)) :
    lastText? name (.ok a :: attributes) = (lastText? name attributes).or (some text) := by
  simp [lastText?, hname, htext, Except.toOption, List.getLast?_cons, Option.or_some]

lemma lastText?_cons_of_ne {name : String} {a : Attribute}
    (hname : a.name.localPart.is name = false)
    (attributes : List (Except AttributeFault Attribute)) :
    lastText? name (.ok a :: attributes) = lastText? name attributes := by
  simp [lastText?, hname]

/-- The last name and the last id count. -/
lemma sheetAttributes_eq {name id : Option String} {result : Option String × Option String}
    {attributes : List (Except AttributeFault Attribute)}
    (h : sheetAttributes name id attributes = .ok result) :
    result = ((lastText? "name" attributes).or name, (lastText? "id" attributes).or id) := by
  induction attributes generalizing name id with
  | nil => exact (Except.ok.inj h).symm
  | cons head attributes ih =>
    cases head with
    | error fault => exact absurd h (by simp [sheetAttributes])
    | ok a =>
      rw [sheetAttributes] at h
      split at h
      · next hname =>
        obtain ⟨text, htext, h⟩ := bind_eq_ok h
        have hid := is_eq_false (t := "id") hname (by decide)
        rw [ih h, lastText?_cons hname (ofMarkup_eq_ok htext), lastText?_cons_of_ne hid,
          Option.or_assoc]
        rfl
      · next hname =>
        split at h
        · next hid =>
          obtain ⟨text, htext, h⟩ := bind_eq_ok h
          rw [ih h, lastText?_cons hid (ofMarkup_eq_ok htext),
            lastText?_cons_of_ne (Bool.eq_false_of_not_eq_true hname), Option.or_assoc]
          rfl
        · next hid =>
          rw [ih h, lastText?_cons_of_ne (Bool.eq_false_of_not_eq_true hname),
            lastText?_cons_of_ne (Bool.eq_false_of_not_eq_true hid)]

namespace Contents

variable {relationships : Relationships} {contents next : Contents}

/-- A sheet element whose id leads to a worksheet is put behind the sheets before it. -/
lemma sheets_step {event : Event} (h : step relationships contents event = .ok next) :
    next.sheets.toList = contents.sheets.toList ++ (entryOf? relationships event).toList := by
  have hpassed (hsheets : next.sheets = contents.sheets) (hentry : entryOf? relationships event =
      none) : next.sheets.toList =
        contents.sheets.toList ++ (entryOf? relationships event).toList := by
    rw [hsheets, hentry, Option.toList_none, List.append_nil]
  cases event with
  | start tag =>
    rw [step] at h
    split at h
    · next hsheet =>
      obtain ⟨⟨name, id⟩, hattributes, h⟩ := bind_eq_ok h
      obtain ⟨rfl, rfl⟩ := Prod.mk.inj (sheetAttributes_eq hattributes)
      simp only [Option.or_none] at h
      simp only [entryOf?, hsheet, if_true]
      generalize lastText? "name" tag.distinctAttributes = name at h ⊢
      generalize (lastText? "id" tag.distinctAttributes).bind (List.lookup · relationships) = path
        at h ⊢
      cases name <;> cases path <;> obtain rfl := Except.ok.inj h <;> simp
    split at h
    · next hsheet _ =>
      obtain ⟨value, -, h⟩ := bind_eq_ok h
      obtain rfl := Except.ok.inj h
      apply hpassed
      · split <;> rfl
      · simp [entryOf?, hsheet]
    · next hsheet _ =>
      obtain rfl := Except.ok.inj h
      apply hpassed rfl
      simp [entryOf?, hsheet]
  | _ =>
    obtain rfl := Except.ok.inj h
    exact hpassed rfl rfl

lemma sheets_foldlM {events : List Event}
    (h : events.foldlM (step relationships) contents = .ok next) :
    next.sheets.toList =
      contents.sheets.toList ++ events.filterMap (entryOf? relationships) := by
  induction events generalizing contents with
  | nil =>
    obtain rfl := Except.ok.inj h
    exact (List.append_nil _).symm
  | cons event events ih =>
    rw [List.foldlM_cons] at h
    obtain ⟨middle, hmiddle, hlast⟩ := bind_eq_ok h
    rw [ih hlast, sheets_step hmiddle, List.append_assoc]
    cases hentry : entryOf? relationships event <;> simp [hentry]

/-- Of the relationships, nothing counts but the parts that they lead to. -/
lemma step_congr {other : Relationships} (h : ∀ id, other.lookup id = relationships.lookup id) :
    step other = step relationships := by
  have hlookup : (List.lookup · other) = (List.lookup · relationships) := funext h
  funext contents event
  cases event with
  | start tag => simp only [step, hlookup]
  | _ => rfl

end Contents

/-! ### Worksheets without relationships -/

/-- The event is no tag of a relationship. -/
def isOther : Event → Bool
  | .start tag => !isRelationship tag.name
  | .finish name => !isRelationship name
  | _ => true

/-- The document without the tags of relationships. A sheet may lie in the part of the
relationships itself, and what is read of it there is all that is left. -/
def withoutRelationships (document : Document) : Document :=
  { document with events := document.events.filter isOther }

lemma is_eq_false_of_isRelationship {name : Name} (h : isRelationship name = true) {s : String}
    (hs : isRelationship ⟨bytesOf s⟩ = false) : name.is s = false := by
  rw [Name.is, beq_eq_false_iff_ne]
  intro hbytes
  have hname : name = ⟨bytesOf s⟩ := congrArg Name.mk hbytes
  rw [hname, hs] at h
  exact Bool.false_ne_true h

lemma ItemText.step_of_isRelationship {event : Event} (h : isOther event = false)
    (item : ItemText) : item.step event = .ok item := by
  cases event with
  | start tag | finish name =>
    simp only [isOther, Bool.not_eq_false'] at h
    have hrPh := is_eq_false_of_isRelationship (s := "rPh") h (by decide)
    have ht := is_eq_false_of_isRelationship (s := "t") h (by decide)
    simp [ItemText.step, hrPh, ht]
  | _ => exact absurd h (by simp [isOther])

namespace Cursor

variable {context : Context} {cursor next : Cursor} {event : Event}

/-- No relationship ends the text that is being collected. -/
def Collects (cursor : Cursor) : Prop :=
  ∀ p ∈ cursor.collecting, isRelationship ⟨bytesOf p.1⟩ = false

lemma stepOutside_of_isRelationship (h : isOther event = false) :
    cursor.stepOutside context event = .ok cursor := by
  cases event with
  | start tag | finish name =>
    simp only [isOther, Bool.not_eq_false'] at h
    have hrow := is_eq_false_of_isRelationship (s := "row") h (by decide)
    have hcell := is_eq_false_of_isRelationship (s := "c") h (by decide)
    have hinline := is_eq_false_of_isRelationship (s := "is") h (by decide)
    have hvalue := is_eq_false_of_isRelationship (s := "v") h (by decide)
    simp [stepOutside, hrow, hcell, hinline, hvalue]
  | _ => exact absurd h (by simp [isOther])

/-- A worksheet is read over the tags of relationships. -/
lemma step_of_isRelationship (hcollects : cursor.Collects) (h : isOther event = false) :
    cursor.step context event = .ok cursor := by
  cases hcollecting : cursor.collecting with
  | none =>
    simp only [step, hcollecting]
    exact stepOutside_of_isRelationship h
  | some p =>
    obtain ⟨name, item⟩ := p
    have hname := hcollects (name, item) hcollecting
    have hends : ends name event = false := by
      cases event with
      | finish tag =>
        simp only [isOther, Bool.not_eq_false'] at h
        exact is_eq_false_of_isRelationship h hname
      | _ => rfl
    have hcursor : { cursor with collecting := some (name, item) } = cursor := by
      rw [← hcollecting]
    simp [step, hcollecting, hends, ItemText.step_of_isRelationship h, Except.map, hcursor]

lemma collects_of_some {name : String} {item : ItemText}
    (h : cursor.collecting = some (name, item)) (hname : isRelationship ⟨bytesOf name⟩ = false) :
    cursor.Collects := by
  intro p hp
  rw [h] at hp
  obtain rfl := Option.some.inj hp
  exact hname

lemma collects_stepOutside (hcollects : cursor.Collects)
    (h : cursor.stepOutside context event = .ok next) : next.Collects := by
  cases event with
  | start tag =>
    cases starts_of_stepOutside h with
    | row _ hstep =>
      obtain ⟨number, -, rfl⟩ := startRow_eq_ok hstep
      exact hcollects
    | cell _ hstep =>
      obtain ⟨reference, kind, -, -, -, rfl⟩ := startCell_eq_ok hstep
      exact hcollects
    | text item hmem =>
      have hnames : ∀ name ∈ ["is", "v"], isRelationship ⟨bytesOf name⟩ = false := by decide
      exact collects_of_some rfl (hnames _ hmem)
    | passed => exact hcollects
  | finish name =>
    cases finishes_of_stepOutside h with
    | row _ hstep =>
      obtain ⟨-, rfl⟩ := endRow_eq_ok hstep
      exact hcollects
    | passed => exact hcollects
    | cell _ hstep =>
      obtain ⟨value, rfl⟩ | ⟨kind, value, rfl⟩ := endCell_eq_ok hstep
      · exact hcollects
      · exact hcollects
  | _ =>
    obtain rfl := Except.ok.inj h
    exact hcollects

lemma collects_step (hcollects : cursor.Collects) (h : cursor.step context event = .ok next) :
    next.Collects := by
  rw [step] at h
  split at h
  · exact collects_stepOutside hcollects h
  · next name item hcollecting =>
    have hname := hcollects (name, item) hcollecting
    split at h
    · obtain rfl := Except.ok.inj h
      simp [Collects]
    · obtain ⟨item', -, rfl⟩ := map_eq_ok h
      exact collects_of_some rfl hname

lemma foldlM_filter_isOther (hcollects : cursor.Collects) (events : List Event) :
    (events.filter isOther).foldlM (step context) cursor =
      events.foldlM (step context) cursor := by
  induction events generalizing cursor with
  | nil => rfl
  | cons event events ih =>
    rw [List.foldlM_cons]
    cases hother : isOther event with
    | false =>
      rw [List.filter_cons_of_neg (by simp [hother]), step_of_isRelationship hcollects hother]
      exact ih hcollects
    | true =>
      rw [List.filter_cons_of_pos hother, List.foldlM_cons]
      cases hstep : cursor.step context event with
      | error fault => rfl
      | ok next => exact ih (collects_step hcollects hstep)

end Cursor

/-- No worksheet depends on the tags of relationships in its part. -/
lemma readWorksheet_withoutRelationships (context : Context) (name : String)
    (document : Document) :
    readWorksheet context name (withoutRelationships document) =
      readWorksheet context name document := by
  rw [readWorksheet, readWorksheet, foldDocument, foldDocument, withoutRelationships,
    Cursor.foldlM_filter_isOther]
  intro p hp
  exact absurd hp (by simp)

/-! ### Archives that tell a workbook alike -/

/-- The same relationships, or such with distinct ids in another order. -/
def Reordered (tags tags' : List Tag) : Prop :=
  tags' = tags ∨ tags'.Perm tags ∧ (idsOf tags).Nodup

/-- Another archive has the parts that every workbook needs, its relationships maybe in another
order. -/
structure ToldAlike (archive other : Archive) : Prop where
  relationships : ∃ relations relations',
    document archive "xl/_rels/workbook.xml.rels" = .ok relations ∧
    document other "xl/_rels/workbook.xml.rels" = .ok relations' ∧ relations'.error = none ∧
    Reordered (relationshipTags relations.events) (relationshipTags relations'.events)
  workbook : document? other "xl/workbook.xml" = document? archive "xl/workbook.xml"
  styles : document? other "xl/styles.xml" = document? archive "xl/styles.xml"
  sharedTexts : document? other "xl/sharedStrings.xml" = document? archive "xl/sharedStrings.xml"

/-- Another archive has the parts of the chosen sheets. Nothing is asked of the other sheets, and
even in a part that holds relationships these may be anywhere. -/
def ChosenAlike (selection : Selection) (entries : List SheetEntry) (archive other : Archive) :
    Prop :=
  ∀ entry ∈ selection.choose SheetEntry.name entries,
    (document? other entry.path).map withoutRelationships =
      (document? archive entry.path).map withoutRelationships

lemma lookup_worksheetsOf_of_reordered {tags tags' : List Tag} (h : Reordered tags tags')
    (id : String) : (worksheetsOf tags').lookup id = (worksheetsOf tags).lookup id := by
  obtain rfl | ⟨hperm, hids⟩ := h
  · rfl
  · exact lookup_worksheetsOf_of_perm hperm hids id

/-! ### Reading -/

namespace Package

variable {package : Package}

/-- Read the worksheet of an entry. -/
def readEntry (package : Package) (shared : Array String) (entry : SheetEntry) :
    Except Error Sheet := do
  let document ← document package.archive entry.path
  readWorksheet ⟨package.file, shared, package.kinds⟩ entry.name document

/-- The chosen sheets are read one after the other, and no others. -/
lemma readEntries_eq (shared : Array String) (selection : Selection) (entries : List SheetEntry)
    (count : Nat) :
    package.readEntries shared selection count entries =
      (selection.within count (entries.filter fun entry => selection.accepts entry.name)).mapM
        (package.readEntry shared) := by
  induction entries generalizing count with
  | nil => simp [readEntries, pure, Except.pure]
  | cons entry entries ih =>
    rw [readEntries]
    cases hfull : selection.isFull count with
    | true =>
      rw [Selection.within_of_isFull hfull]
      rfl
    | false =>
      cases haccepts : selection.accepts entry.name with
      | false =>
        simp only [List.filter_cons, haccepts, Bool.false_eq_true, if_false, ← ih]
        rfl
      | true =>
        simp only [List.filter_cons, haccepts, if_true]
        rw [Selection.within_cons hfull, List.mapM_cons, ← ih, readEntry, bind_assoc]
        rfl

lemma name_readEntry {shared : Array String} {entry : SheetEntry} {sheet : Sheet}
    (h : package.readEntry shared entry = .ok sheet) : sheet.name = entry.name := by
  rw [readEntry] at h
  obtain ⟨document, -, h⟩ := bind_eq_ok h
  rw [readWorksheet] at h
  obtain ⟨last, hlast, rfl⟩ := map_eq_ok h
  have hname := foldlM_of_step (R := fun a b : Cursor => b.sheet.name = a.sheet.name)
    (fun _ => rfl) (fun _ _ _ hab hbc => hbc.trans hab)
    (fun _ _ _ hstep => Cursor.name_of_takes (Cursor.takes_of_step hstep))
    (foldDocument_eq_ok hlast).1
  exact hname

/-- The styles of a workbook. -/
def stylesOf (archive : Archive) (epoch : Epoch) : Except Error Styles :=
  match document? archive "xl/styles.xml" with
  | some styles => foldDocument (Styles.step epoch) {} styles
  | none => .ok {}

/-- The workbook with the given contents, its styles read. -/
def withContents (file : String) (archive : Archive) (contents : Contents) :
    Except Error Package :=
  if contents.sheets.isEmpty then .error (.noSheets file)
  else (stylesOf archive contents.epoch).map fun styles =>
    ⟨file, archive, contents.sheets.toList, styles.kinds contents.epoch⟩

lemma load_eq (disk : Disk) (file : String) :
    load disk file = (do
      let archive ← disk.readArchive file
      let relations ← document archive "xl/_rels/workbook.xml.rels"
      let relationships ← foldDocument Relationships.step [] relations
      let workbook ← document archive "xl/workbook.xml"
      let contents ← foldDocument (Contents.step relationships) {} workbook
      withContents file archive contents) := by
  rw [load]
  refine bind_congr fun archive => bind_congr fun relations => bind_congr fun relationships =>
    bind_congr fun workbook => bind_congr fun contents => ?_
  rw [withContents, stylesOf]
  split
  · rfl
  · cases document? archive "xl/styles.xml" <;> rfl

lemma foldDocument_relationships {relations : Document} {relationships : Relationships} :
    foldDocument Relationships.step [] relations = .ok relationships ↔
      relations.error = none ∧ (∀ tag ∈ relationshipTags relations.events, IsReadable tag) ∧
        relationships = worksheetsOf (relationshipTags relations.events) := by
  constructor
  · intro h
    obtain ⟨hfold, herror⟩ := foldDocument_eq_ok h
    obtain ⟨hreadable, rfl⟩ := Relationships.foldlM_eq_ok_iff.mp hfold
    exact ⟨herror, hreadable, List.append_nil _⟩
  · rintro ⟨herror, hreadable, rfl⟩
    rw [foldDocument, Relationships.foldlM_eq_ok_iff.mpr ⟨hreadable, rfl⟩, herror,
      List.append_nil]

/-- What the parts of an opened workbook tell. -/
structure Opens (file : String) (archive : Archive) (relations workbook : Document)
    (contents : Contents) (package : Package) : Prop where
  relations_eq : document archive "xl/_rels/workbook.xml.rels" = .ok relations
  error_eq : relations.error = none
  readable : ∀ tag ∈ relationshipTags relations.events, IsReadable tag
  workbook_eq : document archive "xl/workbook.xml" = .ok workbook
  contents_eq : foldDocument
    (Contents.step (worksheetsOf (relationshipTags relations.events))) {} workbook = .ok contents
  isEmpty_eq : contents.sheets.isEmpty = false
  package_eq : ∃ styles, stylesOf archive contents.epoch = .ok styles ∧
    package = ⟨file, archive, contents.sheets.toList, styles.kinds contents.epoch⟩

lemma exists_opens {disk : Disk} {file : String} (h : load disk file = .ok package) :
    ∃ archive relations workbook contents, disk.readArchive file = .ok archive ∧
      Opens file archive relations workbook contents package := by
  rw [load_eq] at h
  obtain ⟨archive, harchive, h⟩ := bind_eq_ok h
  obtain ⟨relations, hrelations, h⟩ := bind_eq_ok h
  obtain ⟨relationships, hrelationships, h⟩ := bind_eq_ok h
  obtain ⟨workbook, hworkbook, h⟩ := bind_eq_ok h
  obtain ⟨contents, hcontents, h⟩ := bind_eq_ok h
  obtain ⟨herror, hreadable, hlist⟩ := foldDocument_relationships.mp hrelationships
  rw [hlist] at hcontents
  rw [withContents] at h
  split at h
  · exact absurd h (by simp)
  · next hempty =>
    obtain ⟨styles, hstyles, rfl⟩ := map_eq_ok h
    exact ⟨archive, relations, workbook, contents, harchive, hrelations, herror, hreadable,
      hworkbook, hcontents, Bool.eq_false_of_not_eq_true hempty, styles, hstyles, rfl⟩

namespace Opens

variable {file : String} {archive other : Archive} {relations workbook : Document}
  {contents : Contents}

lemma load_eq_ok (h : Opens file archive relations workbook contents package) {disk : Disk}
    (hdisk : disk.readArchive file = .ok archive) : load disk file = .ok package := by
  have hrelationships := foldDocument_relationships.mpr ⟨h.error_eq, h.readable, rfl⟩
  obtain ⟨styles, hstyles, rfl⟩ := h.package_eq
  simp only [load_eq, hdisk, h.relations_eq, hrelationships, h.workbook_eq, h.contents_eq,
    withContents, h.isEmpty_eq, hstyles, Except.map, bind, Except.bind, Bool.false_eq_true,
    if_false]

/-- The sheets of an opened workbook are those that its parts list. -/
lemma sheets_eq (h : Opens file archive relations workbook contents package) :
    package.sheets = listedSheets relations workbook := by
  obtain ⟨styles, -, rfl⟩ := h.package_eq
  have hsheets := Contents.sheets_foldlM (foldDocument_eq_ok h.contents_eq).1
  rw [Array.toList_empty, List.nil_append] at hsheets
  exact hsheets

/-- A workbook that is told alike opens as well, and as the same. -/
lemma of_toldAlike (h : Opens file archive relations workbook contents package)
    (hother : ToldAlike archive other) :
    ∃ relations',
      Opens file other relations' workbook contents { package with archive := other } := by
  obtain ⟨_, relations', hrelations, hrelations', herror, hreordered⟩ := hother.relationships
  obtain rfl := Except.ok.inj (h.relations_eq.symm.trans hrelations)
  refine ⟨relations', hrelations', herror, ?_, ?_, ?_, h.isEmpty_eq, ?_⟩
  · intro tag htag
    obtain htags | ⟨hperm, -⟩ := hreordered
    · rw [htags] at htag
      exact h.readable tag htag
    · exact h.readable tag (hperm.mem_iff.mp htag)
  · rw [document, hother.workbook, ← document]
    exact h.workbook_eq
  · rw [Contents.step_congr (lookup_worksheetsOf_of_reordered hreordered)]
    exact h.contents_eq
  · obtain ⟨styles, hstyles, rfl⟩ := h.package_eq
    rw [stylesOf, hother.styles, ← stylesOf]
    exact ⟨styles, hstyles, rfl⟩

end Opens

lemma readEntry_of_map {other : Archive} {entry : SheetEntry}
    (h : (document? other entry.path).map withoutRelationships =
      (document? package.archive entry.path).map withoutRelationships) (shared : Array String) :
    { package with archive := other }.readEntry shared entry =
      package.readEntry shared entry := by
  rw [readEntry, readEntry, document, document]
  cases hother : document? other entry.path with
  | none =>
    cases harchive : document? package.archive entry.path with
    | none => rfl
    | some told => simp [hother, harchive] at h
  | some told' =>
    cases harchive : document? package.archive entry.path with
    | none => simp [hother, harchive] at h
    | some told =>
      rw [hother, harchive, Option.map_some, Option.map_some, Option.some.injEq] at h
      show readWorksheet _ _ told' = readWorksheet _ _ told
      rw [← readWorksheet_withoutRelationships, h, readWorksheet_withoutRelationships]

/-- The chosen sheets are read, in order: the first that are accepted of those which the workbook
lists with an id that leads to a worksheet. -/
lemma readSheets_eq (selection : Selection) :
    package.readSheets selection = (do
      let shared ← package.sharedTexts
      (selection.choose SheetEntry.name package.sheets).mapM (package.readEntry shared)) := by
  rw [readSheets]
  exact bind_congr fun shared => readEntries_eq shared selection package.sheets 0

lemma readSheets_of_alike {other : Archive} (htold : ToldAlike package.archive other)
    {selection : Selection}
    (hchosen : ChosenAlike selection package.sheets package.archive other) :
    { package with archive := other }.readSheets selection = package.readSheets selection := by
  rw [readSheets_eq, readSheets_eq, sharedTexts, sharedTexts, htold.sharedTexts]
  refine bind_congr fun shared => mapM_congr fun entry hentry => ?_
  exact readEntry_of_map (hchosen entry hentry) shared

/-- Of an opened workbook, the chosen sheets are read and no others: they are the first, as many
as the limit allows, of the sheets with accepted names among those whose ids lead to worksheets. A
name is accepted if it matches one of the patterns, or if none are given. Neither the order of
relationships with distinct ids counts nor what is in the parts of the other sheets. -/
theorem readSheets_chosen {disk : Disk} {file : String} {package : Package}
    (h : load disk file = .ok package) :
    (disk.readArchive file = .ok package.archive ∧
      ∃ relations workbook,
        document package.archive "xl/_rels/workbook.xml.rels" = .ok relations ∧
        document package.archive "xl/workbook.xml" = .ok workbook ∧
        package.sheets = listedSheets relations workbook) ∧
    (∀ selection : Selection,
      (∀ name : String, selection.accepts name = true ↔
        ∀ patterns, selection.patterns = some patterns → ∃ p ∈ patterns, p.accepts name = true) ∧
      package.readSheets selection = (do
        let shared ← package.sharedTexts
        (selection.choose SheetEntry.name package.sheets).mapM (package.readEntry shared)) ∧
      ∀ sheets, package.readSheets selection = .ok sheets →
        sheets.map Sheet.name =
          (selection.choose SheetEntry.name package.sheets).map SheetEntry.name) ∧
    ∀ (disk' : Disk) (other : Archive), disk'.readArchive file = .ok other →
      ToldAlike package.archive other →
      load disk' file = .ok { package with archive := other } ∧
      ∀ selection : Selection,
        ChosenAlike selection package.sheets package.archive other →
        { package with archive := other }.readSheets selection =
          package.readSheets selection := by
  obtain ⟨archive, relations, workbook, contents, hdisk, hopens⟩ := exists_opens h
  have harchive : package.archive = archive := by
    obtain ⟨styles, -, rfl⟩ := hopens.package_eq
    rfl
  subst harchive
  refine ⟨⟨hdisk, relations, workbook, hopens.relations_eq, hopens.workbook_eq,
    hopens.sheets_eq⟩, ?_, ?_⟩
  · intro selection
    refine ⟨fun _ => selection.accepts_iff, readSheets_eq selection, ?_⟩
    intro sheets hsheets
    rw [readSheets_eq] at hsheets
    obtain ⟨shared, -, hsheets⟩ := bind_eq_ok hsheets
    exact map_of_mapM (fun _ _ => name_readEntry) hsheets
  · intro disk' other hdisk' htold
    obtain ⟨relations', hopens'⟩ := hopens.of_toldAlike htold
    exact ⟨hopens'.load_eq_ok hdisk', fun _ => readSheets_of_alike htold⟩

end Package

/-! ### A workbook and a broken one -/

/-- The relationship of a worksheet with the given id, in a part of its own name. -/
def relationshipTo (id : String) : String :=
  "<Relationship Id=\"" ++ id ++ "\" Type=\"http://schemas.openxmlformats.org/officeDocument/" ++
    "2006/relationships/worksheet\" Target=\"worksheets/" ++ id ++ ".xml\"/>"

/-- A workbook part with a draft and a sheet that leads nowhere in front of two sheets. -/
def usageWorkbook : Part := ⟨"xl/workbook.xml", bytesOf <|
  "<workbook><sheets><sheet name=\"Draft\" r:id=\"b\"/><sheet name=\"Unused\" r:id=\"d\"/>" ++
  "<sheet name=\"Units\" r:id=\"a\"/><sheet name=\"Usage\" r:id=\"c\"/></sheets></workbook>"⟩

/-- The worksheet of the units. -/
def unitsWorksheet : Part := ⟨"xl/worksheets/a.xml", bytesOf <|
  "<worksheet><sheetData><row><c><v>1</v></c></row></sheetData></worksheet>"⟩

/-- A workbook of three sheets. -/
def usageArchive : Archive := ⟨[usageWorkbook, unitsWorksheet,
  ⟨"xl/_rels/workbook.xml.rels", bytesOf <|
    "<Relationships>" ++ relationshipTo "a" ++ relationshipTo "b" ++ relationshipTo "c" ++
    "</Relationships>"⟩,
  ⟨"xl/worksheets/b.xml", bytesOf "<worksheet/>"⟩,
  ⟨"xl/worksheets/c.xml", bytesOf "<worksheet/>"⟩]⟩

/-- The same with its relationships in another order, one worksheet broken and one missing. -/
def brokenArchive : Archive := ⟨[usageWorkbook, unitsWorksheet,
  ⟨"xl/_rels/workbook.xml.rels", bytesOf <|
    "<Relationships>" ++ relationshipTo "c" ++ relationshipTo "a" ++ relationshipTo "b" ++
    "</Relationships>"⟩,
  ⟨"xl/worksheets/b.xml", bytesOf "<worksheet"⟩]⟩

/-- The workbook of three sheets, opened. -/
def usagePackage : Package where
  file := "/usage.xlsx"
  archive := usageArchive
  sheets := [⟨"Draft", "xl/worksheets/b.xml"⟩, ⟨"Units", "xl/worksheets/a.xml"⟩,
    ⟨"Usage", "xl/worksheets/c.xml"⟩]
  kinds := #[]

/-- A disk with the workbook as its only file. -/
def diskWith (archive : Archive) : Disk where
  files := [(["usage.xlsx"], .archive archive)]

/-- The first sheet whose name begins with a capital u. -/
def firstInU : Selection where
  patterns := some [⟨[.char 'U', .sequence]⟩]
  limit := some 1

deriving instance DecidableEq for Part, Archive, Package

lemma load_usage : Package.load (diskWith usageArchive) "/usage.xlsx" = .ok usagePackage := by
  decide +kernel

lemma toldAlike_brokenArchive : ToldAlike usageArchive brokenArchive where
  relationships := ⟨_, _, rfl, rfl, by decide +kernel, .inr (by decide +kernel)⟩
  workbook := by decide +kernel
  styles := by decide +kernel
  sharedTexts := by decide +kernel

/-- The draft is rejected by its name and the sheet behind it leads nowhere, so the first that is
chosen is the third that is listed. -/
theorem readSheets_chosen_units :
    Package.load (diskWith usageArchive) "/usage.xlsx" = .ok usagePackage ∧
    firstInU.accepts "Draft" = false ∧ firstInU.accepts "Unused" = true ∧
    (usagePackage.readSheets firstInU).map (·.map Sheet.name) = .ok ["Units"] ∧
    Package.load (diskWith brokenArchive) "/usage.xlsx" =
      .ok { usagePackage with archive := brokenArchive } ∧
    { usagePackage with archive := brokenArchive }.readSheets firstInU =
      usagePackage.readSheets firstInU := by
  have hchosen : ChosenAlike firstInU usagePackage.sheets usageArchive brokenArchive := by
    rw [ChosenAlike]
    decide +kernel
  obtain ⟨-, -, hother⟩ := Package.readSheets_chosen load_usage
  obtain ⟨hbroken, hread⟩ :=
    hother (diskWith brokenArchive) brokenArchive rfl toldAlike_brokenArchive
  exact ⟨load_usage, by decide, by decide, by decide +kernel, hbroken, hread firstInU hchosen⟩

end DataDictionary.Workbook.OpenXml
