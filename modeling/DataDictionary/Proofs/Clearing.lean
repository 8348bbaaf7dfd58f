import DataDictionary.Proofs.Congruence
import DataDictionary.Proofs.Layout
import DataDictionary.Proofs.Text.Blank

/-!
# Blank cells

A text cell that holds nothing but white space is no name, no header and no value, so a sheet says
the same without it. It is not passed over in one case: where a header is repeated, a blank cell
hides what stands under the same header to its left, and to remove it uncovers that value. Exactly
where this happens does a record change.
-/

namespace DataDictionary

open Text (trim trimmed lowered)

/-! ### Blank cells by themselves -/

namespace Cell

/-- A text cell that holds nothing but white space. -/
structure IsBlank (cell : Cell) : Prop where
  kind_eq : cell.kind = .text
  blank : ∀ c ∈ cell.value.toList, Text.isBlank c = true

instance : DecidablePred IsBlank := fun cell =>
  decidable_of_iff (cell.kind = .text ∧ cell.value.toList.all Text.isBlank = true)
    ⟨fun h => ⟨h.1, List.all_eq_true.mp h.2⟩, fun h => ⟨h.kind_eq, List.all_eq_true.mpr h.blank⟩⟩

variable {cell : Cell}

lemma IsBlank.trim_value (h : cell.IsBlank) : trim cell.value.toList = [] :=
  (Text.trim_eq_nil_iff _).mpr h.blank

lemma IsBlank.text_eq (h : cell.IsBlank) : cell.text = some cell.value := by
  rw [text, h.kind_eq]

lemma IsBlank.scalar?_eq (h : cell.IsBlank) : cell.scalar? = some (.text cell.value) := by
  rw [scalar?, h.kind_eq, h.text_eq]
  rfl

/-- A blank cell has a value, but none that is present. -/
lemma IsBlank.filter_scalar? (h : cell.IsBlank) : cell.scalar?.filter (·.isPresent) = none := by
  simp [h.scalar?_eq, Scalar.isPresent, h.trim_value]

/-- A blank cell is no header. -/
lemma IsBlank.header?_eq (h : cell.IsBlank) : Layout.header? cell = none := by
  have hkey : lowered (trimmed cell.value) = "" := by
    rw [trimmed, h.trim_value]
    rfl
  simp [Layout.header?, h.text_eq, hkey]

end Cell

/-! ### Sheets without some of their blank cells -/

/-- A sheet and a set of blank cells that are removed from it. -/
structure Clearing where
  file : String
  name : String
  /-- The cells that were put on the sheet. -/
  pushed : List Cell
  removed : Cell → Bool
  isBlank_of_removed : ∀ cell ∈ ((Sheet.new file name).pushAll pushed).cells,
    removed cell = true → cell.IsBlank

namespace Clearing

/-- All blank cells of a sheet are removed. -/
def ofAll (file name : String) (pushed : List Cell) : Clearing where
  file := file
  name := name
  pushed := pushed
  removed cell := decide cell.IsBlank
  isBlank_of_removed _ _ h := of_decide_eq_true h

/-- The sheet with all its cells. -/
def sheet (c : Clearing) : Sheet := (Sheet.new c.file c.name).pushAll c.pushed

/-- The sheet without the cells that are removed. -/
def left (c : Clearing) : Sheet :=
  (Sheet.new c.file c.name).pushAll (c.sheet.cells.toList.filter fun cell => !c.removed cell)

variable (c : Clearing)

lemma consistent_sheet : c.sheet.Consistent := (Sheet.consistent_new _ _).pushAll _

lemma consistent_left : c.left.Consistent := (Sheet.consistent_new _ _).pushAll _

lemma name_left : c.left.name = c.sheet.name := by
  rw [left, sheet, Sheet.name_pushAll, Sheet.name_pushAll]

lemma mem_left_iff {cell : Cell} :
    cell ∈ c.left.cells ↔ cell ∈ c.sheet.cells ∧ c.removed cell = false := by
  have hpositions : ((c.sheet.cells.toList.filter fun cell => !c.removed cell).map
      Cell.position).Nodup :=
    c.consistent_sheet.nodup.sublist (List.filter_sublist.map _)
  rw [← Array.mem_toList_iff, left, Sheet.toList_pushAll_of_nodup _ _ hpositions, List.mem_filter,
    Array.mem_toList_iff, Bool.not_eq_true']

/-- A position has its cell unless that is removed. -/
lemma get?_left (row col : Nat) :
    c.left.get? row col = (c.sheet.get? row col).filter fun cell => !c.removed cell := by
  ext cell
  rw [c.consistent_left.get?_eq_some_iff, Option.filter_eq_some_iff,
    c.consistent_sheet.get?_eq_some_iff, mem_left_iff]
  simp only [Bool.not_eq_true']
  tauto

/-- A row keeps its cells in order, those aside that are removed. -/
lemma row_left (row : Nat) :
    c.left.row row = (c.sheet.row row).filter fun cell => !c.removed cell := by
  have hsorted : ((c.sheet.row row).filter fun cell => !c.removed cell).Pairwise (·.col < ·.col) :=
    (c.consistent_sheet.row_sorted row).filter _
  have hmem : ∀ cell, cell ∈ c.left.row row ↔
      cell ∈ (c.sheet.row row).filter fun cell => !c.removed cell := by
    intro cell
    rw [List.mem_filter, c.consistent_left.mem_row_iff, c.consistent_sheet.mem_row_iff,
      mem_left_iff, Bool.not_eq_true']
    tauto
  exact Sheet.eq_of_ascending (c.consistent_left.row_sorted row) hsorted hmem

lemma isBlank_of_get? {row col : Nat} {cell : Cell} (hcell : c.sheet.get? row col = some cell)
    (hremoved : c.removed cell = true) : cell.IsBlank :=
  c.isBlank_of_removed cell (c.consistent_sheet.get?_eq_some_iff.mp hcell).1 hremoved

/-! ### What the sheet says without them -/

variable (layout : Layout)

lemma tableName_left : layout.tableName c.left = layout.tableName c.sheet := by
  rw [Layout.tableName, Layout.tableName, get?_left, name_left]
  cases hcell : c.sheet.get? layout.tableNameRow layout.tableNameCol with
  | none => rfl
  | some cell =>
    cases hremoved : c.removed cell with
    | false => simp [Option.filter, hremoved]
    | true =>
      have hblank := c.isBlank_of_get? hcell hremoved
      simp [Option.filter, hremoved, hblank.text_eq, hblank.trim_value]

lemma headers_left : layout.headers c.left = layout.headers c.sheet := by
  rw [Layout.headers, Layout.headers, row_left, List.filterMap_filter]
  apply List.filterMap_congr
  intro cell hcell
  cases hremoved : c.removed cell with
  | false => simp
  | true =>
    have hmem := (c.consistent_sheet.mem_row_iff.mp hcell).1
    simp [(c.isBlank_of_removed cell hmem hremoved).header?_eq]

/-- The cells that stand under a key and are not removed are left there. -/
lemma cellsUnder_left (headers : List (Nat × String)) (row : Nat) (key : String) :
    Layout.cellsUnder c.left headers row key =
      (Layout.cellsUnder c.sheet headers row key).filter fun cell => !c.removed cell := by
  rw [Layout.cellsUnder, Layout.cellsUnder, List.filter_filterMap]
  apply List.filterMap_congr
  intro header _
  rw [get?_left]
  split
  · rw [Option.filter_filter, Option.filter_filter]
    simp only [Bool.and_comm]
  · rfl

/-- To remove the cells uncovers a value under a key in a row: the last cell there is removed, and
the last that is left has a value that is present. -/
def Uncovers (row : Nat) (key : String) : Prop :=
  ∃ last next, (Layout.cellsUnder c.sheet (layout.headers c.sheet) row key).getLast? = some last ∧
    c.removed last = true ∧
    (Layout.cellsUnder c.left (layout.headers c.left) row key).getLast? = some next ∧
    (next.scalar?.any (·.isPresent)) = true

/-- The record of a row, with all cells. -/
abbrev recordOf (row : Nat) : Record := Layout.record c.sheet (layout.headers c.sheet) row

/-- The record of a row, with the cells that are left. -/
abbrev recordLeft (row : Nat) : Record := Layout.record c.left (layout.headers c.left) row

variable {c layout} {row : Nat} {key : String}

lemma isBlank_of_mem_cellsUnder {headers : List (Nat × String)} {cell : Cell}
    (hcell : cell ∈ Layout.cellsUnder c.sheet headers row key) (hremoved : c.removed cell = true) :
    cell.IsBlank := by
  obtain ⟨header, -, hcell⟩ := List.mem_filterMap.mp hcell
  split at hcell
  · exact c.isBlank_of_get? (Option.filter_eq_some_iff.mp hcell).1 hremoved
  · exact absurd hcell (by simp)

/-- Under a key the value stays if the last cell there does. -/
lemma scalar?_of_last {last : Cell}
    (hlast : (Layout.cellsUnder c.sheet (layout.headers c.sheet) row key).getLast? = some last)
    (hkept : c.removed last = false) :
    (c.recordLeft layout row).scalar? key = (c.recordOf layout row).scalar? key := by
  obtain ⟨before, hcells⟩ := List.getLast?_eq_some_iff.mp hlast
  rw [Record.scalar?, Record.scalar?, Layout.lookup_record, Layout.lookup_record, headers_left,
    cellsUnder_left, hcells, List.filter_append]
  simp [hkept]

/-- Under a key the value changes just where one is uncovered. -/
theorem scalar?_recordLeft_iff :
    (c.recordLeft layout row).scalar? key = (c.recordOf layout row).scalar? key ↔
      ¬ c.Uncovers layout row key := by
  cases hlast : (Layout.cellsUnder c.sheet (layout.headers c.sheet) row key).getLast? with
  | none =>
    have hcells := List.getLast?_eq_none_iff.mp hlast
    simp [Record.scalar?, Layout.lookup_record, headers_left, cellsUnder_left, hcells, Uncovers]
  | some last =>
    cases hremoved : c.removed last with
    | false =>
      refine iff_of_true (scalar?_of_last hlast hremoved) ?_
      rintro ⟨last', next, hlast', hremoved', -⟩
      rw [hlast] at hlast'
      obtain rfl := Option.some.inj hlast'
      rw [hremoved] at hremoved'
      exact Bool.noConfusion hremoved'
    | true =>
      -- nothing is present before, so the value stays just if nothing is present afterwards
      have hblank := isBlank_of_mem_cellsUnder (List.mem_of_getLast? hlast) hremoved
      have hbefore : (c.recordOf layout row).scalar? key = none := by
        rw [Record.scalar?, Layout.lookup_record, hlast, Option.bind_some, hblank.filter_scalar?]
      rw [hbefore, Record.scalar?, Layout.lookup_record, Uncovers, hlast]
      cases (Layout.cellsUnder c.left (layout.headers c.left) row key).getLast? with
      | none => simp
      | some next => cases hvalue : next.scalar? <;> simp [hvalue, hremoved, Option.filter]

variable (h : ∀ row key, layout.firstRow ≤ row → ¬ c.Uncovers layout row key)
include h

lemma agrees_recordLeft (hrow : layout.firstRow ≤ row) :
    (c.recordLeft layout row).Agrees (c.recordOf layout row) :=
  fun key => scalar?_recordLeft_iff.mpr (h row key hrow)

/-- The rows that hold records are the same: a row that is gone had no value. -/
lemma filter_rowsFrom_left :
    ((c.left.rowsFrom layout.firstRow).filter fun row =>
        ((c.recordLeft layout row).scalar? Record.nameHeader).isSome) =
      (c.sheet.rowsFrom layout.firstRow).filter fun row =>
        ((c.recordOf layout row).scalar? Record.nameHeader).isSome := by
  apply Sheet.eq_of_ascending (f := id) ((c.left.rowsFrom_sorted _).filter _)
    ((c.sheet.rowsFrom_sorted _).filter _)
  intro row
  rw [List.mem_filter, List.mem_filter, c.consistent_left.mem_rowsFrom_iff,
    c.consistent_sheet.mem_rowsFrom_iff]
  constructor
  · rintro ⟨⟨hrow, cell, hcell, hcellRow⟩, hname⟩
    rw [agrees_recordLeft h hrow] at hname
    exact ⟨⟨hrow, cell, (c.mem_left_iff.mp hcell).1, hcellRow⟩, hname⟩
  · rintro ⟨⟨hrow, -⟩, hname⟩
    rw [← agrees_recordLeft h hrow] at hname
    exact ⟨⟨hrow, Layout.exists_mem_of_isSome_scalar? c.consistent_left hname⟩, hname⟩

/-- Where no value is uncovered, the sheet says the same without the cells. -/
theorem agree_left : layout.Agree c.left c.sheet where
  name_eq := c.name_left
  tableName_eq := c.tableName_left layout
  records := by
    rw [Layout.records, Layout.records, List.filter_map, List.filter_map]
    have hrows := filter_rowsFrom_left h
    simp only [recordLeft, recordOf] at hrows
    simp only [Function.comp_def, hrows]
    rw [List.forall₂_map_left_iff, List.forall₂_map_right_iff, List.forall₂_same]
    intro row hrow
    obtain ⟨hrow, -⟩ := c.consistent_sheet.mem_rowsFrom_iff.mp (List.mem_filter.mp hrow).1
    exact agrees_recordLeft h hrow

omit h

/-- Under keys that differ from each other no cell hides another. -/
lemma not_uncovers_of_nodup (hkeys : ((layout.headers c.sheet).map Prod.snd).Nodup) :
    ¬ c.Uncovers layout row key := by
  rintro ⟨last, next, hlast, hremoved, hnext, -⟩
  have hcount := List.nodup_iff_count_le_one.mp hkeys key
  have hlength := Layout.length_cellsUnder_le c.sheet (layout.headers c.sheet) row key
  obtain ⟨before, hcells⟩ := List.getLast?_eq_some_iff.mp hlast
  have hnone : before = [] := by
    rw [hcells, List.length_append, List.length_singleton] at hlength
    exact List.eq_nil_of_length_eq_zero (by omega)
  -- the only cell under the key is removed
  rw [headers_left, cellsUnder_left, hcells, hnone] at hnext
  simp [hremoved] at hnext

end Clearing

/-! ### Extractions without blank cells -/

namespace Extraction

/-- Whatever blank cells are removed from sheets, the extraction is the same as long as no value is
uncovered. A record changes under a key just if one is uncovered there, and none ever is where the
headers of a sheet differ from each other. -/
theorem assemble_left (options : Options) (clearings : List Clearing) :
    ((∀ c ∈ clearings, ∀ row key,
        options.layout.firstRow ≤ row → ¬ c.Uncovers options.layout row key) →
      assemble options (clearings.map (·.left)) = assemble options (clearings.map (·.sheet))) ∧
    ∀ c ∈ clearings,
      (∀ row key,
        (c.recordLeft options.layout row).scalar? key =
            (c.recordOf options.layout row).scalar? key ↔
          ¬ c.Uncovers options.layout row key) ∧
      (((options.layout.headers c.sheet).map Prod.snd).Nodup →
        ∀ row key, ¬ c.Uncovers options.layout row key) := by
  constructor
  · intro h
    apply assemble_congr
    rw [List.forall₂_map_left_iff, List.forall₂_map_right_iff, List.forall₂_same]
    intro c hc
    exact Clearing.agree_left (h c hc)
  · intro c _
    constructor
    · intro row key
      exact Clearing.scalar?_recordLeft_iff
    · intro hkeys row key
      exact Clearing.not_uncovers_of_nodup hkeys

/-- A sheet with a blank cell for the name of its table, a blank header and a blank value. -/
def staff : Clearing := .ofAll "staff.ods" "staff" [
  ⟨0, 1, .text, " "⟩, ⟨1, 0, .text, "Column"⟩, ⟨1, 1, .text, "Type"⟩, ⟨1, 2, .text, "\t"⟩,
  ⟨2, 0, .text, "id"⟩, ⟨2, 1, .text, "int"⟩, ⟨2, 2, .text, "note"⟩, ⟨3, 0, .text, "  "⟩]

lemma headers_staff : ({} : Layout).headers staff.sheet = [(0, "column"), (1, "type")] := by
  rw [Layout.headers, Sheet.row_of_pairwise (by decide +kernel)]
  decide +kernel

theorem assemble_left_staff :
    (∀ c ∈ [staff], ∀ row key,
      ({} : Options).layout.firstRow ≤ row → ¬ c.Uncovers ({} : Options).layout row key) ∧
    staff.left.cells.size = 5 ∧
    assemble {} ([staff].map (·.left)) = assemble {} ([staff].map (·.sheet)) := by
  have hkeys : ((({} : Options).layout.headers staff.sheet).map Prod.snd).Nodup := by
    rw [headers_staff]
    decide
  have hcovered : ∀ c ∈ [staff], ∀ row key,
      ({} : Options).layout.firstRow ≤ row → ¬ c.Uncovers ({} : Options).layout row key := by
    intro c hc row key _
    rw [List.mem_singleton.mp hc]
    exact ((assemble_left {} [staff]).2 staff (List.mem_singleton_self _)).2 hkeys row key
  exact ⟨hcovered, by decide +kernel, (assemble_left {} [staff]).1 hcovered⟩

/-- A sheet with a repeated header and a blank cell under the second one. -/
def shifts : Clearing := .ofAll "staff.ods" "shifts" [
  ⟨1, 0, .text, "Column"⟩, ⟨1, 1, .text, "Type"⟩, ⟨1, 2, .text, "Type"⟩,
  ⟨2, 0, .text, "hours"⟩, ⟨2, 1, .text, "int"⟩, ⟨2, 2, .text, " "⟩]

lemma headers_shifts :
    ({} : Layout).headers shifts.sheet = [(0, "column"), (1, "type"), (2, "type")] := by
  rw [Layout.headers, Sheet.row_of_pairwise (by decide +kernel)]
  decide +kernel

/-- The blank cell hides the type that the field has without it. -/
theorem assemble_left_shifts_ne :
    shifts.sheet.cells.toList.filter (fun cell => shifts.removed cell) = [⟨2, 2, .text, " "⟩] ∧
      assemble {} [shifts.left] ≠ assemble {} [shifts.sheet] := by
  refine ⟨by decide +kernel, ?_⟩
  have hleft : ({} : Layout).headers shifts.left = [(0, "column"), (1, "type"), (2, "type")] := by
    rw [Clearing.headers_left, headers_shifts]
  intro heq
  have htypes := congrArg (fun extraction => extraction.tables.map (·.fields.map (·.type))) heq
  simp only [assemble, ofSheets, addSheet, List.foldl_cons, List.foldl_nil, Layout.records,
    headers_shifts, hleft] at htypes
  exact absurd htypes (by decide +kernel)

end Extraction

end DataDictionary
