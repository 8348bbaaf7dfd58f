import DataDictionary.Proofs.Finiteness
import DataDictionary.Proofs.Layout

/-!
# The records of a sheet

Records are told by the cells of a sheet alone. The rows behind the headers that hold a name are
its records, each once and from the top; and under a key a record has the value of the last column
that has this key for its header and a cell with a value in the row.
-/

namespace DataDictionary

open Text (trimmed lowered wordLimit)

/-- A cell has a value unless it is empty or an error. -/
def Cell.IsFilled (cell : Cell) : Prop := cell.kind ≠ .empty ∧ cell.kind ≠ .error

lemma Cell.isSome_scalar?_iff {cell : Cell} : cell.scalar?.isSome = true ↔ cell.IsFilled := by
  rw [scalar?, IsFilled]
  cases hkind : cell.kind with
  | number => cases Binary64.read? (Text.trim cell.value.toList) <;> simp
  | serial kind epoch =>
    cases hchars : Serial.chars kind epoch cell.value.toList <;> simp [text, hkind, hchars]
  | _ => simp [text, hkind]

/-- The last element of a list in ascending order is the greatest one. -/
lemma getLast?_eq_some_iff_of_ascending {α : Type} {f : α → Nat} {l : List α}
    (h : l.Pairwise (f · < f ·)) {a : α} :
    l.getLast? = some a ↔ a ∈ l ∧ ∀ b ∈ l, f b ≤ f a := by
  induction l using List.reverseRecOn with
  | nil => simp
  | append_singleton l last _ =>
    obtain ⟨-, -, hlast⟩ := List.pairwise_append.mp h
    rw [List.getLast?_concat, Option.some.injEq]
    constructor
    · rintro rfl
      refine ⟨List.mem_concat_self, ?_⟩
      intro b hb
      rcases List.mem_append.mp hb with hb | hb
      · exact Nat.le_of_lt (hlast b hb last (List.mem_singleton_self _))
      · rw [List.mem_singleton.mp hb]
    · rintro ⟨ha, hgreatest⟩
      rcases List.mem_append.mp ha with ha | ha
      · have hlt := hlast a ha last (List.mem_singleton_self _)
        exact absurd (hgreatest last List.mem_concat_self) (Nat.not_le.mpr hlt)
      · exact (List.mem_singleton.mp ha).symm

namespace Layout

variable {layout : Layout} {sheet : Sheet}

/-! ### Columns under a header -/

/-- The column has a header with the key, which is its text trimmed and in lower case. A blank
header has no key. -/
def HasHeader (layout : Layout) (sheet : Sheet) (col : Nat) (key : String) : Prop :=
  ∃ cell text, sheet.get? layout.headerRow col = some cell ∧ cell.text = some text ∧
    lowered (trimmed text) = key ∧ key ≠ ""

/-- The cell is the last one of its row that has a value and stands under a header with the key. -/
structure IsLastUnder (layout : Layout) (sheet : Sheet) (row : Nat) (key : String) (cell : Cell) :
    Prop where
  get?_eq : sheet.get? row cell.col = some cell
  hasHeader : layout.HasHeader sheet cell.col key
  isFilled : cell.IsFilled
  last : ∀ other, sheet.get? row other.col = some other → layout.HasHeader sheet other.col key →
    other.IsFilled → other.col ≤ cell.col

lemma map_header?_eq_some_iff {cell : Cell} {key : String} :
    (header? cell).map Prod.snd = some key ↔
      ∃ text, cell.text = some text ∧ lowered (trimmed text) = key ∧ key ≠ "" := by
  rw [header?]
  cases cell.text with
  | none => simp
  | some text =>
    simp only [Option.map_some, Option.some.injEq, exists_eq_left']
    generalize lowered (trimmed text) = written
    by_cases hempty : written = ""
    · rw [if_pos (String.isEmpty_iff.mpr hempty)]
      refine iff_of_false (by simp) ?_
      rintro ⟨rfl, hne⟩
      exact hne hempty
    · rw [if_neg (mt String.isEmpty_iff.mp hempty), Option.map_some, Option.some.injEq]
      constructor
      · rintro rfl
        exact ⟨rfl, hempty⟩
      · exact And.left

variable (h : sheet.Consistent)
include h

lemma mem_headers_iff_hasHeader {col : Nat} {key : String} :
    (col, key) ∈ layout.headers sheet ↔ layout.HasHeader sheet col key := by
  rw [mem_headers_iff h, HasHeader]
  constructor
  · rintro ⟨cell, hcell, rfl, hkey⟩
    rw [headerKey?] at hkey
    split at hkey
    · next hrow =>
      obtain ⟨text, htext⟩ := map_header?_eq_some_iff.mp hkey
      exact ⟨cell, text, hrow ▸ h.mem_cells_iff.mp hcell, htext⟩
    · exact absurd hkey (by simp)
  · rintro ⟨cell, text, hcell, htext⟩
    obtain ⟨hmem, hrow, hcol⟩ := h.get?_eq_some_iff.mp hcell
    refine ⟨cell, hmem, hcol, ?_⟩
    rw [headerKey?, if_pos hrow]
    exact map_header?_eq_some_iff.mpr ⟨text, htext⟩

lemma headers_sorted (layout : Layout) : (layout.headers sheet).Pairwise (·.1 < ·.1) := by
  rw [headers, List.pairwise_filterMap]
  refine (h.row_sorted _).imp ?_
  rintro a b hlt ⟨col, key⟩ ha ⟨col', key'⟩ hb
  rw [← header?_eq_some ha, ← header?_eq_some hb]
  exact hlt

lemma mem_cellsUnder_iff {row : Nat} {key : String} {cell : Cell} :
    cell ∈ cellsUnder sheet (layout.headers sheet) row key ↔
      sheet.get? row cell.col = some cell ∧ layout.HasHeader sheet cell.col key ∧
        cell.IsFilled := by
  rw [cellsUnder, List.mem_filterMap]
  constructor
  · rintro ⟨⟨col, key'⟩, hheader, hcell⟩
    split at hcell
    · next hkey =>
      obtain rfl : key' = key := hkey
      obtain ⟨hget, hvalue⟩ := Option.filter_eq_some_iff.mp hcell
      obtain rfl : cell.col = col := (h.get?_eq_some_iff.mp hget).2.2
      exact ⟨hget, (mem_headers_iff_hasHeader h).mp hheader, Cell.isSome_scalar?_iff.mp hvalue⟩
    · exact absurd hcell (by simp)
  · rintro ⟨hget, hheader, hfilled⟩
    refine ⟨(cell.col, key), (mem_headers_iff_hasHeader h).mpr hheader, ?_⟩
    rw [if_pos rfl]
    exact Option.filter_eq_some_iff.mpr ⟨hget, Cell.isSome_scalar?_iff.mpr hfilled⟩

lemma cellsUnder_sorted (layout : Layout) (row : Nat) (key : String) :
    (cellsUnder sheet (layout.headers sheet) row key).Pairwise (·.col < ·.col) := by
  rw [cellsUnder, List.pairwise_filterMap]
  refine (headers_sorted h layout).imp ?_
  intro a b hlt cell hcell other hother
  have hcol {header : Nat × String} {cell : Cell}
      (hcell : (if header.2 = key then (sheet.get? row header.1).filter (·.scalar?.isSome)
        else none) = some cell) : cell.col = header.1 := by
    split at hcell
    · exact (h.get?_eq_some_iff.mp (Option.filter_eq_some_iff.mp hcell).1).2.2
    · exact absurd hcell (by simp)
  rw [hcol hcell, hcol hother]
  exact hlt

lemma getLast?_cellsUnder_iff {row : Nat} {key : String} {cell : Cell} :
    (cellsUnder sheet (layout.headers sheet) row key).getLast? = some cell ↔
      layout.IsLastUnder sheet row key cell := by
  rw [getLast?_eq_some_iff_of_ascending (cellsUnder_sorted h layout row key)]
  simp only [mem_cellsUnder_iff h]
  constructor
  · rintro ⟨⟨hget, hheader, hfilled⟩, hlast⟩
    exact ⟨hget, hheader, hfilled, fun other ho ho' ho'' => hlast other ⟨ho, ho', ho''⟩⟩
  · intro hcell
    exact ⟨⟨hcell.get?_eq, hcell.hasHeader, hcell.isFilled⟩,
      fun other ho => hcell.last other ho.1 ho.2.1 ho.2.2⟩

/-- Under a key a record has the value of the last cell that stands under a header with it. -/
lemma lookup_record_iff {row : Nat} {key : String} {value : Scalar} :
    (record sheet (layout.headers sheet) row).values.lookup key = some value ↔
      ∃ cell, layout.IsLastUnder sheet row key cell ∧ cell.scalar? = some value := by
  rw [lookup_record, Option.bind_eq_some_iff]
  simp only [getLast?_cellsUnder_iff h]

/-! ### Rows with a name -/

/-- The row has a name that is present. -/
def IsNamed (layout : Layout) (sheet : Sheet) (row : Nat) : Prop :=
  ∃ cell value, layout.IsLastUnder sheet row Record.nameHeader cell ∧ cell.scalar? = some value ∧
    value.isPresent = true

lemma isSome_scalar?_iff_isNamed {row : Nat} :
    ((record sheet (layout.headers sheet) row).scalar? Record.nameHeader).isSome = true ↔
      layout.IsNamed sheet row := by
  rw [Option.isSome_iff_exists, IsNamed, exists_comm]
  refine exists_congr fun value => ?_
  rw [Record.scalar?, Option.filter_eq_some_iff, lookup_record_iff h]
  simp only [← and_assoc, exists_and_right]

/-- A row that has a name is filled. -/
lemma IsNamed.exists_mem {row : Nat} (hrow : layout.IsNamed sheet row) :
    ∃ cell ∈ sheet.cells, cell.row = row := by
  obtain ⟨cell, -, hcell, -⟩ := hrow
  obtain ⟨hmem, hrow, -⟩ := h.get?_eq_some_iff.mp hcell.get?_eq
  exact ⟨cell, hmem, hrow⟩

omit h

lemma map_row_records (layout : Layout) (sheet : Sheet) :
    (layout.records sheet).map (·.row) = (sheet.rowsFrom layout.firstRow).filter fun row =>
      ((record sheet (layout.headers sheet) row).scalar? Record.nameHeader).isSome := by
  rw [records, List.filter_map, List.map_map]
  exact List.map_id _

lemma record_of_mem_records {record : Record} (hrecord : record ∈ layout.records sheet) :
    Layout.record sheet (layout.headers sheet) record.row = record := by
  obtain ⟨row, -, rfl⟩ := List.mem_map.mp (List.mem_filter.mp hrecord).1
  rfl

/-- The records are those of the sheet under the layout. -/
structure Lists (layout : Layout) (sheet : Sheet) (records : List Record) : Prop where
  rows_sorted : (records.map (·.row)).Pairwise (· < ·)
  mem_rows_iff : ∀ row, row ∈ records.map (·.row) ↔
    max layout.firstDataRow (layout.headerRow + 1) ≤ row ∧ layout.IsNamed sheet row
  /-- No row at or above the headers is a record. -/
  headerRow_lt : ∀ record ∈ records, layout.headerRow < record.row
  nodup_keys : ∀ record ∈ records, (record.values.map Prod.fst).Nodup
  lookup_eq_some_iff : ∀ record ∈ records, ∀ key value,
    record.values.lookup key = some value ↔
      ∃ cell, layout.IsLastUnder sheet record.row key cell ∧ cell.scalar? = some value
  isFinite : ∀ record ∈ records, ∀ key x, (key, .number x) ∈ record.values → x.isFinite = true

/-- Whatever cells are put on a sheet and wherever a layout has its parts: the records are the rows
behind the headers that have a name, each with the values of the last columns of its keys. -/
theorem lists_records (layout : Layout) (file name : String) (pushed : List Cell)
    (hheader : layout.headerRow < wordLimit - 1) :
    layout.records? ((Sheet.new file name).pushAll pushed) =
        some (layout.records ((Sheet.new file name).pushAll pushed)) ∧
      layout.Lists ((Sheet.new file name).pushAll pushed)
        (layout.records ((Sheet.new file name).pushAll pushed)) := by
  have h := (Sheet.consistent_new file name).pushAll pushed
  have hbehind : layout.headerRow + 1 < wordLimit := by omega
  refine ⟨records?_eq_some_iff.mpr ⟨hbehind, rfl⟩, ?_⟩
  exact {
    rows_sorted := by
      rw [map_row_records]
      exact (Sheet.rowsFrom_sorted _ _).filter _
    mem_rows_iff := by
      intro row
      rw [map_row_records, List.mem_filter, isSome_scalar?_iff_isNamed h, h.mem_rowsFrom_iff,
        firstRow]
      exact ⟨fun hrow => ⟨hrow.1.1, hrow.2⟩, fun hrow => ⟨⟨hrow.1, hrow.2.exists_mem h⟩, hrow.2⟩⟩
    headerRow_lt := fun _ hrecord =>
      (headerRow_lt_firstRow layout).trans_le (firstRow_le_of_mem_records hrecord)
    nodup_keys := by
      intro record hrecord
      rw [← record_of_mem_records hrecord]
      exact nodup_map_upsertAll _ _
    lookup_eq_some_iff := by
      intro record hrecord key value
      rw [← lookup_record_iff h, record_of_mem_records hrecord]
    isFinite := fun _ hrecord key x hvalue =>
      isFinite_of_mem_records hrecord (key, .number x) hvalue x (List.mem_singleton_self x) }

/-- A sheet with a repeated header, below which one column is filled only in some rows. -/
def prices : Sheet := (Sheet.new "prices.ods" "prices").pushAll [
  ⟨1, 0, .text, "Column"⟩, ⟨1, 1, .text, "Type"⟩, ⟨1, 3, .text, " TYPE "⟩,
  ⟨4, 0, .text, "gross"⟩, ⟨4, 1, .text, "int"⟩, ⟨4, 3, .error, "#REF!"⟩,
  ⟨2, 0, .text, "net"⟩, ⟨2, 1, .text, "int"⟩, ⟨2, 3, .text, "decimal"⟩, ⟨3, 1, .text, "int"⟩]

lemma headers_prices : ({} : Layout).headers prices = [(0, "column"), (1, "type"), (3, "type")] := by
  rw [Layout.headers, Sheet.row_of_pairwise (by decide +kernel)]
  decide +kernel

theorem lists_records_prices :
    ({} : Layout).headerRow < wordLimit - 1 ∧
    ∃ records, ({} : Layout).records? prices = some records ∧
      records = [
        ⟨2, [("column", .text "net"), ("type", .text "decimal")]⟩,
        ⟨4, [("column", .text "gross"), ("type", .text "int")]⟩] ∧
      ({} : Layout).Lists prices records := by
  have hheader : ({} : Layout).headerRow < wordLimit - 1 := by decide
  have hrecords : ({} : Layout).records prices = [
      ⟨2, [("column", .text "net"), ("type", .text "decimal")]⟩,
      ⟨4, [("column", .text "gross"), ("type", .text "int")]⟩] := by
    rw [Layout.records, headers_prices]
    decide +kernel
  obtain ⟨hread, hlists⟩ := lists_records {} "prices.ods" "prices" _ hheader
  exact ⟨hheader, _, hread, hrecords, hlists⟩

end Layout

end DataDictionary
