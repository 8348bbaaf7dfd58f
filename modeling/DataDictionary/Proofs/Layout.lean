import DataDictionary.Layout
import DataDictionary.Proofs.Sheet
import DataDictionary.Proofs.Text.Whole

/-!
# What a layout tells of a sheet

The headers of a sheet are the cells of one row that are not blank, each in its column and with its
key. Records stand behind that row and have no header that the sheet has not. Behind the last row
that a word tells nothing is read.
-/

namespace DataDictionary.Layout

open Text (wordLimit)

variable {layout : Layout}

/-! ### Headers -/

/-- The key of a cell among the headers, unless it is blank. -/
def headerKey? (layout : Layout) (cell : Cell) : Option String :=
  if cell.row = layout.headerRow then (header? cell).map Prod.snd else none

lemma header?_eq_some {cell : Cell} {col : Nat} {key : String}
    (h : header? cell = some (col, key)) : cell.col = col := by
  rw [header?] at h
  split at h
  · split at h
    · exact absurd h (by simp)
    · exact (Prod.mk.inj (Option.some.inj h)).1
  · exact absurd h (by simp)

lemma header?_eq_some_iff {cell : Cell} {col : Nat} {key : String} :
    header? cell = some (col, key) ↔ cell.col = col ∧ (header? cell).map Prod.snd = some key := by
  constructor
  · intro h
    exact ⟨header?_eq_some h, by rw [h, Option.map_some]⟩
  · rintro ⟨rfl, h⟩
    obtain ⟨⟨col, key'⟩, hheader, rfl⟩ := Option.map_eq_some_iff.mp h
    rw [hheader, header?_eq_some hheader]

/-- The headers of a sheet have the keys of its cells. -/
lemma map_headers_perm {sheet : Sheet} (h : sheet.Consistent) (layout : Layout) :
    ((layout.headers sheet).map Prod.snd).Perm
      (sheet.cells.toList.filterMap layout.headerKey?) := by
  have hkeys : sheet.cells.toList.filterMap layout.headerKey? =
      (sheet.cells.toList.filter (·.row = layout.headerRow)).filterMap
        fun cell => (header? cell).map Prod.snd := by
    rw [List.filterMap_filter]
    refine List.filterMap_congr fun cell _ => ?_
    simp only [headerKey?, decide_eq_true_eq]
  rw [headers, h.row_eq, List.map_filterMap, hkeys]
  exact (List.mergeSort_perm _ _).filterMap _

lemma mem_headers_iff {sheet : Sheet} (h : sheet.Consistent) {col : Nat} {key : String} :
    (col, key) ∈ layout.headers sheet ↔
      ∃ cell ∈ sheet.cells, cell.col = col ∧ layout.headerKey? cell = some key := by
  rw [headers, List.mem_filterMap]
  constructor
  · rintro ⟨cell, hcell, hheader⟩
    obtain ⟨hmem, hrow⟩ := h.mem_row_iff.mp hcell
    obtain ⟨hcol, hkey⟩ := header?_eq_some_iff.mp hheader
    exact ⟨cell, hmem, hcol, by rw [headerKey?, if_pos hrow, hkey]⟩
  · rintro ⟨cell, hmem, hcol, hkey⟩
    rw [headerKey?] at hkey
    split at hkey
    · next hrow => exact ⟨cell, h.mem_row_iff.mpr ⟨hmem, hrow⟩, header?_eq_some_iff.mpr ⟨hcol, hkey⟩⟩
    · exact absurd hkey (by simp)

/-! ### Records -/

/-- A record has no header that the sheet has not. -/
lemma keys_sublist (value? : Nat → Option Scalar) (headers : List (Nat × String)) :
    ((headers.filterMap fun (col, key) => (value? col).map (key, ·)).map Prod.fst).Sublist
      (headers.map Prod.snd) := by
  induction headers with
  | nil => exact List.Sublist.slnil
  | cons header headers ih =>
    obtain ⟨col, key⟩ := header
    cases hvalue : value? col with
    | none => simpa [hvalue] using ih.cons key
    | some value => simpa [hvalue] using ih

/-- The cells of a row that have a value and stand under headers of a key, by column. -/
def cellsUnder (sheet : Sheet) (headers : List (Nat × String)) (row : Nat) (key : String) :
    List Cell :=
  headers.filterMap fun header =>
    if header.2 = key then (sheet.get? row header.1).filter (·.scalar?.isSome) else none

/-- A header more brings in the cell below it, if it has the key. -/
lemma cellsUnder_concat (sheet : Sheet) (headers : List (Nat × String)) (col : Nat) (k : String)
    (row : Nat) (key : String) :
    cellsUnder sheet (headers ++ [(col, k)]) row key =
      cellsUnder sheet headers row key ++
        if k = key then ((sheet.get? row col).filter (·.scalar?.isSome)).toList else [] := by
  rw [cellsUnder, List.filterMap_append, ← cellsUnder]
  split
  · next h => cases hcell : (sheet.get? row col).filter (·.scalar?.isSome) <;> simp [h, hcell]
  · next h => simp [h]

/-- Under a key a record has the value of the last cell that stands there. -/
lemma lookup_record (sheet : Sheet) (headers : List (Nat × String)) (row : Nat) (key : String) :
    (record sheet headers row).values.lookup key =
      (cellsUnder sheet headers row key).getLast?.bind (·.scalar?) := by
  rw [record, Record.ofValues, lookup_upsertAll]
  induction headers using List.reverseRecOn with
  | nil => rfl
  | append_singleton headers header ih =>
    obtain ⟨col, k⟩ := header
    rw [List.filterMap_append, lastWith?_append, cellsUnder_concat, List.getLast?_append,
      Option.map_or, ih]
    cases hcell : sheet.get? row col with
    | none => by_cases hk : k = key <;> simp [hcell, hk]
    | some cell =>
      cases hvalue : cell.scalar? with
      | none => by_cases hk : k = key <;> simp [hcell, hvalue, hk, Option.filter]
      | some value => by_cases hk : k = key <;> simp [hcell, hvalue, hk, lastWith?, Option.filter]

/-- A record that has a value is that of a row with a cell. -/
lemma exists_mem_of_isSome_scalar? {sheet : Sheet} (h : sheet.Consistent)
    {headers : List (Nat × String)} {row : Nat} {key : String}
    (hvalue : ((record sheet headers row).scalar? key).isSome) :
    ∃ cell ∈ sheet.cells, cell.row = row := by
  obtain ⟨value, hvalue⟩ := Option.isSome_iff_exists.mp hvalue
  rw [Record.scalar?, lookup_record, Option.filter_eq_some_iff] at hvalue
  obtain ⟨cell, hlast, -⟩ := Option.bind_eq_some_iff.mp hvalue.1
  obtain ⟨header, -, hcell⟩ := List.mem_filterMap.mp (List.mem_of_getLast? hlast)
  split at hcell
  · obtain ⟨hmem, hrow, -⟩ := h.get?_eq_some_iff.mp (Option.filter_eq_some_iff.mp hcell).1
    exact ⟨cell, hmem, hrow⟩
  · exact absurd hcell (by simp)

/-- There are no more cells under a key than headers that have it. -/
lemma length_cellsUnder_le (sheet : Sheet) (headers : List (Nat × String)) (row : Nat)
    (key : String) :
    (cellsUnder sheet headers row key).length ≤ (headers.map Prod.snd).count key := by
  induction headers using List.reverseRecOn with
  | nil => simp [cellsUnder]
  | append_singleton headers header ih =>
    obtain ⟨col, k⟩ := header
    rw [cellsUnder_concat, List.map_append, List.count_append, List.length_append]
    by_cases h : k = key
    · have hcell : ((sheet.get? row col).filter (·.scalar?.isSome)).toList.length ≤ 1 := by
        cases (sheet.get? row col).filter (·.scalar?.isSome) <;> simp
      simp [h]
      omega
    · simp [h, ih]

lemma headerRow_lt_firstRow (layout : Layout) : layout.headerRow < layout.firstRow :=
  Nat.lt_of_succ_le (Nat.le_max_right ..)

lemma firstRow_le_of_mem_records {sheet : Sheet} {record : Record}
    (h : record ∈ layout.records sheet) : layout.firstRow ≤ record.row := by
  rw [records] at h
  obtain ⟨row, hrow, rfl⟩ := List.mem_map.mp (List.mem_filter.mp h).1
  exact of_decide_eq_true (List.mem_filter.mp hrow).2

/-- Records are read if there is a row behind the headers, and only then. -/
lemma records?_eq_some_iff {sheet : Sheet} {records : List Record} :
    layout.records? sheet = some records ↔
      layout.headerRow + 1 < wordLimit ∧ layout.records sheet = records := by
  simp [records?]

end DataDictionary.Layout
