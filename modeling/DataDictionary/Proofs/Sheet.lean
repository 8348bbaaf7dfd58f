import DataDictionary.Proofs.Upsert
import DataDictionary.Sheet
import Mathlib.Data.List.Sort

/-!
# What a sheet holds

The list of cells and the two indexes of a sheet agree at any time: a position has one place, a
row has the places of its cells, and no place lies behind the last cell. So whatever cells are put
on a sheet, in whatever order, each position holds the last of them, rows give their cells by
column, and the filled rows are told from the top.
-/

namespace DataDictionary

/-! ### Positions -/

lemma comparePositions_eq_iff {p q : Nat × Nat} : comparePositions p q = .eq ↔ p = q := by
  simp [comparePositions, compareLex, compareOn, Ordering.then_eq_eq, Prod.ext_iff]

lemma comparePositions_eq_lt_iff {p q : Nat × Nat} :
    comparePositions p q = .lt ↔ p.1 < q.1 ∨ p.1 = q.1 ∧ p.2 < q.2 := by
  simp [comparePositions, compareLex, compareOn, Ordering.then_eq_lt, Nat.compare_eq_lt]

instance : Std.TransCmp comparePositions := inferInstanceAs (Std.TransCmp (compareLex _ _))

namespace Sheet

/-! ### Agreement of the indexes -/

/-- The indexes of a sheet tell where its cells stand. -/
structure Consistent (sheet : Sheet) : Prop where
  /-- The place of a position is where its cell stands. -/
  places_iff : ∀ (position : Nat × Nat) (place : Nat), sheet.places[position]? = some place ↔
    sheet.cells[place]?.map Cell.position = some position
  /-- The places of a row are where its cells stand, from the first. -/
  placesOf_eq : ∀ row, sheet.placesOf row =
    (List.range sheet.cells.size).filter fun place => sheet.cells[place]?.map Cell.row = some row
  /-- A row that is known has a cell. -/
  placesOf_ne_nil : ∀ row, row ∈ sheet.rows → sheet.placesOf row ≠ []

lemma consistent_new (file name : String) : (new file name).Consistent where
  places_iff _ _ := by simp [new]
  placesOf_eq _ := by simp [new, placesOf]
  placesOf_ne_nil _ h := by simp [new] at h

/-- The sheet with a cell in place of another. -/
def replace (sheet : Sheet) (place : Nat) (cell : Cell) : Sheet :=
  { sheet with cells := sheet.cells.setIfInBounds place cell }

/-- The sheet with a cell at a position that was empty. -/
def append (sheet : Sheet) (cell : Cell) : Sheet :=
  { sheet with
    cells := sheet.cells.push cell
    places := sheet.places.insert cell.position sheet.cells.size
    rows := sheet.rows.alter cell.row (addPlace sheet.cells.size) }

/-- A cell that is put on a sheet replaces the one at its position, or is listed behind all. -/
lemma Consistent.push_cases {sheet : Sheet} (h : sheet.Consistent) (cell : Cell) :
    (∃ place, sheet.cells[place]?.map Cell.position = some cell.position ∧
      sheet.push cell = sheet.replace place cell) ∨
    ((∀ place : Nat, sheet.cells[place]?.map Cell.position ≠ some cell.position) ∧
      sheet.push cell = sheet.append cell) := by
  cases hp : sheet.places[cell.position]? with
  | some place => exact .inl ⟨place, (h.places_iff _ _).mp hp, by simp [push, hp, replace]⟩
  | none =>
    refine .inr ⟨fun place hplace => ?_, by simp [push, hp, append]⟩
    rw [(h.places_iff _ _).mpr hplace] at hp
    exact absurd hp (by simp)

/-! ### A cell in place of another -/

/-- What two cells of one position have in common stays as it is. -/
lemma map_replace {β : Type} (f : Cell → β) {sheet : Sheet} {place : Nat} {cell : Cell}
    (h : sheet.cells[place]?.map f = some (f cell)) (i : Nat) :
    (sheet.replace place cell).cells[i]?.map f = sheet.cells[i]?.map f := by
  rw [replace, Array.getElem?_setIfInBounds]
  split
  · next hi =>
    subst hi
    split
    · exact h.symm
    · next hlt => simp [Array.getElem?_eq_none (Nat.le_of_not_lt hlt)]
  · rfl

lemma row_of_position {cell? : Option Cell} {cell : Cell}
    (h : cell?.map Cell.position = some cell.position) :
    cell?.map Cell.row = some cell.row := by
  obtain ⟨old, rfl, hold⟩ := Option.map_eq_some_iff.mp h
  exact congrArg some (congrArg Prod.fst hold)

lemma Consistent.replace {sheet : Sheet} (h : sheet.Consistent) {place : Nat} {cell : Cell}
    (hplace : sheet.cells[place]?.map Cell.position = some cell.position) :
    (sheet.replace place cell).Consistent where
  places_iff position i := by
    rw [map_replace _ hplace]
    exact h.places_iff position i
  placesOf_eq row := by
    have hsize : (sheet.replace place cell).cells.size = sheet.cells.size := by
      simp [Sheet.replace]
    simp only [hsize, map_replace _ (row_of_position hplace)]
    exact h.placesOf_eq row
  placesOf_ne_nil := h.placesOf_ne_nil

/-! ### A cell behind all -/

lemma getElem?_append (sheet : Sheet) (cell : Cell) (i : Nat) :
    (sheet.append cell).cells[i]?
      = if i = sheet.cells.size then some cell else sheet.cells[i]? := by
  simp [append, Array.getElem?_push]

lemma placesOf_append (sheet : Sheet) (cell : Cell) (row : Nat) :
    (sheet.append cell).placesOf row
      = sheet.placesOf row ++ if cell.row = row then [sheet.cells.size] else [] := by
  simp only [placesOf, append, Std.TreeMap.getD_alter, compare_eq_iff_eq]
  split
  · next h => simp [addPlace, h, Std.TreeMap.getD_eq_getD_getElem?]
  · simp

lemma Consistent.append {sheet : Sheet} (h : sheet.Consistent) {cell : Cell}
    (hfree : ∀ place : Nat, sheet.cells[place]?.map Cell.position ≠ some cell.position) :
    (sheet.append cell).Consistent where
  places_iff position i := by
    rw [getElem?_append]
    simp only [Sheet.append, Std.TreeMap.getElem?_insert, comparePositions_eq_iff]
    by_cases hp : cell.position = position
    · subst hp
      by_cases hi : i = sheet.cells.size
      · simp [hi]
      · simpa [hi, eq_comm] using hfree i
    · by_cases hi : i = sheet.cells.size
      · subst hi
        have hnone : sheet.places[position]? ≠ some sheet.cells.size := by
          rw [Ne, h.places_iff]
          simp
        simp [hp, hnone]
      · simpa [hp, hi] using h.places_iff position i
  placesOf_eq row := by
    have hbefore : ∀ i ∈ List.range sheet.cells.size,
        decide ((sheet.append cell).cells[i]?.map Cell.row = some row)
          = decide (sheet.cells[i]?.map Cell.row = some row) := by
      intro i hi
      rw [getElem?_append, if_neg (Nat.ne_of_lt (List.mem_range.mp hi))]
    have hsize : (sheet.append cell).cells.size = sheet.cells.size + 1 := by
      simp [Sheet.append]
    rw [placesOf_append, hsize, List.range_succ, List.filter_append, List.filter_congr hbefore,
      ← h.placesOf_eq, List.filter_singleton, getElem?_append]
    simp
  placesOf_ne_nil row hrow := by
    rw [placesOf_append]
    by_cases hr : cell.row = row
    · simp [hr]
    · have hmem : row ∈ sheet.rows := by
        simpa [Sheet.append, Std.TreeMap.mem_alter, hr] using hrow
      simpa [hr] using h.placesOf_ne_nil row hmem

theorem Consistent.push {sheet : Sheet} (h : sheet.Consistent) (cell : Cell) :
    (sheet.push cell).Consistent := by
  obtain ⟨place, hplace, heq⟩ | ⟨hfree, heq⟩ := h.push_cases cell
  · rw [heq]
    exact h.replace hplace
  · rw [heq]
    exact h.append hfree

lemma pushAll_append (sheet : Sheet) (a b : List Cell) :
    sheet.pushAll (a ++ b) = (sheet.pushAll a).pushAll b :=
  List.foldl_append

theorem Consistent.pushAll {sheet : Sheet} (h : sheet.Consistent) (cells : List Cell) :
    (sheet.pushAll cells).Consistent := by
  induction cells generalizing sheet with
  | nil => exact h
  | cons cell cells ih => exact ih (h.push cell)

/-! ### The list of cells -/

/-- No two cells stand at one position. -/
lemma Consistent.nodup {sheet : Sheet} (h : sheet.Consistent) :
    (sheet.cells.toList.map Cell.position).Nodup := by
  rw [List.nodup_iff_getElem?_ne_getElem?]
  intro i j hij hj heq
  have hlt : i < sheet.cells.size := by simp at hj; omega
  obtain ⟨position, hi⟩ : ∃ position, sheet.cells[i]?.map Cell.position = some position :=
    ⟨_, by rw [Array.getElem?_eq_getElem hlt, Option.map_some]⟩
  simp only [List.getElem?_map, Array.getElem?_toList] at heq
  have hpi := (h.places_iff position i).mpr hi
  have hpj := (h.places_iff position j).mpr (heq ▸ hi)
  rw [hpi] at hpj
  exact Nat.ne_of_lt hij (Option.some.inj hpj)

lemma Consistent.toList_push {sheet : Sheet} (h : sheet.Consistent) (cell : Cell) :
    (sheet.push cell).cells.toList = upsert Cell.position cell sheet.cells.toList := by
  obtain ⟨place, hplace, heq⟩ | ⟨hfree, heq⟩ := h.push_cases cell
  · obtain ⟨old, hold, hposition⟩ := Option.map_eq_some_iff.mp hplace
    rw [heq, Sheet.replace, Array.toList_setIfInBounds,
      upsert_of_getElem? h.nodup (by simpa using hold) hposition]
  · have hnew : cell.position ∉ sheet.cells.toList.map Cell.position := by
      intro hmem
      obtain ⟨i, hi⟩ := List.mem_iff_getElem?.mp hmem
      exact hfree i (by simpa using hi)
    rw [heq, Sheet.append, Array.toList_push, upsert_of_notMem hnew]

/-- The cells of a sheet are those that were put on it, each in the place of one at its
position. -/
theorem toList_pushAll (file name : String) (cells : List Cell) :
    ((new file name).pushAll cells).cells.toList = upsertAll Cell.position cells := by
  induction cells using List.reverseRecOn with
  | nil => rfl
  | append_singleton cells cell ih =>
    have hpush : (new file name).pushAll (cells ++ [cell])
        = ((new file name).pushAll cells).push cell := pushAll_append _ cells [cell]
    rw [hpush, ((consistent_new file name).pushAll cells).toList_push, ih, upsertAll_concat]

/-- Cells at positions of their own are listed as they were put. -/
lemma toList_pushAll_of_nodup (file name : String) {cells : List Cell}
    (h : (cells.map Cell.position).Nodup) :
    ((new file name).pushAll cells).cells.toList = cells := by
  rw [toList_pushAll, upsertAll_of_nodup h]

/-- A cell that is put on a sheet is its only new cell. -/
lemma mem_push {sheet : Sheet} {cell other : Cell} (h : other ∈ (sheet.push cell).cells) :
    other = cell ∨ other ∈ sheet.cells := by
  rw [push] at h
  split at h
  · exact (Array.mem_or_eq_of_mem_setIfInBounds h).symm
  · exact (Array.mem_push.mp h).symm

lemma mem_pushAll {sheet : Sheet} {cells : List Cell} {other : Cell}
    (h : other ∈ (sheet.pushAll cells).cells) : other ∈ cells ∨ other ∈ sheet.cells := by
  induction cells generalizing sheet with
  | nil => exact .inr h
  | cons cell cells ih =>
    rcases ih h with hmem | hmem
    · exact .inl (List.mem_cons_of_mem _ hmem)
    · rcases mem_push hmem with rfl | hmem
      · exact .inl (List.mem_cons_self ..)
      · exact .inr hmem

@[simp] lemma name_push (sheet : Sheet) (cell : Cell) : (sheet.push cell).name = sheet.name := by
  rw [push]
  split <;> rfl

@[simp] lemma name_pushAll (sheet : Sheet) (cells : List Cell) :
    (sheet.pushAll cells).name = sheet.name := by
  induction cells generalizing sheet with
  | nil => rfl
  | cons cell cells ih => exact (ih (sheet.push cell)).trans (sheet.name_push cell)

/-! ### Look-up through the indexes -/

lemma Consistent.get?_eq_find? {sheet : Sheet} (h : sheet.Consistent) (row col : Nat) :
    sheet.get? row col
      = sheet.cells.toList.find? fun cell => decide (cell.position = (row, col)) := by
  rw [get?]
  cases hp : sheet.places[(row, col)]? with
  | some place =>
    obtain ⟨cell, hcell, hposition⟩ := Option.map_eq_some_iff.mp ((h.places_iff _ _).mp hp)
    have hmem : cell ∈ sheet.cells.toList :=
      Array.mem_toList_iff.mpr (Array.mem_of_getElem? hcell)
    rw [Option.bind_some, hcell, ← hposition, find?_of_mem h.nodup hmem]
  | none =>
    symm
    rw [Option.bind_none, List.find?_eq_none]
    intro cell hcell hposition
    obtain ⟨place, hplace⟩ := Array.mem_iff_getElem?.mp (Array.mem_toList_iff.mp hcell)
    have hp' := (h.places_iff (row, col) place).mpr
      (by rw [hplace, Option.map_some, of_decide_eq_true hposition])
    rw [hp] at hp'
    exact absurd hp' (by simp)

/-- Elements are found at the places that satisfy what they satisfy. -/
lemma filterMap_places {α : Type} (l : List α) (p : α → Bool) (q : Nat → Bool)
    (h : ∀ i a, l[i]? = some a → q i = p a) :
    ((List.range l.length).filter q).filterMap (l[·]?) = l.filter p := by
  induction l using List.reverseRecOn with
  | nil => rfl
  | append_singleton l a ih =>
    have hl : ∀ i b, l[i]? = some b → q i = p b := by
      intro i b hb
      have hlt := (List.getElem?_eq_some_iff.mp hb).1
      exact h i b (by rw [List.getElem?_append_left hlt]; exact hb)
    have hbefore : ((List.range l.length).filter q).filterMap ((l ++ [a])[·]?)
        = ((List.range l.length).filter q).filterMap (l[·]?) := by
      refine List.filterMap_congr fun i hi => ?_
      have hlt := List.mem_range.mp (List.mem_filter.mp hi).1
      rw [List.getElem?_append_left hlt]
    have hlast : q l.length = p a := h l.length a (by simp)
    rw [List.length_append, List.length_singleton, List.range_succ, List.filter_append,
      List.filterMap_append, hbefore, ih hl, List.filter_append]
    by_cases hp : p a <;> simp [hlast, hp]

/-- The cells of a row are those of the list that stand in it. -/
lemma Consistent.row_eq {sheet : Sheet} (h : sheet.Consistent) (row : Nat) :
    sheet.row row
      = (sheet.cells.toList.filter (·.row = row)).mergeSort (fun a b => a.col ≤ b.col) := by
  have hcells := filterMap_places sheet.cells.toList (fun cell => decide (cell.row = row))
    (fun place => decide (sheet.cells[place]?.map Cell.row = some row))
    (fun i cell hi => by rw [Array.getElem?_toList] at hi; simp [hi])
  rw [Sheet.row, h.placesOf_eq, ← hcells]
  simp

/-- A row is known iff a cell stands in it. -/
lemma Consistent.mem_rows_iff {sheet : Sheet} (h : sheet.Consistent) {row : Nat} :
    row ∈ sheet.rows ↔ ∃ cell ∈ sheet.cells, cell.row = row := by
  constructor
  · intro hrow
    obtain ⟨place, hplace⟩ := List.exists_mem_of_ne_nil _ (h.placesOf_ne_nil row hrow)
    rw [h.placesOf_eq, List.mem_filter, decide_eq_true_eq] at hplace
    obtain ⟨cell, hcell, heq⟩ := Option.map_eq_some_iff.mp hplace.2
    exact ⟨cell, Array.mem_of_getElem? hcell, heq⟩
  · rintro ⟨cell, hcell, rfl⟩
    obtain ⟨place, hplace⟩ := Array.mem_iff_getElem?.mp hcell
    have hmem : place ∈ sheet.placesOf cell.row := by
      rw [h.placesOf_eq, List.mem_filter, List.mem_range]
      exact ⟨(Array.getElem?_eq_some_iff.mp hplace).1, by simp [hplace]⟩
    by_contra hrow
    rw [placesOf, Std.TreeMap.getD_eq_fallback hrow] at hmem
    simp at hmem

/-! ### Rows -/

lemma Consistent.mem_row_iff {sheet : Sheet} (h : sheet.Consistent) {row : Nat} {cell : Cell} :
    cell ∈ sheet.row row ↔ cell ∈ sheet.cells ∧ cell.row = row := by
  rw [h.row_eq, List.mem_mergeSort, List.mem_filter, Array.mem_toList_iff, decide_eq_true_eq]

lemma Consistent.row_sorted {sheet : Sheet} (h : sheet.Consistent) (row : Nat) :
    (sheet.row row).Pairwise (·.col < ·.col) := by
  have hle : (sheet.row row).Pairwise (·.col ≤ ·.col) := by
    rw [h.row_eq]
    refine (List.pairwise_mergeSort ?_ ?_ _).imp fun hab => of_decide_eq_true hab
    · intro a b c hab hbc
      exact decide_eq_true ((of_decide_eq_true hab).trans (of_decide_eq_true hbc))
    · intro a b
      simpa using Nat.le_total a.col b.col
  have hpositions : (sheet.row row).Pairwise fun a b => a.position ≠ b.position := by
    have hcells : sheet.cells.toList.Pairwise fun a b => a.position ≠ b.position :=
      List.pairwise_map.mp h.nodup
    rw [h.row_eq]
    exact (List.mergeSort_perm _ _).symm.pairwise (hcells.filter _) fun hab => hab.symm
  -- cells of one row with different positions have different columns
  refine (hle.and hpositions).imp_of_mem fun {a b} ha hb hab => ?_
  have hrow : a.row = b.row := (h.mem_row_iff.mp ha).2.trans (h.mem_row_iff.mp hb).2.symm
  exact Nat.lt_of_le_of_ne hab.1 fun hcol => hab.2 (Prod.ext hrow hcol)

lemma rowsFrom_sorted (sheet : Sheet) (lower : Nat) :
    (sheet.rowsFrom lower).Pairwise (· < ·) := by
  refine (Std.TreeMap.ordered_keys.imp fun hab => ?_).filter _
  exact Nat.compare_eq_lt.mp hab

lemma Consistent.mem_rowsFrom_iff {sheet : Sheet} (h : sheet.Consistent) {lower row : Nat} :
    row ∈ sheet.rowsFrom lower ↔ lower ≤ row ∧ ∃ cell ∈ sheet.cells, cell.row = row := by
  rw [rowsFrom, List.mem_filter, Std.TreeMap.mem_keys, h.mem_rows_iff, decide_eq_true_eq,
    and_comm]

/-- Cells that were put into a row by column stand in it as they were put. -/
lemma row_of_pairwise {sheet : Sheet} {row : Nat}
    (h : ((sheet.placesOf row).filterMap (sheet.cells[·]?)).Pairwise (·.col ≤ ·.col)) :
    sheet.row row = (sheet.placesOf row).filterMap (sheet.cells[·]?) :=
  List.mergeSort_of_pairwise (h.imp fun hab => decide_eq_true hab)

/-! ### Bounds of the indexes -/

lemma Consistent.place_lt {sheet : Sheet} (h : sheet.Consistent) {position : Nat × Nat}
    {place : Nat} (hplace : sheet.places[position]? = some place) : place < sheet.cells.size := by
  obtain ⟨cell, hcell, -⟩ := Option.map_eq_some_iff.mp ((h.places_iff position place).mp hplace)
  exact (Array.getElem?_eq_some_iff.mp hcell).1

lemma Consistent.place_lt_of_row {sheet : Sheet} (h : sheet.Consistent) {row : Nat}
    {places : Array Nat} (hplaces : sheet.rows[row]? = some places) {place : Nat}
    (hplace : place ∈ places) : place < sheet.cells.size := by
  have hmem : place ∈ sheet.placesOf row := by
    rw [placesOf, Std.TreeMap.getD_eq_getD_getElem?, hplaces]
    exact Array.mem_toList_iff.mpr hplace
  rw [h.placesOf_eq, List.mem_filter, List.mem_range] at hmem
  exact hmem.1

/-! ### Sheets that look up the same cells -/

/-- A position has the last cell that was put at it. -/
lemma get?_pushAll (file name : String) (cells : List Cell) (row col : Nat) :
    ((new file name).pushAll cells).get? row col = lastWith? Cell.position (row, col) cells := by
  rw [((consistent_new file name).pushAll cells).get?_eq_find?, toList_pushAll, find?_upsertAll]

/-- A sheet has the cells that are found at their positions. -/
lemma Consistent.mem_cells_iff {sheet : Sheet} (h : sheet.Consistent) {cell : Cell} :
    cell ∈ sheet.cells ↔ sheet.get? cell.row cell.col = some cell := by
  rw [h.get?_eq_find?, ← Array.mem_toList_iff]
  constructor
  · exact find?_of_mem h.nodup
  · exact List.mem_of_find?_eq_some

lemma Consistent.get?_eq_some_iff {sheet : Sheet} (h : sheet.Consistent) {row col : Nat}
    {cell : Cell} :
    sheet.get? row col = some cell ↔ cell ∈ sheet.cells ∧ cell.row = row ∧ cell.col = col := by
  constructor
  · intro hcell
    rw [h.get?_eq_find?] at hcell
    have hposition : cell.position = (row, col) := by simpa using List.find?_some hcell
    obtain ⟨hrow, hcol⟩ := Prod.mk.inj hposition
    exact ⟨Array.mem_toList_iff.mp (List.mem_of_find?_eq_some hcell), hrow, hcol⟩
  · rintro ⟨hcell, rfl, rfl⟩
    exact h.mem_cells_iff.mp hcell

/-- Lists in ascending order are told by what is in them. -/
lemma eq_of_ascending {α : Type} {f : α → Nat} {l m : List α} (hl : l.Pairwise (f · < f ·))
    (hm : m.Pairwise (f · < f ·)) (h : ∀ a, a ∈ l ↔ a ∈ m) : l = m := by
  have hne {k : List α} (hk : k.Pairwise (f · < f ·)) : k.Nodup := by
    refine List.Pairwise.imp ?_ hk
    rintro a b hlt rfl
    exact Nat.lt_irrefl _ hlt
  have hperm : l.Perm m := (List.perm_ext_iff_of_nodup (hne hl) (hne hm)).mpr h
  refine hperm.eq_of_pairwise ?_ hl hm
  intro a b _ _ hab hba
  exact absurd (hab.trans hba) (Nat.lt_irrefl _)

lemma Consistent.row_congr {a b : Sheet} (ha : a.Consistent) (hb : b.Consistent)
    (h : ∀ row col, a.get? row col = b.get? row col) (row : Nat) : a.row row = b.row row := by
  apply eq_of_ascending (ha.row_sorted row) (hb.row_sorted row)
  intro cell
  rw [ha.mem_row_iff, hb.mem_row_iff, ha.mem_cells_iff, hb.mem_cells_iff, h]

/-- Rows from the top are told by which of them there are. -/
lemma rowsFrom_ext {a b : Sheet} {lower : Nat}
    (h : ∀ row, row ∈ a.rowsFrom lower ↔ row ∈ b.rowsFrom lower) :
    a.rowsFrom lower = b.rowsFrom lower :=
  eq_of_ascending (a.rowsFrom_sorted lower) (b.rowsFrom_sorted lower) h

lemma Consistent.rowsFrom_congr {a b : Sheet} (ha : a.Consistent) (hb : b.Consistent)
    (h : ∀ row col, a.get? row col = b.get? row col) (lower : Nat) :
    a.rowsFrom lower = b.rowsFrom lower := by
  refine rowsFrom_ext fun row => ?_
  simp only [ha.mem_rowsFrom_iff, hb.mem_rowsFrom_iff, ha.mem_cells_iff, hb.mem_cells_iff, h]

/-! ### The sheet as a whole -/

/-- A sheet holds what was put on it, and its indexes stay within its cells. -/
structure Holds (sheet : Sheet) (pushed : List Cell) : Prop where
  /-- A position has the last cell that was put at it. -/
  get?_eq : ∀ row col, sheet.get? row col = lastWith? Cell.position (row, col) pushed
  /-- The positions of the cells, in the order in which they were first filled. -/
  positions_eq : sheet.cells.toList.map Cell.position = (pushed.map Cell.position).eraseDups
  /-- Each cell is the one at its position. -/
  get?_of_mem : ∀ cell ∈ sheet.cells, sheet.get? cell.row cell.col = some cell
  row_sorted : ∀ row, (sheet.row row).Pairwise (·.col < ·.col)
  mem_row_iff : ∀ row cell, cell ∈ sheet.row row ↔ cell ∈ sheet.cells ∧ cell.row = row
  rowsFrom_sorted : ∀ lower, (sheet.rowsFrom lower).Pairwise (· < ·)
  mem_rowsFrom_iff : ∀ lower row,
    row ∈ sheet.rowsFrom lower ↔ lower ≤ row ∧ ∃ cell ∈ sheet.cells, cell.row = row
  place_lt : ∀ (position : Nat × Nat) (place : Nat),
    sheet.places[position]? = some place → place < sheet.cells.size
  place_lt_of_row : ∀ (row : Nat) (places : Array Nat),
    sheet.rows[row]? = some places → ∀ place ∈ places, place < sheet.cells.size

/-- Whatever cells are put on a new sheet, repeated positions or not, in any order. -/
theorem pushAll_holds (file name : String) (pushed : List Cell) :
    ((new file name).pushAll pushed).Holds pushed := by
  have h := (consistent_new file name).pushAll pushed
  have hcells := toList_pushAll file name pushed
  exact {
    get?_eq := fun row col => by rw [h.get?_eq_find?, hcells, find?_upsertAll]
    positions_eq := by rw [hcells, map_upsertAll]
    get?_of_mem := fun cell hcell => by
      rw [h.get?_eq_find?]
      exact find?_of_mem h.nodup (Array.mem_toList_iff.mpr hcell)
    row_sorted := h.row_sorted
    mem_row_iff := fun _ _ => h.mem_row_iff
    rowsFrom_sorted := Sheet.rowsFrom_sorted _
    mem_rowsFrom_iff := fun _ _ => h.mem_rowsFrom_iff
    place_lt := fun _ _ => h.place_lt
    place_lt_of_row := fun _ _ hplaces _ => h.place_lt_of_row hplaces }

end Sheet

end DataDictionary
