import DataDictionary.Proofs.Congruence
import DataDictionary.Proofs.Layout
import Mathlib.Logic.Equiv.Basic

/-!
# The arrangement of a sheet

Fields are told by the keys of their headers, not by where these stand. So the cells of a sheet may
come in any order, the columns may change places from the headers down, and headers may be written
in any way that keeps their keys: the extraction is the same. Sheets whose headers stand in the
last row that a word tells give none, in whatever arrangement.
-/

namespace DataDictionary

open Text (wordLimit)

namespace Layout

variable {layout : Layout} {σ : Equiv.Perm Nat}

/-! ### Cells that change places -/

/-- A cell of one sheet and what becomes of it on another. Cells above the headers stay. A header
changes its column and may be written in another way with the same key; a cell below the headers
changes its column. -/
inductive Moves (layout : Layout) (σ : Equiv.Perm Nat) : Cell → Cell → Prop
  | above {cell : Cell} (row_lt : cell.row < layout.headerRow) : Moves layout σ cell cell
  | header {cell moved : Cell} (row_eq : cell.row = layout.headerRow)
      (moved_row_eq : moved.row = layout.headerRow) (col_eq : moved.col = σ cell.col)
      (key_eq : (header? moved).map Prod.snd = (header? cell).map Prod.snd) :
      Moves layout σ cell moved
  | below {cell : Cell} (lt_row : layout.headerRow < cell.row) :
      Moves layout σ cell { cell with col := σ cell.col }

/-- The position that a cell comes to. -/
def movedPosition (layout : Layout) (σ : Equiv.Perm Nat) (position : Nat × Nat) : Nat × Nat :=
  if position.1 < layout.headerRow then position else (position.1, σ position.2)

lemma movedPosition_injective : Function.Injective (movedPosition layout σ) := by
  rintro ⟨row, col⟩ ⟨row', col'⟩ h
  simp only [movedPosition] at h
  split at h <;> split at h
  · exact h
  · next hrow hrow' =>
    obtain ⟨rfl, -⟩ := Prod.mk.inj h
    exact absurd hrow hrow'
  · next hrow hrow' =>
    obtain ⟨rfl, -⟩ := Prod.mk.inj h
    exact absurd hrow' hrow
  · obtain ⟨rfl, hcol⟩ := Prod.mk.inj h
    rw [σ.injective hcol]

lemma Moves.position_eq {cell moved : Cell} (h : Moves layout σ cell moved) :
    moved.position = movedPosition layout σ cell.position := by
  cases h with
  | above hrow => exact (if_pos hrow).symm
  | header hrow hmoved hcol _ =>
    have hnot : ¬ cell.row < layout.headerRow := by omega
    rw [movedPosition, Cell.position, Cell.position, if_neg hnot, hcol, hmoved, hrow]
  | below hrow => exact (if_neg (Nat.lt_asymm hrow)).symm

lemma Moves.headerKey?_eq {cell moved : Cell} (h : Moves layout σ cell moved) :
    layout.headerKey? moved = layout.headerKey? cell := by
  cases h with
  | above _ => rfl
  | header hrow hmoved _ hkey => rw [headerKey?, headerKey?, if_pos hrow, if_pos hmoved, hkey]
  | below hrow =>
    rw [headerKey?, headerKey?, if_neg (Nat.ne_of_gt hrow), if_neg (Nat.ne_of_gt hrow)]

/-- A sheet and another one that differs in nothing but its arrangement. -/
inductive IsRearranged (layout : Layout) : Sheet → Sheet → Prop
  | intro (file name : String) (σ : Equiv.Perm Nat) {cells moved pushed : List Cell}
      (positions : (cells.map Cell.position).Nodup)
      (keys : (cells.filterMap layout.headerKey?).Nodup)
      (moves : List.Forall₂ (Moves layout σ) cells moved) (order : moved.Perm pushed) :
      IsRearranged layout ((Sheet.new file name).pushAll cells)
        ((Sheet.new file name).pushAll pushed)

/-! ### What a rearrangement keeps -/

/-- Sheets whose cells are the same but for their arrangement, under headers that differ from each
other on both of them. -/
structure Paired (layout : Layout) (σ : Equiv.Perm Nat) (a b : Sheet) : Prop where
  consistent : a.Consistent
  consistent' : b.Consistent
  name_eq : a.name = b.name
  keys : ((layout.headers a).map Prod.snd).Nodup
  keys' : ((layout.headers b).map Prod.snd).Nodup
  /-- Every cell comes to a place. -/
  moved : ∀ cell ∈ a.cells, ∃ cell' ∈ b.cells, Moves layout σ cell cell'
  /-- Every cell comes from a place. -/
  came : ∀ cell' ∈ b.cells, ∃ cell ∈ a.cells, Moves layout σ cell cell'

lemma col_of_headerKey? {cell moved : Cell} (h : Moves layout σ cell moved) {key : String}
    (hkey : layout.headerKey? cell = some key) : moved.col = σ cell.col := by
  cases h with
  | above hrow =>
    rw [headerKey?, if_neg (Nat.ne_of_lt hrow)] at hkey
    exact absurd hkey (by simp)
  | header _ _ hcol _ => exact hcol
  | below _ => rfl

namespace Paired

variable {a b : Sheet}

lemma mem_headers_iff (h : Paired layout σ a b) {col : Nat} {key : String} :
    (col, key) ∈ layout.headers a ↔ (σ col, key) ∈ layout.headers b := by
  rw [Layout.mem_headers_iff h.consistent, Layout.mem_headers_iff h.consistent']
  constructor
  · rintro ⟨cell, hcell, rfl, hkey⟩
    obtain ⟨cell', hcell', hmoves⟩ := h.moved cell hcell
    exact ⟨cell', hcell', col_of_headerKey? hmoves hkey, hmoves.headerKey?_eq.trans hkey⟩
  · rintro ⟨cell', hcell', hcol, hkey⟩
    obtain ⟨cell, hcell, hmoves⟩ := h.came cell' hcell'
    rw [hmoves.headerKey?_eq] at hkey
    rw [col_of_headerKey? hmoves hkey] at hcol
    exact ⟨cell, hcell, σ.injective hcol, hkey⟩

/-- Above the headers the sheets have the same cells. -/
lemma get?_above (h : Paired layout σ a b) {row : Nat} (hrow : row < layout.headerRow)
    (col : Nat) : a.get? row col = b.get? row col := by
  ext cell
  rw [h.consistent.get?_eq_some_iff, h.consistent'.get?_eq_some_iff]
  constructor
  · rintro ⟨hcell, rfl, rfl⟩
    obtain ⟨cell', hcell', hmoves⟩ := h.moved cell hcell
    -- a cell of this row is above the headers, so it stays
    cases hmoves with
    | above _ => exact ⟨hcell', rfl, rfl⟩
    | header heq _ _ _ => omega
    | below hlt => omega
  · rintro ⟨hcell, rfl, rfl⟩
    obtain ⟨cell', hcell', hmoves⟩ := h.came cell hcell
    cases hmoves with
    | above _ => exact ⟨hcell', rfl, rfl⟩
    | header _ heq _ _ => omega
    | below hlt => exact absurd hlt (Nat.lt_asymm hrow)

/-- Below the headers a value stands in the column that its column comes to. -/
lemma scalar?_below (h : Paired layout σ a b) {row : Nat} (hrow : layout.headerRow < row)
    (col : Nat) : (a.get? row col).bind (·.scalar?) = (b.get? row (σ col)).bind (·.scalar?) := by
  have hcell : ∀ cell, a.get? row col = some cell →
      b.get? row (σ col) = some { cell with col := σ col } := by
    intro cell hcell
    obtain ⟨hmem, rfl, rfl⟩ := h.consistent.get?_eq_some_iff.mp hcell
    obtain ⟨cell', hmem', hmoves⟩ := h.moved cell hmem
    cases hmoves with
    | above hlt => omega
    | header heq _ _ _ => omega
    | below _ => exact h.consistent'.get?_eq_some_iff.mpr ⟨hmem', rfl, rfl⟩
  cases hget : a.get? row col with
  | some cell =>
    rw [hcell cell hget]
    rfl
  | none =>
    cases hget' : b.get? row (σ col) with
    | none => rfl
    | some cell' =>
      -- a cell that came to this column would have come from the empty position
      obtain ⟨hmem', hrow', hcol'⟩ := h.consistent'.get?_eq_some_iff.mp hget'
      obtain ⟨cell, hmem, hmoves⟩ := h.came cell' hmem'
      cases hmoves with
      | above hlt => omega
      | header _ heq _ _ => omega
      | below _ =>
        have hsome := h.consistent.get?_eq_some_iff.mpr ⟨hmem, hrow', σ.injective hcol'⟩
        rw [hget] at hsome
        exact absurd hsome (by simp)

lemma tableName_eq (h : Paired layout σ a b) (hname : layout.tableNameRow < layout.headerRow) :
    layout.tableName a = layout.tableName b := by
  rw [tableName, tableName, h.get?_above hname, h.name_eq]

lemma row_eq_of_moves {cell moved : Cell} (h : Moves layout σ cell moved) :
    moved.row = cell.row := by
  cases h with
  | above _ => rfl
  | header hrow hmoved _ _ => exact hmoved.trans hrow.symm
  | below _ => rfl

/-- The sheets have the same rows. -/
lemma rowsFrom_eq (h : Paired layout σ a b) (lower : Nat) :
    a.rowsFrom lower = b.rowsFrom lower := by
  refine Sheet.rowsFrom_ext fun row => ?_
  rw [h.consistent.mem_rowsFrom_iff, h.consistent'.mem_rowsFrom_iff]
  refine and_congr_right fun _ => ⟨?_, ?_⟩
  · rintro ⟨cell, hcell, rfl⟩
    obtain ⟨cell', hcell', hmoves⟩ := h.moved cell hcell
    exact ⟨cell', hcell', row_eq_of_moves hmoves⟩
  · rintro ⟨cell', hcell', rfl⟩
    obtain ⟨cell, hcell, hmoves⟩ := h.came cell' hcell'
    exact ⟨cell, hcell, (row_eq_of_moves hmoves).symm⟩

/-- Below the headers the records say the same. -/
lemma agrees_record (h : Paired layout σ a b) {row : Nat} (hrow : layout.headerRow < row) :
    (record a (layout.headers a) row).Agrees (record b (layout.headers b) row) := by
  have hkeys (sheet : Sheet) :=
    keys_sublist (fun col => (sheet.get? row col).bind (·.scalar?)) (layout.headers sheet)
  refine Record.agrees_ofValues (h.keys.sublist (hkeys a)) (h.keys'.sublist (hkeys b)) ?_
  rintro ⟨key, value⟩
  simp only [List.mem_filterMap, Option.map_eq_some_iff, Prod.mk.injEq, Prod.exists]
  -- a value under a header in one column stands under it in the column that this one comes to
  constructor
  · rintro ⟨col, key, hheader, value, hvalue, rfl, rfl⟩
    refine ⟨σ col, key, h.mem_headers_iff.mp hheader, value, ?_, rfl, rfl⟩
    rw [← h.scalar?_below hrow, hvalue]
  · rintro ⟨col, key, hheader, value, hvalue, rfl, rfl⟩
    obtain ⟨col, rfl⟩ := σ.surjective col
    refine ⟨col, key, h.mem_headers_iff.mpr hheader, value, ?_, rfl, rfl⟩
    rw [h.scalar?_below hrow, hvalue]

theorem agree (h : Paired layout σ a b) (hname : layout.tableNameRow < layout.headerRow) :
    layout.Agree a b where
  name_eq := h.name_eq
  tableName_eq := h.tableName_eq hname
  records := by
    have hfirst := headerRow_lt_firstRow layout
    have hrows : ∀ row ∈ b.rowsFrom layout.firstRow, layout.headerRow < row := by
      intro row hrow
      exact hfirst.trans_le (h.consistent'.mem_rowsFrom_iff.mp hrow).1
    rw [records, records, h.rowsFrom_eq]
    refine List.rel_filter ?_ ?_
    · intro r s hagrees
      simp only [hagrees _]
    · rw [List.forall₂_map_left_iff, List.forall₂_map_right_iff, List.forall₂_same]
      intro row hrow
      exact h.agrees_record (hrows row hrow)

end Paired

/-! ### Rearranged sheets -/

section Moves

variable {cells moved : List Cell}

lemma map_position_moves (h : List.Forall₂ (Moves layout σ) cells moved) :
    moved.map Cell.position = (cells.map Cell.position).map (movedPosition layout σ) := by
  induction h with
  | nil => rfl
  | cons hcell _ ih => simp only [List.map_cons, ih, hcell.position_eq]

lemma filterMap_headerKey?_moves (h : List.Forall₂ (Moves layout σ) cells moved) :
    moved.filterMap layout.headerKey? = cells.filterMap layout.headerKey? := by
  induction h with
  | nil => rfl
  | cons hcell _ ih => simp only [List.filterMap_cons, ih, hcell.headerKey?_eq]

/-- Every element of a list is related to one of the other list. -/
lemma exists_mem_of_forall₂ {α β : Type} {R : α → β → Prop} {l : List α} {m : List β}
    (h : List.Forall₂ R l m) {x : α} (hx : x ∈ l) : ∃ y ∈ m, R x y := by
  induction h with
  | nil => exact absurd hx List.not_mem_nil
  | cons hR _ ih =>
    rcases List.mem_cons.mp hx with rfl | hx
    · exact ⟨_, List.mem_cons_self .., hR⟩
    · obtain ⟨y, hy, hR'⟩ := ih hx
      exact ⟨y, List.mem_cons_of_mem _ hy, hR'⟩

end Moves

lemma IsRearranged.paired {a b : Sheet} (h : IsRearranged layout a b) :
    ∃ σ, Paired layout σ a b := by
  obtain ⟨file, name, σ, positions, keys, moves, order⟩ := h
  rename_i cells moved pushed
  have ha := (Sheet.consistent_new file name).pushAll cells
  have hb := (Sheet.consistent_new file name).pushAll pushed
  have hpositions : (pushed.map Cell.position).Nodup := by
    rw [← (order.map Cell.position).nodup_iff, map_position_moves moves]
    exact positions.map movedPosition_injective
  have hkeys : (pushed.filterMap layout.headerKey?).Nodup := by
    rw [← (order.filterMap layout.headerKey?).nodup_iff, filterMap_headerKey?_moves moves]
    exact keys
  have hcells := Sheet.toList_pushAll_of_nodup file name positions
  have hpushed := Sheet.toList_pushAll_of_nodup file name hpositions
  refine ⟨σ, ?_⟩
  exact {
    consistent := ha
    consistent' := hb
    name_eq := by rw [Sheet.name_pushAll, Sheet.name_pushAll]
    keys := by rwa [(map_headers_perm ha layout).nodup_iff, hcells]
    keys' := by rwa [(map_headers_perm hb layout).nodup_iff, hpushed]
    moved := by
      intro cell hcell
      rw [← Array.mem_toList_iff, hcells] at hcell
      obtain ⟨cell', hcell', hmoves⟩ := exists_mem_of_forall₂ moves hcell
      refine ⟨cell', ?_, hmoves⟩
      rw [← Array.mem_toList_iff, hpushed]
      exact order.mem_iff.mp hcell'
    came := by
      intro cell' hcell'
      rw [← Array.mem_toList_iff, hpushed] at hcell'
      obtain ⟨cell, hcell, hmoves⟩ := exists_mem_of_forall₂ moves.flip (order.mem_iff.mpr hcell')
      refine ⟨cell, ?_, hmoves⟩
      rw [← Array.mem_toList_iff, hcells]
      exact hcell }

end Layout

namespace Extraction

open Layout (IsRearranged)

/-- The extraction is the same for sheets that differ in nothing but their arrangement. There is
one if a row follows the headers, or if there are no sheets; otherwise both runs break off. -/
theorem assemble_eq_of_isRearranged {options : Options} {as bs : List Sheet}
    (hname : options.layout.tableNameRow < options.layout.headerRow)
    (h : List.Forall₂ (IsRearranged options.layout) as bs) :
    assemble options as = assemble options bs ∧
      assemble? options as = assemble? options bs ∧
      assemble? options as =
        if as = [] ∨ options.layout.headerRow + 1 < wordLimit then .ok (assemble options as)
        else .error .overflow := by
  have hsame : assemble options as = assemble options bs := by
    refine assemble_congr (h.imp ?_)
    intro a b hsheet
    obtain ⟨σ, hpaired⟩ := hsheet.paired
    exact hpaired.agree hname
  have hnil : as = [] ↔ bs = [] := by
    rw [← List.length_eq_zero_iff, ← List.length_eq_zero_iff, h.length_eq]
  refine ⟨hsame, ?_, assemble?_eq options as⟩
  simp only [assemble?_eq, hsame, hnil]

/-- A sheet that names its table above its headers. -/
def orders : Sheet := (Sheet.new "shop.ods" "Sheet1").pushAll [
  ⟨0, 1, .text, "orders"⟩, ⟨1, 0, .text, "Column"⟩, ⟨1, 1, .text, "Type"⟩,
  ⟨2, 0, .text, "id"⟩, ⟨2, 1, .text, "int"⟩]

/-- The sheet with its two columns in each other's place, headers in other letters and cells in
another order. -/
def ordersRearranged : Sheet := (Sheet.new "shop.ods" "Sheet1").pushAll [
  ⟨2, 0, .text, "int"⟩, ⟨2, 1, .text, "id"⟩, ⟨1, 0, .text, " type"⟩,
  ⟨1, 1, .text, "COLUMN"⟩, ⟨0, 1, .text, "orders"⟩]

lemma isRearranged_orders : IsRearranged {} orders ordersRearranged := by
  have hmoves : List.Forall₂ (Layout.Moves {} (Equiv.swap 0 1))
      [⟨0, 1, .text, "orders"⟩, ⟨1, 0, .text, "Column"⟩, ⟨1, 1, .text, "Type"⟩,
        ⟨2, 0, .text, "id"⟩, ⟨2, 1, .text, "int"⟩]
      [⟨0, 1, .text, "orders"⟩, ⟨1, 1, .text, "COLUMN"⟩, ⟨1, 0, .text, " type"⟩,
        ⟨2, 1, .text, "id"⟩, ⟨2, 0, .text, "int"⟩] := by
    refine .cons (.above (by decide)) ?_
    refine .cons (.header rfl rfl (by decide) (by decide +kernel)) ?_
    refine .cons (.header rfl rfl (by decide) (by decide +kernel)) ?_
    refine .cons (.below (by decide)) ?_
    exact .cons (.below (by decide)) .nil
  exact .intro "shop.ods" "Sheet1" (Equiv.swap 0 1) (by decide) (by decide +kernel) hmoves
    (by decide)

lemma records_orders :
    ({} : Layout).records orders = [⟨2, [("column", .text "id"), ("type", .text "int")]⟩] := by
  have hheaders : ({} : Layout).headers orders = [(0, "column"), (1, "type")] := by
    rw [Layout.headers, Sheet.row_of_pairwise (by decide +kernel)]
    decide +kernel
  rw [Layout.records, hheaders]
  decide +kernel

theorem assemble_orders :
    IsRearranged {} orders ordersRearranged ∧
      (∃ field, (assemble {} [orders]).tables = [⟨"orders", [field]⟩] ∧
        field.name = "id" ∧ field.type = .number) ∧
      assemble? {} [orders] = .ok (assemble {} [orders]) ∧
      assemble? {} [ordersRearranged] = .ok (assemble {} [orders]) := by
  have hname : ({} : Options).layout.tableNameRow < ({} : Options).layout.headerRow := by decide
  have hheader : ({} : Options).layout.headerRow + 1 < wordLimit := by decide
  have htables : (assemble {} [orders]).tables =
      [⟨"orders", [Record.toField ⟨2, [("column", .text "id"), ("type", .text "int")]⟩]⟩] := by
    rw [tables_assemble, List.flatMap_singleton, ofSheet_of_ne_nil, records_orders]
    · decide +kernel
    · rw [records_orders]
      exact List.cons_ne_nil _ _
  obtain ⟨-, heq, hread⟩ := assemble_eq_of_isRearranged hname (.cons isRearranged_orders .nil)
  rw [if_pos (Or.inr hheader)] at hread
  exact ⟨isRearranged_orders, ⟨_, htables, by decide +kernel, by decide +kernel⟩, hread,
    heq.symm.trans hread⟩

/-- A layout with its headers in the last row that a word tells. -/
def lastRow : Layout := { headerRow := wordLimit - 1 }

/-- A sheet with its header in the last row. -/
def codes : Sheet := (Sheet.new "shop.ods" "codes").pushAll [
  ⟨5, 0, .text, "id"⟩, ⟨5, 1, .text, "code"⟩, ⟨wordLimit - 1, 0, .text, "Column"⟩]

/-- The sheet with its header in the other column. -/
def codesRearranged : Sheet := (Sheet.new "shop.ods" "codes").pushAll [
  ⟨5, 0, .text, "id"⟩, ⟨5, 1, .text, "code"⟩, ⟨wordLimit - 1, 1, .text, "Column"⟩]

lemma isRearranged_codes : IsRearranged lastRow codes codesRearranged := by
  refine .intro "shop.ods" "codes" (Equiv.swap 0 1) (by decide) (by decide +kernel) ?_ (.refl _)
  refine .cons (.above (by decide)) ?_
  refine .cons (.above (by decide)) ?_
  exact .cons (.header rfl rfl (by decide) (by decide +kernel)) .nil

/-- Behind headers in the last row there is none to read on from: neither sheet is assembled. -/
theorem assemble?_codes :
    lastRow.tableNameRow < lastRow.headerRow ∧ lastRow.headerRow < wordLimit ∧
      IsRearranged lastRow codes codesRearranged ∧
      assemble? { layout := lastRow } [codes] = .error .overflow ∧
      assemble? { layout := lastRow } [codesRearranged] = .error .overflow := by
  have hlast (sheet : Sheet) : assemble? { layout := lastRow } [sheet] = .error .overflow := by
    have hnone : ¬lastRow.headerRow + 1 < wordLimit := by decide
    rw [assemble?_eq, if_neg (not_or.mpr ⟨List.cons_ne_nil _ _, hnone⟩)]
  exact ⟨by decide, by decide, isRearranged_codes, hlast codes, hlast codesRearranged⟩

end Extraction

end DataDictionary
