import DataDictionary.Listing.Scan
import Mathlib.Data.List.Basic
import Mathlib.Logic.Function.Iterate

/-!
# What a scan hands out

The calls of a scan take turns at the rows of a listing, in the order in which they move the
cursor. Whichever threads they belong to, and however these are scheduled, a call writes the rows
of its turn and no others, so that the listing has been handed out once when the first call finds
nothing, and every call behind that one finds nothing either.
-/

namespace DataDictionary.Listing

open Text

/-! ### Rows -/

lemma length_of_mem_rows {tables : List Table} {r : Row} (h : r ∈ rows tables) :
    r.length = Column.all.length := by
  obtain ⟨table, -, htable⟩ := List.mem_flatMap.mp h
  obtain ⟨field, -, rfl⟩ := List.mem_map.mp htable
  exact List.length_map _

/-- Tables are selected where none is named, or one has the name. -/
lemma selectTables_eq_ok {file : String} {tables : List Table} {name? : Option String}
    (h : ∀ name ∈ name?, ∃ table ∈ tables, sameAscii table.name.toList name.toList = true) :
    selectTables file tables name? =
      .ok (tables.filter fun table =>
        name?.all fun name => sameAscii table.name.toList name.toList) := by
  cases name? with
  | none => simp [selectTables]
  | some name =>
    obtain ⟨table, htable, hname⟩ := h name rfl
    rw [selectTables]
    split
    · next hnil => exact absurd hname (List.filter_eq_nil_iff.mp hnil table htable)
    · rfl

/-! ### Turns -/

/-- The rows of a turn. -/
def turn (rows : List Row) (i : Nat) : List Row :=
  rows.extract (chunkSize * i) (min rows.length (chunkSize * (i + 1)))

lemma turn_eq (rows : List Row) (i : Nat) :
    turn rows i = (rows.drop (chunkSize * i)).take chunkSize := by
  rw [turn, List.extract_eq_take_drop, List.take_eq_take_iff, List.length_drop, Nat.mul_succ]
  omega

lemma length_turn (rows : List Row) (i : Nat) :
    (turn rows i).length = min chunkSize (rows.length - chunkSize * i) := by
  rw [turn_eq, List.length_take, List.length_drop]

/-- A turn takes up where the rows before it end. -/
lemma take_append_turn (rows : List Row) (i : Nat) :
    rows.take (chunkSize * i) ++ turn rows i = rows.take (chunkSize * (i + 1)) := by
  rw [turn_eq, Nat.mul_succ, List.take_add]

lemma mem_of_mem_part {rows : List Row} {lower : Nat} {r : Row} (h : r ∈ part rows lower) :
    r ∈ rows := by
  rw [part, List.extract_eq_take_drop] at h
  exact List.mem_of_mem_drop (List.mem_of_mem_take h)

/-- Behind the rows there is nothing. -/
lemma part_of_length_le {rows : List Row} {lower : Nat} (h : rows.length ≤ lower) :
    part rows lower = [] := by
  rw [part, List.extract_eq_take_drop, List.drop_of_length_le h, List.take_nil]

/-- The rows of a part whose end a word can tell. -/
lemma part_eq {rows : List Row} {lower : Nat} (h : lower + chunkSize < wordLimit) :
    part rows lower = (rows.drop lower).take chunkSize := by
  have hupper : saturatingAdd lower chunkSize = lower + chunkSize := by
    rw [saturatingAdd]
    omega
  rw [part, hupper, List.extract_eq_take_drop, List.take_eq_take_iff, List.length_drop]
  omega

/-- What a call hands out whose turn a word can tell. -/
lemma part_eq_turn {rows : List Row} {i : Nat} (h : chunkSize * (i + 1) < wordLimit) :
    part rows (chunkSize * i % wordLimit) = turn rows i := by
  rw [Nat.mul_succ] at h
  rw [Nat.mod_eq_of_lt (Nat.lt_of_le_of_lt (Nat.le_add_right ..) h), part_eq h, turn_eq]

/-! ### Calls -/

namespace Call

/-- The call hands out the rows from `lower` on, and has written its columns from the first. -/
structure IsAt (rows : List Row) (lower : Nat) (call : Call) : Prop where
  lower_eq : call.lower = lower
  size_eq : call.chunk.size = (part rows lower).length
  columns_eq : call.chunk.columns =
    (List.range call.chunk.columns.length).map (column (part rows lower))
  columns_le : call.chunk.columns.length ≤ Column.all.length

lemma isAt_start (rows : List Row) (lower : Nat) : (start rows lower).IsAt rows lower where
  lower_eq := rfl
  size_eq := rfl
  columns_eq := rfl
  columns_le := Nat.zero_le _

/-- A column is written behind those before it. -/
lemma IsAt.step {rows : List Row} {lower : Nat} {call : Call} (h : call.IsAt rows lower) :
    (call.step rows).IsAt rows lower := by
  rw [Call.step]
  split
  · exact h
  · next hdone =>
    have hlt : call.chunk.columns.length < Column.all.length := by
      simp only [isDone, Bool.or_eq_true, decide_eq_true_eq, not_or, Nat.not_le] at hdone
      exact hdone.2
    refine ⟨h.lower_eq, h.size_eq, ?_, ?_⟩
    · simp only [List.length_append, List.length_singleton, List.range_succ, List.map_append,
        List.map_singleton, ← h.columns_eq, h.lower_eq]
    · rw [List.length_append, List.length_singleton]
      exact hlt

/-- The call hands out these rows and no others. -/
structure HandsOut (call : Call) (part : List Row) : Prop where
  size_eq : call.chunk.size = part.length
  rows_eq : call.isDone = true → call.chunk.rows = part
  /-- Each value is that of its row and column. -/
  value?_eq : call.isDone = true → ∀ (r : Nat) (row : Row), part[r]? = some row →
    ∀ c, call.chunk.value? r c = row[c]?

variable {rows : List Row} {lower : Nat} {call : Call}

/-- A call that is done has written every column, if there is a row. -/
lemma IsAt.columns_of_isDone (h : call.IsAt rows lower) (hdone : call.isDone = true)
    (hrows : part rows lower ≠ []) :
    call.chunk.columns = (List.range Column.all.length).map (column (part rows lower)) := by
  have hsize : call.chunk.size ≠ 0 := by
    rw [h.size_eq]
    exact mt List.eq_nil_of_length_eq_zero hrows
  have hge : Column.all.length ≤ call.chunk.columns.length := by
    simpa [isDone, hsize] using hdone
  rw [← Nat.le_antisymm h.columns_le hge]
  exact h.columns_eq

lemma getD_column {part : List Row} {r : Nat} (h : r < part.length) (c : Nat) :
    (column part c).getD r .null = part[r].getD c .null := by
  simp [column, Array.getD_eq_getD_getElem?, h]

lemma map_getD_range (r : Row) :
    (List.range r.length).map (fun c => r.getD c .null) = r := by
  refine List.ext_getElem (by simp) ?_
  intro c _ hc
  simp [List.getD_eq_getElem?_getD, hc]

/-- Where every row has a value for each column, a call hands out the rows that it is at. -/
lemma IsAt.handsOut (h : call.IsAt rows lower)
    (hlength : ∀ r ∈ rows, r.length = Column.all.length) :
    call.HandsOut (part rows lower) where
  size_eq := h.size_eq
  rows_eq := by
    intro hdone
    rw [Chunk.rows, h.size_eq]
    by_cases hrows : part rows lower = []
    · rw [hrows]
      rfl
    refine List.ext_getElem (by simp) ?_
    intro r _ hr
    rw [List.getElem_map, List.getElem_range, h.columns_of_isDone hdone hrows, List.map_map]
    calc (List.range Column.all.length).map ((·.getD r .null) ∘ column (part rows lower))
        = (List.range Column.all.length).map fun c => (part rows lower)[r].getD c .null :=
          List.map_congr_left fun c _ => getD_column hr c
      _ = (part rows lower)[r] := by
          rw [← hlength _ (mem_of_mem_part (List.getElem_mem hr))]
          exact map_getD_range _
  value?_eq := by
    intro hdone r row hrow c
    have hrows : part rows lower ≠ [] := List.ne_nil_of_mem (List.mem_of_getElem? hrow)
    have hcols := hlength row (mem_of_mem_part (List.mem_of_getElem? hrow))
    rw [Chunk.value?, h.columns_of_isDone hdone hrows, List.getElem?_map]
    by_cases hc : c < Column.all.length
    · simp [hc, column, hrow, hcols, List.getD_eq_getElem?_getD]
    · simp [hc, hcols]

/-! ### Progress -/

/-- A call is done, or has written a column in each of its steps. -/
lemma isDone_or_le_iterate (rows : List Row) (call : Call) (n : Nat) :
    ((Call.step rows)^[n] call).isDone = true ∨
      call.chunk.columns.length + n ≤ ((Call.step rows)^[n] call).chunk.columns.length := by
  induction n with
  | zero => exact .inr (Nat.le_refl _)
  | succ n ih =>
    rw [Function.iterate_succ_apply']
    generalize (Call.step rows)^[n] call = reached at ih
    cases hdone : reached.isDone with
    | true =>
      left
      rw [Call.step, if_pos hdone]
      exact hdone
    | false =>
      right
      have hle := ih.resolve_left (by simp [hdone])
      rw [Call.step, hdone]
      simp only [Bool.false_eq_true, if_false, List.length_append, List.length_singleton]
      omega

/-- As many steps as there are columns end a call. -/
lemma isDone_iterate (rows : List Row) (call : Call) {n : Nat} (h : Column.all.length ≤ n) :
    ((Call.step rows)^[n] call).isDone = true := by
  rcases isDone_or_le_iterate rows call n with hdone | hle
  · exact hdone
  · rw [isDone, Bool.or_eq_true, decide_eq_true_eq]
    exact .inr (by omega)

lemma IsAt.iterate (h : call.IsAt rows lower) (n : Nat) :
    ((Call.step rows)^[n] call).IsAt rows lower := by
  induction n generalizing call with
  | zero => exact h
  | succ n ih => exact ih h.step

end Call

/-! ### Chunks -/

namespace Cursor

variable {rows : List Row}

lemma repeat_step (rows : List Row) (call : Call) (n : Nat) :
    Nat.repeat (Call.step rows) n call = (Call.step rows)^[n] call := by
  induction n with
  | zero => rfl
  | succ n ih => rw [Nat.repeat, ih, Function.iterate_succ_apply']

/-- A chunk is written by a call that is done. -/
lemma rows_take (hlength : ∀ r ∈ rows, r.length = Column.all.length) (cursor : Cursor) :
    (cursor.take rows).1.rows = part rows cursor.next := by
  have hchunk : (cursor.take rows).1 =
      ((Call.step rows)^[Column.all.length] (.start rows cursor.next)).chunk := by
    rw [take, repeat_step]
  have hisAt := (Call.isAt_start rows cursor.next).iterate Column.all.length
  have hdone := Call.isDone_iterate rows (.start rows cursor.next) (Nat.le_refl Column.all.length)
  rw [hchunk, (hisAt.handsOut hlength).rows_eq hdone]

/-- The chunks from a cursor on hold the rows behind it. -/
lemma flatten_map_rows_chunks (hlength : ∀ r ∈ rows, r.length = Column.all.length)
    (hcount : rows.length + chunkSize < wordLimit) (cursor : Cursor) :
    ((cursor.chunks rows).map Chunk.rows).flatten = rows.drop cursor.next := by
  induction cursor using chunks.induct rows with
  | case1 cursor hnext ih =>
    have htake : (cursor.take rows).2.next = cursor.next + chunkSize := Nat.mod_eq_of_lt hnext.2
    rw [chunks, if_pos hnext, List.map_cons, List.flatten_cons, ih, htake, rows_take hlength,
      part_eq hnext.2, ← List.drop_drop, List.take_append_drop]
  | case2 cursor hend =>
    have hle : rows.length ≤ cursor.next := by omega
    rw [chunks, if_neg hend, List.map_singleton, List.flatten_singleton, rows_take hlength,
      part_of_length_le hle, List.drop_of_length_le hle]

end Cursor

/-! ### Scans -/

namespace Scan

section

variable (rows : List Row)

/-- The cursor counts the calls, and each call is at its turn. -/
structure IsSound (scan : Scan) : Prop where
  next_eq : scan.cursor.next = chunkSize * scan.calls.length % wordLimit
  isAt : ∀ (i : Nat) (owner : Thread) (call : Call), scan.calls[i]? = some (owner, call) →
    call.IsAt rows (chunkSize * i % wordLimit)

/-- Where a thread acts, its call goes on, and those of the others stay as they are. -/
lemma getElem?_step {scan : Scan} {i : Nat} {owner : Thread} {call : Call}
    (h : scan.calls[i]? = some (owner, call)) (thread : Thread) :
    (scan.step rows thread).calls[i]? =
      some (owner, if owner = thread then call.step rows else call) := by
  rw [step]
  split
  · simp [h]
  · next hbusy =>
    obtain ⟨hi, -⟩ := List.getElem?_eq_some_iff.mp h
    rw [List.getElem?_append_left hi, h]
    split
    · next howner =>
      -- a thread that is not busy has ended its calls
      have hdone : call.isDone = true := by
        by_contra hopen
        refine hbusy (List.any_eq_true.mpr ⟨(owner, call), List.mem_of_getElem? h, ?_⟩)
        simp [howner, Bool.of_not_eq_true hopen]
      rw [Call.step, if_pos hdone]
    · rfl

variable {rows}

lemma IsSound.step {scan : Scan} (h : scan.IsSound rows) (thread : Thread) :
    (scan.step rows thread).IsSound rows := by
  rw [Scan.step]
  split
  · constructor
    · simp only [List.length_map]
      exact h.next_eq
    · intro i owner call hcall
      rw [List.getElem?_map] at hcall
      obtain ⟨⟨owner', before⟩, hbefore, heq⟩ := Option.map_eq_some_iff.mp hcall
      obtain ⟨-, rfl⟩ := Prod.mk.inj heq
      have hisAt := h.isAt i owner' before hbefore
      split
      · exact hisAt.step
      · exact hisAt
  · constructor
    · simp only [List.length_append, List.length_singleton]
      rw [Cursor.advance, h.next_eq, Nat.mod_add_mod, Nat.mul_succ]
    · intro i owner call hcall
      rw [List.getElem?_append] at hcall
      split at hcall
      · exact h.isAt i owner call hcall
      · next hi =>
        have hi' : i = scan.calls.length := by
          obtain ⟨hlast, -⟩ := List.getElem?_eq_some_iff.mp hcall
          rw [List.length_singleton] at hlast
          omega
        rw [hi', Nat.sub_self] at hcall
        obtain ⟨-, rfl⟩ := Prod.mk.inj (Option.some.inj hcall)
        rw [h.next_eq, hi']
        exact Call.isAt_start rows _

lemma isSound_resume {scan : Scan} (h : scan.IsSound rows) (schedule : List Thread) :
    (scan.resume rows schedule).IsSound rows := by
  induction schedule generalizing scan with
  | nil => exact h
  | cons thread schedule ih => exact ih (h.step thread)

lemma isSound_run (schedule : List Thread) : (run rows schedule).IsSound rows :=
  isSound_resume ⟨rfl, fun _ _ _ h => absurd h (by simp)⟩ schedule

/-- A call makes one step for each time that its thread acts. -/
lemma getElem?_resume {scan : Scan} {i : Nat} {owner : Thread} {call : Call}
    (h : scan.calls[i]? = some (owner, call)) (schedule : List Thread) :
    (scan.resume rows schedule).calls[i]? =
      some (owner, (Call.step rows)^[schedule.count owner] call) := by
  induction schedule generalizing scan call with
  | nil => exact h
  | cons thread schedule ih =>
    have hnext := ih (getElem?_step rows h thread)
    by_cases howner : owner = thread
    · subst howner
      rw [List.count_cons_self, Function.iterate_succ_apply]
      rwa [if_pos rfl] at hnext
    · rw [List.count_cons_of_ne (Ne.symm howner)]
      rwa [if_neg howner] at hnext

end

/-! ### What is handed out -/

/-- What a scan has handed out. Turns go by the order in which the calls moved the cursor. -/
structure Emits (scan : Scan) (rows : List Row) : Prop where
  /-- A call hands out the rows of its turn. -/
  handsOut : ∀ (i : Nat) (owner : Thread) (call : Call), scan.calls[i]? = some (owner, call) →
    call.HandsOut (rows.extract (2048 * i) (min rows.length (2048 * (i + 1))))
  size_le : ∀ (i : Nat) (owner : Thread) (call : Call), scan.calls[i]? = some (owner, call) →
    call.chunk.size ≤ 2048
  /-- A call is done once its thread has acted often enough, whatever the others do. -/
  isDone_resume : ∀ (i : Nat) (owner : Thread) (call : Call),
    scan.calls[i]? = some (owner, call) →
    ∀ schedule : List Thread, Column.all.length ≤ schedule.count owner →
    ∃ ended : Call, (scan.resume rows schedule).calls[i]? = some (owner, ended) ∧
      ended.isDone = true
  /-- The calls before an empty one have handed out every row once, in order. -/
  rows_before_empty : ∀ (k : Nat) (owner : Thread) (call : Call),
    scan.calls[k]? = some (owner, call) → call.chunk.size = 0 →
    (∀ entry ∈ scan.calls.take k, entry.2.isDone = true) →
    (scan.calls.take k).flatMap (fun entry => entry.2.chunk.rows) = rows
  /-- The calls behind an empty one are empty. -/
  size_behind_empty : ∀ (k : Nat) (owner : Thread) (call : Call),
    scan.calls[k]? = some (owner, call) → call.chunk.size = 0 →
    ∀ (i : Nat) (owner' : Thread) (call' : Call), k ≤ i →
      scan.calls[i]? = some (owner', call') → call'.chunk.size = 0

section

variable {rows : List Row} {scan : Scan}

/-- As long as a word can count the rows of all turns, each call is at the rows of its own. -/
lemma part_eq_turn_of_call (h : scan.calls.length < Nat.pow 2 53) {i : Nat} {entry : Thread × Call}
    (hcall : scan.calls[i]? = some entry) :
    part rows (chunkSize * i % wordLimit) = turn rows i := by
  obtain ⟨hi, -⟩ := List.getElem?_eq_some_iff.mp hcall
  refine part_eq_turn (Nat.lt_of_le_of_lt (Nat.mul_le_mul_left _ hi) ?_)
  calc chunkSize * scan.calls.length < chunkSize * Nat.pow 2 53 :=
        Nat.mul_lt_mul_of_pos_left h (by decide)
    _ = wordLimit := by decide

lemma IsSound.handsOut (h : scan.IsSound rows) (hcalls : scan.calls.length < Nat.pow 2 53)
    (hlength : ∀ r ∈ rows, r.length = Column.all.length) {i : Nat} {owner : Thread} {call : Call}
    (hcall : scan.calls[i]? = some (owner, call)) : call.HandsOut (turn rows i) := by
  rw [← part_eq_turn_of_call hcalls hcall]
  exact (h.isAt i owner call hcall).handsOut hlength

/-- The calls before a turn have handed out the rows before it. -/
lemma flatMap_rows_take (h : ∀ (i : Nat) (owner : Thread) (call : Call),
      scan.calls[i]? = some (owner, call) → call.HandsOut (turn rows i))
    {k : Nat} (hk : k ≤ scan.calls.length)
    (hdone : ∀ entry ∈ scan.calls.take k, entry.2.isDone = true) :
    (scan.calls.take k).flatMap (fun entry => entry.2.chunk.rows) = rows.take (chunkSize * k) := by
  induction k with
  | zero => simp
  | succ k ih =>
    obtain ⟨⟨owner, call⟩, hcall⟩ : ∃ entry, scan.calls[k]? = some entry :=
      ⟨_, List.getElem?_eq_getElem hk⟩
    rw [List.take_add_one, hcall, Option.toList_some] at hdone ⊢
    have hbefore := ih (Nat.le_of_succ_le hk)
      fun entry hentry => hdone entry (List.mem_append_left _ hentry)
    have hturn := (h k owner call hcall).rows_eq
      (hdone _ (List.mem_append_right _ (List.mem_singleton_self _)))
    rw [List.flatMap_append, hbefore, List.flatMap_singleton, hturn, take_append_turn]

/-- The rows end before a turn that has none. -/
lemma length_le_of_turn_empty {k : Nat} (h : (turn rows k).length = 0) :
    rows.length ≤ chunkSize * k := by
  have hpos : 0 < chunkSize := by decide
  rw [length_turn] at h
  omega

lemma emits_of_isSound (h : scan.IsSound rows) (hcalls : scan.calls.length < Nat.pow 2 53)
    (hlength : ∀ r ∈ rows, r.length = Column.all.length) : scan.Emits rows where
  handsOut i owner call hcall := h.handsOut hcalls hlength hcall
  size_le i owner call hcall := by
    rw [(h.handsOut hcalls hlength hcall).size_eq, length_turn]
    exact Nat.min_le_left ..
  isDone_resume i owner call hcall schedule hcount :=
    ⟨_, getElem?_resume hcall schedule, Call.isDone_iterate rows call hcount⟩
  rows_before_empty k owner call hcall hempty hdone := by
    obtain ⟨hk, -⟩ := List.getElem?_eq_some_iff.mp hcall
    have hend : rows.length ≤ chunkSize * k :=
      length_le_of_turn_empty ((h.handsOut hcalls hlength hcall).size_eq ▸ hempty)
    rw [flatMap_rows_take (fun _ _ _ => h.handsOut hcalls hlength) (Nat.le_of_lt hk) hdone,
      List.take_of_length_le hend]
  size_behind_empty k owner call hcall hempty i owner' call' hi hcall' := by
    have hend : rows.length ≤ chunkSize * k :=
      length_le_of_turn_empty ((h.handsOut hcalls hlength hcall).size_eq ▸ hempty)
    have hend' : rows.length ≤ chunkSize * i := Nat.le_trans hend (Nat.mul_le_mul_left _ hi)
    rw [(h.handsOut hcalls hlength hcall').size_eq, length_turn]
    omega

end

end Scan

/-! ### Listings -/

lemma Scan.length_calls_step (rows : List Row) (scan : Scan) (thread : Thread) :
    (scan.step rows thread).calls.length ≤ scan.calls.length + 1 := by
  rw [step]
  split
  · rw [List.length_map]
    exact Nat.le_succ _
  · rw [List.length_append]
    exact Nat.le_refl _

/-- No more calls begin than threads act. -/
lemma Scan.length_calls_resume (rows : List Row) (scan : Scan) (schedule : List Thread) :
    (scan.resume rows schedule).calls.length ≤ scan.calls.length + schedule.length := by
  induction schedule generalizing scan with
  | nil => exact Nat.le_refl _
  | cons thread schedule ih =>
    have hstep := scan.length_calls_step rows thread
    have hresume := ih (scan.step rows thread)
    rw [resume, List.foldl_cons, ← resume, List.length_cons]
    omega

/-- The chunks of a listing hold its rows, as long as a word can count these. -/
theorem flatten_chunks {tables : List Table}
    (h : (rows tables).length + chunkSize < wordLimit) :
    (chunks (rows tables)).flatten = rows tables :=
  Cursor.flatten_map_rows_chunks (fun _ => length_of_mem_rows) h {}

/-- A table with two fields. -/
def customers : Table where
  name := "Customers"
  fields := [
    { name := "_id", type := .string, isPrimary := true,
      validation := .translate .string false none none none },
    { name := "state", type := .string, enumValues := some ["draft", "published"],
      validation := .translate .string false (some ["draft", "published"]) none none }]

/-- For any tables, and any name that is absent or that one of them has, the listing of the
selected tables is handed out as it is, whichever threads scan it in whatever order, as long as
their calls can be counted. -/
theorem selectTables_scan_emits (file : String) (tables : List Table) (parameter : Option String)
    (h : ∀ name ∈ given? parameter,
      ∃ table ∈ tables, sameAscii table.name.toList name.toList = true) :
    ∃ selected, selectTables file tables (given? parameter) = .ok selected ∧
      selected = (tables.filter fun table =>
        (given? parameter).all fun name => sameAscii table.name.toList name.toList) ∧
      ∀ schedule : List Thread, (Scan.run (rows selected) schedule).calls.length < Nat.pow 2 53 →
        (Scan.run (rows selected) schedule).Emits
          (selected.flatMap fun table => table.fields.map (row table)) := by
  refine ⟨_, selectTables_eq_ok h, rfl, ?_⟩
  intro schedule hcalls
  exact Scan.emits_of_isSound (Scan.isSound_run schedule) hcalls fun r => length_of_mem_rows

/-- Two threads scan the fields of one table. -/
theorem selectTables_scan_emits_customers :
    (∀ name ∈ given? (some " CUSTOMERS "),
      ∃ table ∈ [customers], sameAscii table.name.toList name.toList = true) ∧
    ∃ selected, selectTables "shop.xlsx" [customers] (given? (some " CUSTOMERS ")) = .ok selected ∧
      (Scan.run (rows selected) [0, 1, 0, 0, 1]).calls.length < Nat.pow 2 53 ∧
      (Scan.run (rows selected) [0, 1, 0, 0, 1]).Emits
        (selected.flatMap fun table => table.fields.map (row table)) := by
  have hgiven : given? (some " CUSTOMERS ") = some "CUSTOMERS" := by decide +kernel
  have hname : ∀ name ∈ given? (some " CUSTOMERS "),
      ∃ table ∈ [customers], sameAscii table.name.toList name.toList = true := by
    intro name hmem
    rw [hgiven, Option.mem_some_iff] at hmem
    subst hmem
    exact ⟨customers, List.mem_singleton_self _, by decide⟩
  obtain ⟨selected, hselected, -, hemits⟩ :=
    selectTables_scan_emits "shop.xlsx" [customers] (some " CUSTOMERS ") hname
  have hcalls : (Scan.run (rows selected) [0, 1, 0, 0, 1]).calls.length < Nat.pow 2 53 :=
    Nat.lt_of_le_of_lt (Scan.length_calls_resume _ _ _) (by decide)
  exact ⟨hname, selected, hselected, hcalls, hemits _ hcalls⟩

end DataDictionary.Listing
