import DataDictionary.Proofs.Sheet
import DataDictionary.Proofs.Text.Whole
import DataDictionary.Workbook.Basic

/-!
# What an event does

Each reader takes a part event by event. What it can do to the sheet, and to the counters that say
where the next row and the next cell stand, is told here once: a run over a part keeps whatever
every such step keeps.
-/

namespace DataDictionary.Workbook

open Markup Text

/-! ### Runs over events -/

lemma bind_eq_ok {ε α β : Type} {x : Except ε α} {f : α → Except ε β} {result : β}
    (h : x >>= f = .ok result) : ∃ value, x = .ok value ∧ f value = .ok result := by
  cases x with
  | error error => exact absurd h (by simp [bind, Except.bind])
  | ok value => exact ⟨value, rfl, h⟩

/-- A computation fails in one way only if its parts do. -/
lemma bind_ne_error {ε α β : Type} {x : Except ε α} {f : α → Except ε β} {error : ε}
    (hx : x ≠ .error error) (hf : ∀ value, f value ≠ .error error) : x >>= f ≠ .error error := by
  cases x with
  | error other => exact fun h => hx (congrArg Except.error (Except.error.inj h))
  | ok value => exact hf value

lemma map_eq_ok {ε α β : Type} {x : Except ε α} {f : α → β} {result : β}
    (h : x.map f = .ok result) : ∃ value, x = .ok value ∧ f value = result := by
  cases x with
  | error error => exact absurd h (by simp [Except.map])
  | ok value => exact ⟨value, rfl, Except.ok.inj h⟩

lemma ofMarkup_eq_ok {α : Type} {x : Except Markup.Error α} {value : α}
    (h : ofMarkup x = .ok value) : x = .ok value := by
  cases x with
  | error error => exact absurd h (by simp [ofMarkup])
  | ok other =>
    obtain rfl := Except.ok.inj h
    rfl

lemma ofMarkup_ne_overflow {α : Type} (x : Except Markup.Error α) :
    ofMarkup x ≠ .error .overflow := by
  cases x <;> simp [ofMarkup]

lemma goOn_ne_overflow {σ : Type} (keep : String → σ) (pushed : String × Except Markup.Error Unit) :
    goOn keep pushed ≠ .error .overflow := by
  obtain ⟨text, error | -⟩ := pushed <;> simp

lemma goOn_eq_ok {σ : Type} {keep : String → σ} {text : String}
    {content : Except Markup.Error String} {next : σ}
    (h : goOn keep (pushContent text content) = .ok next) :
    ∃ s, content = .ok s ∧ next = keep (text ++ s) := by
  cases content with
  | error error => exact absurd h (by simp)
  | ok s => exact ⟨s, rfl, (Except.ok.inj h).symm⟩

lemma ofWord_eq_ok {α : Type} {x : Option α} {value : α} (h : ofWord x = .ok value) :
    x = some value := by
  cases x with
  | none => exact absurd h (by simp [ofWord])
  | some other =>
    obtain rfl := Except.ok.inj h
    rfl

/-- Spaces are a text as long as a text can hold them. -/
lemma ofWord_spaces? (n : Nat) :
    ofWord (spaces? n) =
      if n < textLimit then .ok (String.ofList (List.replicate n ' ')) else .error .overflow := by
  rw [spaces?]
  split <;> rfl

/-- The text of an attribute, if the tag has it and it can be read. -/
def given? (tag : Tag) (name : String) : Option String := (tag.attribute? name).toOption.join

lemma given?_of_ok {tag : Tag} {name : String} {value : Option String}
    (h : tag.attribute? name = .ok value) : given? tag name = value := by
  rw [given?, h]
  cases value <;> rfl

lemma is_eq_false {name : Name} {s t : String} (h : name.is s = true)
    (hne : bytesOf s ≠ bytesOf t) : name.is t = false := by
  rw [Name.is, beq_iff_eq] at h
  rw [Name.is, h, beq_eq_false_iff_ne]
  exact hne

lemma mapM_congr {α β ε : Type} {f g : α → Except ε β} {l : List α} (h : ∀ a ∈ l, f a = g a) :
    l.mapM f = l.mapM g := by
  induction l with
  | nil => rfl
  | cons a l ih =>
    rw [List.forall_mem_cons] at h
    rw [List.mapM_cons, List.mapM_cons, h.1, ih h.2]

/-- A run over items gives a result for each of them. -/
lemma mapM_eq_ok_iff {α β ε : Type} {f : α → Except ε β} {l : List α} {results : List β} :
    l.mapM f = .ok results ↔ List.Forall₂ (fun a b => f a = .ok b) l results := by
  induction l generalizing results with
  | nil =>
    rw [List.mapM_nil, List.forall₂_nil_left_iff]
    exact ⟨fun h => (Except.ok.inj h).symm, fun h => congrArg Except.ok h.symm⟩
  | cons a l ih =>
    rw [List.mapM_cons]
    constructor
    · intro h
      obtain ⟨b, hb, h⟩ := bind_eq_ok h
      obtain ⟨rest, hrest, h⟩ := bind_eq_ok h
      obtain rfl := Except.ok.inj h
      exact .cons hb (ih.mp hrest)
    · rintro (_ | ⟨hb, hrest⟩)
      rw [hb, ih.mpr hrest]
      rfl

/-- What every result has of its item is what the results have of the items. -/
lemma map_of_mapM {α β γ ε : Type} {f : α → Except ε β} {g : α → γ} {k : β → γ}
    (hf : ∀ a b, f a = .ok b → k b = g a) {l : List α} {results : List β}
    (h : l.mapM f = .ok results) : results.map k = l.map g := by
  rw [mapM_eq_ok_iff] at h
  induction h with
  | nil => rfl
  | cons hab _ ih => rw [List.map_cons, List.map_cons, hf _ _ hab, ih]

/-- Every result is that of some item. -/
lemma exists_of_mem_mapM {α β ε : Type} {f : α → Except ε β} {l : List α} {results : List β}
    (h : l.mapM f = .ok results) {b : β} (hb : b ∈ results) : ∃ a ∈ l, f a = .ok b := by
  rw [mapM_eq_ok_iff] at h
  induction h with
  | nil => exact absurd hb List.not_mem_nil
  | cons hab _ ih =>
    rcases List.mem_cons.mp hb with rfl | hb
    · exact ⟨_, List.mem_cons_self .., hab⟩
    · obtain ⟨a, ha, hab⟩ := ih hb
      exact ⟨a, List.mem_cons_of_mem _ ha, hab⟩

section Fold

variable {σ : Type} {step : σ → Event → Except Error σ}

lemma foldlM_append_eq_ok {state last : σ} {events more : List Event}
    (h : (events ++ more).foldlM step state = .ok last) :
    ∃ middle, events.foldlM step state = .ok middle ∧ more.foldlM step middle = .ok last := by
  rw [List.foldlM_append] at h
  exact bind_eq_ok h

lemma foldDocument_eq_ok {state last : σ} {document : Document}
    (h : foldDocument step state document = .ok last) :
    document.events.foldlM step state = .ok last ∧ document.error = none := by
  rw [foldDocument] at h
  split at h
  · exact absurd h (by simp)
  · next hfold =>
    split at h
    · exact absurd h (by simp)
    · next herror =>
      obtain rfl := Except.ok.inj h
      exact ⟨hfold, herror⟩

/-- A run fails where one of its steps does, behind those that succeed. -/
lemma foldlM_eq_error_iff {state : σ} {events : List Event} {error : Error} :
    events.foldlM step state = .error error ↔
      ∃ before event behind middle, events = before ++ event :: behind ∧
        before.foldlM step state = .ok middle ∧ step middle event = .error error := by
  constructor
  · intro h
    induction events generalizing state with
    | nil => exact absurd h (by simp [pure, Except.pure])
    | cons event events ih =>
      rw [List.foldlM_cons] at h
      cases hstep : step state event with
      | error other =>
        rw [hstep] at h
        obtain rfl := Except.error.inj h
        exact ⟨[], event, events, state, rfl, rfl, hstep⟩
      | ok next =>
        rw [hstep] at h
        obtain ⟨before, faulty, behind, middle, rfl, hbefore, hfaulty⟩ := ih h
        refine ⟨event :: before, faulty, behind, middle, rfl, ?_, hfaulty⟩
        rw [List.foldlM_cons, hstep]
        exact hbefore
  · rintro ⟨before, event, behind, middle, rfl, hbefore, hfaulty⟩
    rw [List.foldlM_append, hbefore]
    show (event :: behind).foldlM step middle = _
    rw [List.foldlM_cons, hfaulty]
    rfl

/-- What every step keeps is kept by a run. -/
lemma foldlM_of_step {R : σ → σ → Prop} (hrefl : ∀ s, R s s)
    (htrans : ∀ s t u, R s t → R t u → R s u)
    (hstep : ∀ s event t, step s event = .ok t → R s t) {state last : σ} {events : List Event}
    (h : events.foldlM step state = .ok last) : R state last := by
  induction events generalizing state with
  | nil =>
    obtain rfl := Except.ok.inj h
    exact hrefl _
  | cons event events ih =>
    rw [List.foldlM_cons] at h
    obtain ⟨next, hnext, hlast⟩ := bind_eq_ok h
    exact htrans _ _ _ (hstep _ _ _ hnext) (ih hlast)

/-- Events that are all passed over leave the state as it is. -/
lemma foldlM_passed {state : σ} {events : List Event}
    (h : ∀ event ∈ events, step state event = .ok state) :
    events.foldlM step state = .ok state := by
  induction events with
  | nil => rfl
  | cons event events ih =>
    rw [List.forall_mem_cons] at h
    rw [List.foldlM_cons, h.1]
    exact ih h.2

/-- A run over an element is a step over its start, a run over its content and a step over its
end. -/
lemma foldlM_enclosed (state : σ) (first last : Event) (content : List Event) :
    (first :: content ++ [last]).foldlM step state = (do
      let begun ← step state first
      let read ← content.foldlM step begun
      step read last) := by
  simp only [List.cons_append, List.foldlM_cons, List.foldlM_append, List.foldlM_nil, bind_pure]

/-- A state that holds another one is led by the run over the other. -/
lemma foldlM_embedded {τ : Type} {outer : τ → Event → Except Error τ} (embed : σ → τ)
    {events : List Event}
    (h : ∀ event ∈ events, ∀ s, outer (embed s) event = (step s event).map embed) (state : σ) :
    events.foldlM outer (embed state) = (events.foldlM step state).map embed := by
  induction events generalizing state with
  | nil => rfl
  | cons event events ih =>
    rw [List.forall_mem_cons] at h
    rw [List.foldlM_cons, List.foldlM_cons, h.1]
    cases step state event with
    | error error => rfl
    | ok next => exact ih h.2 next

end Fold

/-! ### Worksheets -/

namespace OpenXml

/-- The counters of a worksheet and the position that is being read. -/
structure Counters where
  nextRow : Nat
  nextCol : Nat
  row : Nat
  col : Nat
deriving DecidableEq, Repr

namespace Cursor

lemma following_of_lt {n : Nat} (h : n + 1 < wordLimit) : following n = .ok (n + 1) := by
  rw [following, next?_of_lt h, ofWord]

lemma following_of_not_lt {n : Nat} (h : ¬n + 1 < wordLimit) : following n = .error .overflow := by
  rw [following, next?_eq_none_iff.mpr h, ofWord]

lemma following_eq_ok {n m : Nat} (h : following n = .ok m) : n + 1 < wordLimit ∧ n + 1 = m :=
  next?_eq_some_iff.mp (ofWord_eq_ok h)

/-- The counters of a cursor. -/
def counters (cursor : Cursor) : Counters :=
  ⟨cursor.nextRow, cursor.nextCol, cursor.row, cursor.col⟩

/-- The row of a row element: the one that it names, counted from one, or the next one. -/
def rowOf (cursor : Cursor) (number : Option Nat) : Nat :=
  match number with
  | some (n + 1) => n
  | _ => cursor.nextRow

/-- The position of a cell element: the one that it names, or the next one of the row. -/
def positionOf (cursor : Cursor) (reference : Option String) : Nat × Nat :=
  (reference.bind fun r => CellReference.read? r.toList).getD (cursor.row, cursor.nextCol)

/-- The reference of a cell that begins, which must leave a column behind the cell. -/
def referenceOf (cursor : Cursor) (tag : Tag) : Except Error (Option String) := do
  let reference ← ofMarkup (tag.attribute? "r")
  let _ ← following (cursor.positionOf reference).2
  .ok reference

lemma referenceOf_eq_ok {cursor : Cursor} {tag : Tag} {reference : Option String}
    (h : cursor.referenceOf tag = .ok reference) :
    tag.attribute? "r" = .ok reference ∧ (cursor.positionOf reference).2 + 1 < wordLimit := by
  rw [referenceOf] at h
  obtain ⟨other, hreference, h⟩ := bind_eq_ok h
  obtain ⟨nextCol, hnextCol, h⟩ := bind_eq_ok h
  obtain rfl := Except.ok.inj h
  exact ⟨ofMarkup_eq_ok hreference, (following_eq_ok hnextCol).1⟩

lemma referenceOf_of_lt {cursor : Cursor} {tag : Tag} {reference : Option String}
    (hreference : tag.attribute? "r" = .ok reference)
    (hlt : (cursor.positionOf reference).2 + 1 < wordLimit) :
    cursor.referenceOf tag = .ok reference := by
  rw [referenceOf, hreference]
  simp only [ofMarkup, bind, Except.bind, following_of_lt hlt]

/-- The cursor in a cell that has begun. -/
def inCell (cursor : Cursor) (reference : Option String) (kind : CellKind) : Cursor :=
  { cursor with
    row := (cursor.positionOf reference).1
    col := (cursor.positionOf reference).2
    nextCol := (cursor.positionOf reference).2 + 1
    kind
    value := "" }

@[simp] lemma collecting_inCell (cursor : Cursor) (reference : Option String) (kind : CellKind) :
    (cursor.inCell reference kind).collecting = cursor.collecting := rfl

/-- The kind of a cell that begins. -/
def kindOf (context : Context) (tag : Tag) : Except Error CellKind := do
  let type ← ofMarkup (tag.attribute? "t")
  if kindOfType type == .number then do
    let style ← ofMarkup (tag.count? "s")
    .ok ((style.bind (context.kinds[·]?)).getD .number)
  else .ok (kindOfType type)

/-- A cell begins with its reference, and then with its kind. -/
lemma startCell_eq (context : Context) (cursor : Cursor) (tag : Tag) :
    cursor.startCell context tag = (do
      let reference ← cursor.referenceOf tag
      let kind ← kindOf context tag
      .ok (cursor.inCell reference kind)) := by
  rw [startCell, referenceOf]
  cases tag.attribute? "r" with
  | error error => rfl
  | ok reference =>
    have hposition : (reference.bind fun r => CellReference.read? r.toList).getD
        (cursor.row, cursor.nextCol) = cursor.positionOf reference := rfl
    simp only [ofMarkup, bind, Except.bind, hposition]
    by_cases hlt : (cursor.positionOf reference).2 + 1 < wordLimit
    · simp only [following_of_lt hlt, kindOf, bind, Except.bind]
      cases tag.attribute? "t" with
      | error error => rfl
      | ok type =>
        simp only [ofMarkup]
        split
        · cases tag.count? "s" <;> rfl
        · rfl
    · simp only [following_of_not_lt hlt]

/-- What an event does to the counters and the sheet. -/
inductive Takes (cursor : Cursor) : Event → Cursor → Prop
  /-- The counters and the sheet stay. -/
  | stay {event : Event} {next : Cursor} (counters_eq : next.counters = cursor.counters)
      (sheet_eq : next.sheet = cursor.sheet) : Takes cursor event next
  /-- A row begins. -/
  | startRow {tag : Tag} {number : Option Nat} {next : Cursor} (name : tag.name.is "row" = true)
      (number_eq : tag.count? "r" = .ok number)
      (counters_eq : next.counters =
        { cursor.counters with row := cursor.rowOf number, nextCol := 0 })
      (sheet_eq : next.sheet = cursor.sheet) : Takes cursor (.start tag) next
  /-- A row ends. -/
  | endRow {name : Name} {next : Cursor} (row_lt : cursor.row + 1 < wordLimit)
      (counters_eq : next.counters = { cursor.counters with nextRow := cursor.row + 1 })
      (sheet_eq : next.sheet = cursor.sheet) : Takes cursor (.finish name) next
  /-- A cell begins. -/
  | startCell {tag : Tag} {reference : Option String} {next : Cursor}
      (name : tag.name.is "c" = true) (reference_eq : tag.attribute? "r" = .ok reference)
      (col_lt : (cursor.positionOf reference).2 + 1 < wordLimit)
      (counters_eq : next.counters =
        { cursor.counters with
          row := (cursor.positionOf reference).1
          col := (cursor.positionOf reference).2
          nextCol := (cursor.positionOf reference).2 + 1 })
      (sheet_eq : next.sheet = cursor.sheet) : Takes cursor (.start tag) next
  /-- A cell with a value ends and is put on the sheet. -/
  | endCell {name : Name} {next : Cursor} (kind : CellKind) (value : String)
      (counters_eq : next.counters = cursor.counters)
      (sheet_eq : next.sheet = cursor.sheet.push ⟨cursor.row, cursor.col, kind, value⟩) :
      Takes cursor (.finish name) next

variable {context : Context} {cursor next : Cursor}

lemma startRow_eq_ok {tag : Tag} (h : cursor.startRow tag = .ok next) :
    ∃ number, tag.count? "r" = .ok number ∧
      next = { cursor with row := cursor.rowOf number, nextCol := 0 } := by
  rw [Cursor.startRow] at h
  obtain ⟨number, hnumber, hnext⟩ := bind_eq_ok h
  exact ⟨number, ofMarkup_eq_ok hnumber, (Except.ok.inj hnext).symm⟩

lemma startCell_eq_ok {tag : Tag} (h : cursor.startCell context tag = .ok next) :
    ∃ reference kind, tag.attribute? "r" = .ok reference ∧
      (cursor.positionOf reference).2 + 1 < wordLimit ∧ kindOf context tag = .ok kind ∧
      next = cursor.inCell reference kind := by
  rw [startCell_eq] at h
  obtain ⟨reference, hreference, h⟩ := bind_eq_ok h
  obtain ⟨kind, hkind, h⟩ := bind_eq_ok h
  obtain ⟨hattribute, hlt⟩ := referenceOf_eq_ok hreference
  exact ⟨reference, kind, hattribute, hlt, hkind, (Except.ok.inj h).symm⟩

lemma endRow_eq_ok (h : cursor.endRow = .ok next) :
    cursor.row + 1 < wordLimit ∧ next = { cursor with nextRow := cursor.row + 1 } := by
  rw [Cursor.endRow] at h
  obtain ⟨nextRow, hnextRow, h⟩ := bind_eq_ok h
  obtain ⟨hlt, rfl⟩ := following_eq_ok hnextRow
  exact ⟨hlt, (Except.ok.inj h).symm⟩

lemma endCell_eq_ok (h : cursor.endCell context = .ok next) :
    (∃ value, next = { cursor with kind := .empty, value }) ∨
    ∃ kind value, next = { cursor with
      sheet := cursor.sheet.push ⟨cursor.row, cursor.col, kind, value⟩
      kind := .empty
      value := "" } := by
  rw [Cursor.endCell] at h
  obtain ⟨⟨kind, value⟩, -, h⟩ := bind_eq_ok h
  dsimp only at h
  split at h
  · exact .inl ⟨value, (Except.ok.inj h).symm⟩
  · exact .inr ⟨kind, value, (Except.ok.inj h).symm⟩

lemma endRow_of_lt (h : cursor.row + 1 < wordLimit) :
    cursor.endRow = .ok { cursor with nextRow := cursor.row + 1 } := by
  rw [Cursor.endRow, following_of_lt h]
  rfl

lemma takes_startRow {tag : Tag} (name : tag.name.is "row" = true)
    (h : cursor.startRow tag = .ok next) : cursor.Takes (.start tag) next := by
  obtain ⟨number, hnumber, rfl⟩ := startRow_eq_ok h
  exact .startRow name hnumber rfl rfl

lemma takes_startCell {tag : Tag} (name : tag.name.is "c" = true)
    (h : cursor.startCell context tag = .ok next) : cursor.Takes (.start tag) next := by
  obtain ⟨reference, kind, hreference, hlt, -, rfl⟩ := startCell_eq_ok h
  exact .startCell name hreference hlt rfl rfl

lemma takes_endRow {name : Name} (h : cursor.endRow = .ok next) :
    cursor.Takes (.finish name) next := by
  obtain ⟨hlt, rfl⟩ := endRow_eq_ok h
  exact .endRow hlt rfl rfl

lemma takes_endCell {name : Name} (h : cursor.endCell context = .ok next) :
    cursor.Takes (.finish name) next := by
  obtain ⟨value, rfl⟩ | ⟨kind, value, rfl⟩ := endCell_eq_ok h
  · exact .stay rfl rfl
  · exact .endCell kind value rfl rfl

/-- What a start tag outside the texts of cells does. -/
inductive Starts (context : Context) (cursor : Cursor) (tag : Tag) : Cursor → Prop
  | row {next : Cursor} (name : tag.name.is "row" = true)
      (step_eq : cursor.startRow tag = .ok next) : Starts context cursor tag next
  | cell {next : Cursor} (name : tag.name.is "c" = true)
      (step_eq : cursor.startCell context tag = .ok next) : Starts context cursor tag next
  /-- A text begins. -/
  | text {name : String} (item : ItemText) (mem : name ∈ ["is", "v"])
      (name_is : tag.name.is name = true) :
      Starts context cursor tag { cursor with collecting := some (name, item) }
  | passed (name_ne : ∀ name ∈ ["row", "c", "is", "v"], tag.name.is name = false) :
      Starts context cursor tag cursor

/-- What an end tag outside the texts of cells does. -/
inductive Finishes (context : Context) (cursor : Cursor) (name : Name) : Cursor → Prop
  | row {next : Cursor} (name_is : name.is "row" = true) (step_eq : cursor.endRow = .ok next) :
      Finishes context cursor name next
  | cell {next : Cursor} (name_is : name.is "c" = true)
      (step_eq : cursor.endCell context = .ok next) : Finishes context cursor name next
  | passed (name_ne : name.is "c" = false) : Finishes context cursor name cursor

lemma starts_of_stepOutside {tag : Tag} (h : cursor.stepOutside context (.start tag) = .ok next) :
    Starts context cursor tag next := by
  simp only [stepOutside] at h
  split at h
  · next hrow => exact .row hrow h
  next hrow =>
  split at h
  · next hcell => exact .cell hcell h
  next hcell =>
  split at h
  · next hinline =>
    obtain rfl := Except.ok.inj h
    exact .text .ofItem (by simp) hinline
  next hinline =>
  split at h
  · next hvalue =>
    obtain rfl := Except.ok.inj h
    exact .text .ofValue (by simp) hvalue
  · next hvalue =>
    obtain rfl := Except.ok.inj h
    exact .passed (by simp [hrow, hcell, hinline, hvalue])

lemma finishes_of_stepOutside {name : Name}
    (h : cursor.stepOutside context (.finish name) = .ok next) :
    Finishes context cursor name next := by
  simp only [stepOutside] at h
  split at h
  · next hrow => exact .row hrow h
  split at h
  · next hcell => exact .cell hcell h
  · next hcell =>
    obtain rfl := Except.ok.inj h
    exact .passed (Bool.eq_false_of_not_eq_true hcell)

lemma takes_stepOutside {event : Event} (h : cursor.stepOutside context event = .ok next) :
    cursor.Takes event next := by
  cases event with
  | start tag =>
    cases starts_of_stepOutside h with
    | row hname hstep => exact takes_startRow hname hstep
    | cell hname hstep => exact takes_startCell hname hstep
    | text | passed => exact .stay rfl rfl
  | finish name =>
    cases finishes_of_stepOutside h with
    | row _ hstep => exact takes_endRow hstep
    | cell _ hstep => exact takes_endCell hstep
    | passed => exact .stay rfl rfl
  | _ =>
    obtain rfl := Except.ok.inj h
    exact .stay rfl rfl

/-- Every step does one of these. -/
theorem takes_of_step {event : Event} (h : cursor.step context event = .ok next) :
    cursor.Takes event next := by
  rw [step] at h
  split at h
  · exact takes_stepOutside h
  · next name item _ =>
    split at h
    · obtain rfl := Except.ok.inj h
      exact .stay rfl rfl
    · obtain ⟨item, -, rfl⟩ := map_eq_ok h
      exact .stay rfl rfl

lemma name_of_takes {event : Event} (h : cursor.Takes event next) :
    next.sheet.name = cursor.sheet.name := by
  cases h with
  | stay _ hsheet | startRow _ _ _ hsheet | endRow _ _ hsheet | startCell _ _ _ _ hsheet =>
    rw [hsheet]
  | endCell _ _ _ hsheet => rw [hsheet, Sheet.name_push]

end Cursor

end OpenXml

/-! ### Tables -/

namespace OpenDocument

namespace Cursor

/-- What an event inside a table does to the position and the sheet. -/
inductive Takes (cursor : Cursor) : Event → Cursor → Prop
  /-- The position and the sheet stay. -/
  | stay {event : Event} {next : Cursor} (row_eq : next.row = cursor.row)
      (col_eq : next.col = cursor.col) (sheet_eq : next.sheet = cursor.sheet) :
      Takes cursor event next
  /-- A row begins. -/
  | startRow {tag : Tag} {next : Cursor} (row_eq : next.row = cursor.row) (col_eq : next.col = 0)
      (sheet_eq : next.sheet = cursor.sheet) : Takes cursor (.start tag) next
  /-- A row ends. -/
  | endRow {name : Name} {next : Cursor}
      (row_eq : next.row = Text.saturatingAdd cursor.row cursor.rowCount)
      (col_eq : next.col = cursor.col) (sheet_eq : next.sheet = cursor.sheet) :
      Takes cursor (.finish name) next
  /-- A cell ends; the cells that it stands for are put on the sheet. -/
  | endCell {name : Name} {next : Cursor} (row_eq : next.row = cursor.row)
      (col_eq : next.col = Text.saturatingAdd cursor.col cursor.colCount)
      (sheet_eq : next.sheet = cursor.sheet.pushAll cursor.cells) :
      Takes cursor (.finish name) next

variable {cursor next : Cursor}

lemma startRow_eq_ok {tag : Tag} (h : cursor.startRow tag = .ok next) :
    ∃ rowCount, next = { cursor with rowCount, col := 0 } := by
  rw [startRow] at h
  obtain ⟨count, -, h⟩ := bind_eq_ok h
  exact ⟨count.getD 1, (Except.ok.inj h).symm⟩

lemma startCell_eq_ok {tag : Tag} (h : cursor.startCell tag = .ok next) :
    ∃ colCount kind value inText,
      next = { cursor with colCount, kind, value, inText, paragraphs := 0 } := by
  rw [startCell] at h
  obtain ⟨count, -, h⟩ := bind_eq_ok h
  obtain ⟨type, -, h⟩ := bind_eq_ok h
  obtain ⟨errorType, -, h⟩ := bind_eq_ok h
  dsimp only at h
  split at h
  · obtain ⟨data, -, h⟩ := bind_eq_ok h
    exact ⟨_, _, _, _, (Except.ok.inj h).symm⟩
  · exact ⟨_, _, _, _, (Except.ok.inj h).symm⟩

lemma startParagraph_eq (cursor : Cursor) :
    ∃ value, cursor.startParagraph =
      { cursor with value, paragraphs := cursor.paragraphs + 1 } := by
  rw [startParagraph]
  split
  · exact ⟨cursor.value ++ "\n", rfl⟩
  · exact ⟨cursor.value, rfl⟩

lemma startInText_eq_ok {tag : Tag} (h : cursor.startInText tag = .ok next) :
    ∃ value inAnnotation paragraphs,
      next = { cursor with value, inAnnotation, paragraphs } := by
  rw [startInText] at h
  split at h
  · exact ⟨cursor.value, true, cursor.paragraphs, (Except.ok.inj h).symm⟩
  split at h
  · exact ⟨cursor.value, cursor.inAnnotation, cursor.paragraphs, (Except.ok.inj h).symm⟩
  split at h
  · obtain ⟨value, hvalue⟩ := cursor.startParagraph_eq
    exact ⟨value, cursor.inAnnotation, cursor.paragraphs + 1,
      (Except.ok.inj h).symm.trans hvalue⟩
  split at h
  · obtain ⟨count, -, h⟩ := bind_eq_ok h
    obtain ⟨spaces, -, h⟩ := bind_eq_ok h
    exact ⟨_, cursor.inAnnotation, cursor.paragraphs, (Except.ok.inj h).symm⟩
  split at h
  · exact ⟨_, cursor.inAnnotation, cursor.paragraphs, (Except.ok.inj h).symm⟩
  split at h
  · exact ⟨_, cursor.inAnnotation, cursor.paragraphs, (Except.ok.inj h).symm⟩
  · exact ⟨cursor.value, cursor.inAnnotation, cursor.paragraphs, (Except.ok.inj h).symm⟩

/-- Content that counts is put behind the value. -/
lemma appendContent_eq (cursor : Cursor) (content : Except Markup.Error String) :
    cursor.appendContent content =
      if cursor.inText && !cursor.inAnnotation then ofMarkup (content.map cursor.append)
      else .ok cursor := by
  rw [appendContent]
  cases content <;> rfl

lemma appendContent_eq_ok {content : Except Markup.Error String}
    (h : cursor.appendContent content = .ok next) :
    ∃ value, next = { cursor with value } := by
  rw [appendContent] at h
  split at h
  · obtain ⟨s, -, rfl⟩ := goOn_eq_ok h
    exact ⟨cursor.value ++ s, rfl⟩
  · exact ⟨cursor.value, (Except.ok.inj h).symm⟩

lemma takes_startInText {tag : Tag} (h : cursor.startInText tag = .ok next) :
    cursor.Takes (.start tag) next := by
  obtain ⟨value, inAnnotation, paragraphs, rfl⟩ := startInText_eq_ok h
  exact .stay rfl rfl rfl

lemma takes_appendContent {event : Event} {content : Except Markup.Error String}
    (h : cursor.appendContent content = .ok next) : cursor.Takes event next := by
  obtain ⟨value, rfl⟩ := appendContent_eq_ok h
  exact .stay rfl rfl rfl

lemma takes_startRow {tag : Tag} (h : cursor.startRow tag = .ok next) :
    cursor.Takes (.start tag) next := by
  obtain ⟨rowCount, rfl⟩ := startRow_eq_ok h
  exact .startRow rfl rfl rfl

lemma takes_startCell {tag : Tag} (h : cursor.startCell tag = .ok next) :
    cursor.Takes (.start tag) next := by
  obtain ⟨colCount, kind, value, inText, rfl⟩ := startCell_eq_ok h
  exact .stay rfl rfl rfl

/-- What a start tag inside a table does. -/
inductive Starts (cursor : Cursor) (tag : Tag) : Cursor → Prop
  | table (name : tag.name.is "table:table" = true) :
      Starts cursor tag { cursor with depth := cursor.depth + 1 }
  | row {next : Cursor} (name_ne : tag.name.is "table:table" = false)
      (step_eq : cursor.startRow tag = .ok next) : Starts cursor tag next
  | cell {next : Cursor} (name_ne : tag.name.is "table:table" = false)
      (step_eq : cursor.startCell tag = .ok next) : Starts cursor tag next
  | inText {next : Cursor} (name_ne : tag.name.is "table:table" = false)
      (step_eq : cursor.startInText tag = .ok next) : Starts cursor tag next
  | passed (name_ne : tag.name.is "table:table" = false) : Starts cursor tag cursor

/-- What an end tag inside a table does. -/
inductive Finishes (cursor : Cursor) (name : Name) : Cursor → Prop
  | table (name_is : name.is "table:table" = true) :
      Finishes cursor name { cursor with depth := cursor.depth - 1 }
  | row (name_ne : name.is "table:table" = false) : Finishes cursor name cursor.endRow
  | cell (name_ne : name.is "table:table" = false) : Finishes cursor name cursor.endCell
  | remark (name_ne : name.is "table:table" = false) :
      Finishes cursor name { cursor with inAnnotation := false }
  | passed (name_ne : name.is "table:table" = false) : Finishes cursor name cursor

lemma starts_of_step {tag : Tag} (h : cursor.step (.start tag) = .ok next) :
    Starts cursor tag next := by
  simp only [step] at h
  split at h
  · next hname =>
    obtain rfl := Except.ok.inj h
    exact .table hname
  next hname =>
  have hne := Bool.eq_false_of_not_eq_true hname
  split at h
  · exact .row hne h
  split at h
  · exact .cell hne h
  split at h
  · exact .inText hne h
  · obtain rfl := Except.ok.inj h
    exact .passed hne

lemma finishes_of_step {name : Name} (h : cursor.step (.finish name) = .ok next) :
    Finishes cursor name next := by
  simp only [step] at h
  split at h
  · next hname =>
    obtain rfl := Except.ok.inj h
    exact .table hname
  next hname =>
  have hne := Bool.eq_false_of_not_eq_true hname
  split at h
  · obtain rfl := Except.ok.inj h
    exact .row hne
  split at h
  · obtain rfl := Except.ok.inj h
    exact .cell hne
  split at h
  · obtain rfl := Except.ok.inj h
    exact .remark hne
  · obtain rfl := Except.ok.inj h
    exact .passed hne

/-- Every step does one of these. -/
theorem takes_of_step {event : Event} (h : cursor.step event = .ok next) :
    cursor.Takes event next := by
  cases event with
  | start tag =>
    cases starts_of_step h with
    | table | passed => exact .stay rfl rfl rfl
    | row _ hstep => exact takes_startRow hstep
    | cell _ hstep => exact takes_startCell hstep
    | inText _ hstep => exact takes_startInText hstep
  | finish name =>
    cases finishes_of_step h with
    | table | remark | passed => exact .stay rfl rfl rfl
    | row => exact .endRow rfl rfl rfl
    | cell => exact .endCell rfl rfl rfl
  | text s => exact takes_appendContent h
  | reference name => exact takes_appendContent h
  | _ =>
    obtain rfl := Except.ok.inj h
    exact .stay rfl rfl rfl

lemma name_of_takes {event : Event} (h : cursor.Takes event next) :
    next.sheet.name = cursor.sheet.name := by
  cases h with
  | stay _ _ hsheet | startRow _ _ hsheet | endRow _ _ hsheet => rw [hsheet]
  | endCell _ _ hsheet => rw [hsheet, Sheet.name_pushAll]

end Cursor

end OpenDocument

end DataDictionary.Workbook
