import DataDictionary.Proofs.Text.Blank
import DataDictionary.Proofs.Text.LetterCase
import DataDictionary.Proofs.Text.Split
import DataDictionary.Validation.Directive

/-!
# Rules that are read back

A directive can be written with its name in any ASCII letters and with white space around each of
its parts, and it stands between bars among others and among tokens that say nothing. Reading finds
exactly the directives that are written so, in their order: every token is the written form of one
directive or of none.
-/

namespace DataDictionary

open Text

/-! ### Forms among others -/

/-- Forms of the elements of a list, in its order, with others between them that are passed over. -/
inductive Interspersed {α β : Type} (Form : α → β → Prop) (Passed : β → Prop) :
    List α → List β → Prop where
  | nil : Interspersed Form Passed [] []
  | form {a : α} {b : β} {as : List α} {bs : List β} (h : Form a b)
      (rest : Interspersed Form Passed as bs) : Interspersed Form Passed (a :: as) (b :: bs)
  | passed {b : β} {as : List α} {bs : List β} (h : Passed b)
      (rest : Interspersed Form Passed as bs) : Interspersed Form Passed as (b :: bs)

namespace Interspersed

variable {α β : Type} {Form : α → β → Prop} {Passed : β → Prop} {f : β → Option α}
  {as : List α} {bs : List β}

/-- A function that reads forms and nothing else reads the elements. -/
lemma filterMap_eq (h : Interspersed Form Passed as bs)
    (hform : ∀ a ∈ as, ∀ b, Form a b → f b = some a) (hpassed : ∀ b, Passed b → f b = none) :
    bs.filterMap f = as := by
  induction h with
  | nil => rfl
  | form h _ ih =>
    obtain ⟨hhead, htail⟩ := List.forall_mem_cons.mp hform
    rw [List.filterMap_cons_some (hhead _ h), ih htail]
  | passed h _ ih => rw [List.filterMap_cons_none (hpassed _ h), ih hform]

lemma of_filterMap (hform : ∀ b ∈ bs, ∀ a, f b = some a → Form a b)
    (hpassed : ∀ b ∈ bs, f b = none → Passed b) :
    Interspersed Form Passed (bs.filterMap f) bs := by
  induction bs with
  | nil => exact .nil
  | cons b bs ih =>
    obtain ⟨hform, hforms⟩ := List.forall_mem_cons.mp hform
    obtain ⟨hpassed, hpasseds⟩ := List.forall_mem_cons.mp hpassed
    cases hb : f b with
    | none =>
      rw [List.filterMap_cons_none hb]
      exact .passed (hpassed hb) (ih hforms hpasseds)
    | some a =>
      rw [List.filterMap_cons_some hb]
      exact .form (hform a hb) (ih hforms hpasseds)

/-- What stands in the list is an element that is written or something that is passed over. -/
lemma exists_or (h : Interspersed Form Passed as bs) {b : β} (hb : b ∈ bs) :
    (∃ a ∈ as, Form a b) ∨ Passed b := by
  induction h with
  | nil => exact absurd hb List.not_mem_nil
  | form h _ ih =>
    rcases List.mem_cons.mp hb with rfl | hb
    · exact .inl ⟨_, List.mem_cons_self .., h⟩
    · obtain ⟨a, ha, hform⟩ | hpassed := ih hb
      · exact .inl ⟨a, List.mem_cons_of_mem _ ha, hform⟩
      · exact .inr hpassed
  | passed h _ ih =>
    rcases List.mem_cons.mp hb with rfl | hb
    · exact .inr h
    · exact ih hb

/-- Every element is written. -/
lemma exists_form (h : Interspersed Form Passed as bs) {a : α} (ha : a ∈ as) :
    ∃ b ∈ bs, Form a b := by
  induction h with
  | nil => exact absurd ha List.not_mem_nil
  | form h _ ih =>
    rcases List.mem_cons.mp ha with rfl | ha
    · exact ⟨_, List.mem_cons_self .., h⟩
    · obtain ⟨b, hb, hform⟩ := ih ha
      exact ⟨b, List.mem_cons_of_mem _ hb, hform⟩
  | passed _ _ ih =>
    obtain ⟨b, hb, hform⟩ := ih ha
    exact ⟨b, List.mem_cons_of_mem _ hb, hform⟩

/-- Forms that are joined are read back from the text. -/
lemma filterMap_splitAt_join {α : Type} {Form : α → List Char → Prop} {Passed : List Char → Prop}
    {f : List Char → Option α} {as : List α} {parts : List (List Char)}
    (h : Interspersed Form Passed as parts) {sep : Char} (hsep : ∀ part ∈ parts, sep ∉ part)
    (hform : ∀ a ∈ as, ∀ part, Form a part → f part = some a)
    (hpassed : ∀ part, Passed part → f part = none) (hnil : f [] = none) :
    (splitAt sep (join [sep] parts)).filterMap f = as := by
  have hread := h.filterMap_eq hform hpassed
  by_cases hne : parts = []
  · -- no part joined is the same text as one empty part
    subst hne
    rw [← hread]
    exact List.filterMap_cons_none hnil
  · rw [splitAt_join hne hsep, hread]

end Interspersed

/-! ### Characters of numbers -/

namespace Binary64

/-- A character that a number can be written with. -/
def IsNumeral (c : Char) : Prop := c.isAlphanum = true ∨ c = '+' ∨ c = '-' ∨ c = '.'

lemma isNumeral_of_isDigit {c : Char} (h : isDigit c = true) : IsNumeral c := by
  rw [isDigit, Bool.and_eq_true, decide_eq_true_eq, decide_eq_true_eq] at h
  have hdigit : c.isDigit = true := by
    simpa [Char.isDigit, Char.le_def] using h
  left
  rw [Char.isAlphanum, hdigit, Bool.or_true]

lemma isNumeral_of_sameAscii {s word : List Char} (h : sameAscii s word = true)
    (hword : (asciiLower word).all Char.isAlphanum = true) : ∀ c ∈ s, IsNumeral c := by
  have hcapital : ∀ i < 26, (Char.ofNat (65 + i)).isAlphanum = true := by decide +kernel
  exact fun c hc => .inl (forall_mem_of_sameAscii hcapital h hword c hc)

lemma isNumeral_of_readSign {s : List Char} (h : ∀ c ∈ (readSign s).2, IsNumeral c) :
    ∀ c ∈ s, IsNumeral c := by
  rw [readSign.eq_def] at h
  split at h
  · exact List.forall_mem_cons.mpr ⟨.inr (.inr (.inl rfl)), h⟩
  · exact List.forall_mem_cons.mpr ⟨.inr (.inl rfl), h⟩
  · exact h

lemma isNumeral_of_dropWhile {s : List Char} (h : ∀ c ∈ s.dropWhile isDigit, IsNumeral c) :
    ∀ c ∈ s, IsNumeral c := by
  intro c hc
  rw [← List.takeWhile_append_dropWhile (p := isDigit) (l := s), List.mem_append] at hc
  rcases hc with hc | hc
  · exact isNumeral_of_isDigit (List.mem_takeWhile_imp hc)
  · exact h c hc

lemma isNumeral_of_readExponent {s : List Char} {exponent : Int}
    (h : readExponent s = some exponent) : ∀ c ∈ s, IsNumeral c := by
  rw [readExponent] at h
  dsimp only at h
  split at h
  · cases h
  · next hdigits =>
    rw [Bool.or_eq_true, not_or] at hdigits
    apply isNumeral_of_readSign
    intro c hc
    exact isNumeral_of_isDigit (List.all_eq_true.mp (by simpa using hdigits.2) c hc)

/-- Behind its digits a number ends, or has an exponent. -/
lemma isNumeral_of_ending {s : List Char} {plain number : Nat × Int} {scaled : Int → Nat × Int}
    (h : (match s with
      | [] => some plain
      | c :: rest =>
        if c == 'e' || c == 'E' then (readExponent rest).map scaled else none) = some number) :
    ∀ c ∈ s, IsNumeral c := by
  split at h
  · exact fun c hc => absurd hc List.not_mem_nil
  · split at h
    · next hmark =>
      obtain ⟨exponent, hexponent, -⟩ := Option.map_eq_some_iff.mp h
      refine List.forall_mem_cons.mpr ⟨?_, isNumeral_of_readExponent hexponent⟩
      rw [Bool.or_eq_true, beq_iff_eq, beq_iff_eq] at hmark
      rcases hmark with rfl | rfl
      · exact .inl (by decide)
      · exact .inl (by decide)
    · cases h

lemma isNumeral_of_readDecimal {s : List Char} {number : Nat × Int}
    (h : readDecimal s = some number) : ∀ c ∈ s, IsNumeral c := by
  apply isNumeral_of_dropWhile
  unfold readDecimal at h
  dsimp only at h
  split at h
  · next rest hpoint =>
    rw [hpoint]
    split at h
    · cases h
    · refine List.forall_mem_cons.mpr ⟨.inr (.inr (.inr rfl)), ?_⟩
      exact isNumeral_of_dropWhile (isNumeral_of_ending h)
  · split at h
    · cases h
    · exact isNumeral_of_ending h

/-- A text that is read as a number has the characters of numbers only. -/
lemma isNumeral_of_read? {s : List Char} {x : Binary64} (h : read? s = some x) :
    ∀ c ∈ s, IsNumeral c := by
  apply isNumeral_of_readSign
  rw [read?] at h
  dsimp only at h
  split at h
  · next hdecimal => exact isNumeral_of_readDecimal hdecimal
  · split at h
    · next hword =>
      rcases (Bool.or_eq_true _ _).mp hword with hword | hword
      · exact isNumeral_of_sameAscii hword (by decide)
      · exact isNumeral_of_sameAscii hword (by decide)
    · split at h
      · next hword => exact isNumeral_of_sameAscii hword (by decide)
      · cases h

lemma IsNumeral.isBlank_eq {c : Char} (h : IsNumeral c) : isBlank c = false := by
  rcases h with h | rfl | rfl | rfl
  · exact isBlank_of_isAlphanum h
  all_goals decide

lemma bar_notMem_of_read? {s : List Char} {x : Binary64} (h : read? s = some x) : '|' ∉ s := by
  intro hbar
  exact absurd (isNumeral_of_read? h '|' hbar) (by simp [IsNumeral])

lemma trim_of_read? {s : List Char} {x : Binary64} (h : read? s = some x) : trim s = s := by
  have hblank (c : Char) (hc : c ∈ s) : isBlank c = false := (isNumeral_of_read? h c hc).isBlank_eq
  exact trim_eq_self (fun c hc => hblank c (List.mem_of_mem_head? hc))
    (fun c hc => hblank c (List.mem_of_mem_getLast? hc))

end Binary64

namespace Validation

namespace Directive

/-! ### Directives that can be written -/

/-- An item that can stand in a list. -/
structure IsItem (item : String) : Prop where
  ne_empty : item ≠ ""
  trimmed_eq : trimmed item = item
  comma : ',' ∉ item.toList
  bar : '|' ∉ item.toList

instance (item : String) : Decidable (IsItem item) :=
  decidable_of_iff
    (item ≠ "" ∧ trimmed item = item ∧ ',' ∉ item.toList ∧ '|' ∉ item.toList)
    ⟨fun h => ⟨h.1, h.2.1, h.2.2.1, h.2.2.2⟩, fun h => ⟨h.ne_empty, h.trimmed_eq, h.comma, h.bar⟩⟩

/-- A directive whose argument can be written down. -/
def Writable : Directive → Prop
  | .required => True
  | .min bound => bound.isFinite = true
  | .max bound => bound.isFinite = true
  | .mimes items => items ≠ [] ∧ ∀ item ∈ items, IsItem item
  | .dateFormat format => trimmed format = format ∧ '|' ∉ format.toList
  | .oneOf items => items ≠ [] ∧ ∀ item ∈ items, IsItem item

instance : DecidablePred Writable
  | .required => instDecidableTrue
  | .min bound => inferInstanceAs (Decidable (bound.isFinite = true))
  | .max bound => inferInstanceAs (Decidable (bound.isFinite = true))
  | .mimes items => inferInstanceAs (Decidable (items ≠ [] ∧ ∀ item ∈ items, IsItem item))
  | .dateFormat format =>
    inferInstanceAs (Decidable (trimmed format = format ∧ '|' ∉ format.toList))
  | .oneOf items => inferInstanceAs (Decidable (items ≠ [] ∧ ∀ item ∈ items, IsItem item))

/-- The name of a directive in small letters. -/
def name : Directive → String
  | .required => "required"
  | .min _ => "min"
  | .max _ => "max"
  | .mimes _ => "mimes"
  | .dateFormat _ => "date_format"
  | .oneOf _ => "in"

/-- Items between commas, with white space around each and blank ones among them. -/
def WritesItems (items : List String) (y : List Char) : Prop :=
  ∃ parts, Interspersed (fun item : String => Padded item.toList)
    (fun part => ∀ c ∈ part, isBlank c = true) items parts ∧ y = join [','] parts

/-- The ways to write the argument of a directive, with white space around it. A bound is any text
that is read as the number. -/
def WritesArgument : Directive → List Char → Prop
  | .required, _ => False
  | .min bound, y => ∃ s, Binary64.read? s = some bound ∧ Padded s y
  | .max bound, y => ∃ s, Binary64.read? s = some bound ∧ Padded s y
  | .mimes items, y => WritesItems items y
  | .dateFormat format, y => Padded format.toList y
  | .oneOf items, y => WritesItems items y

/-- The ways to write a directive: its name in any letters, with white space around it, and a colon
in front of the argument if it has one. -/
inductive Writes : Directive → List Char → Prop where
  | alone {n w : List Char} (hn : sameAscii n "required".toList = true) (hw : Padded n w) :
      Writes .required w
  | withArgument {directive : Directive} {n x y : List Char}
      (hn : sameAscii n directive.name.toList = true) (hx : Padded n x)
      (hy : directive.WritesArgument y) : Writes directive (x ++ ':' :: y)

/-- A token between bars that no directive is written as. -/
def IsIgnored (token : List Char) : Prop :=
  '|' ∉ token ∧ ∀ directive : Directive, directive.Writable → ¬ directive.Writes token

/-! ### Items -/

/-- The item that a part of a list is. -/
def item? (part : List Char) : Option String :=
  if (trim part).isEmpty then none else some (String.ofList (trim part))

lemma items_eq (y : List Char) : items y = (splitAt ',' y).filterMap item? := by
  rw [items, List.filter_map, List.map_map, ← List.filterMap_eq_map, ← List.filterMap_eq_filter,
    List.filterMap_filterMap]
  apply List.filterMap_congr
  intro part _
  cases htrim : (trim part).isEmpty <;> simp [item?, htrim, Option.guard]

lemma item?_eq_some_iff {part : List Char} {item : String} :
    item? part = some item ↔
      (item ≠ "" ∧ trimmed item = item) ∧ Padded item.toList part := by
  rw [item?]
  constructor
  · intro h
    split at h
    · cases h
    · next hne =>
      obtain rfl := Option.some.inj h
      refine ⟨⟨by simpa using hne, ?_⟩, ?_⟩
      · rw [trimmed, String.toList_ofList, trim_trim]
      · rw [String.toList_ofList]
        exact padded_trim part
  · rintro ⟨⟨hne, htrim⟩, hpart⟩
    have heq : trim part = item.toList := by rw [hpart.trim_eq, ← toList_trimmed, htrim]
    rw [heq, String.ofList_toList, if_neg (by simpa using hne)]

lemma item?_eq_none_iff {part : List Char} :
    item? part = none ↔ ∀ c ∈ part, isBlank c = true := by
  rw [← trim_eq_nil_iff, item?]
  split <;> simp_all

/-- White space around a list makes no difference to its items. -/
lemma items_trim (y : List Char) : items (trim y) = items y := by
  rw [items, items, map_trim_splitAt (by decide) (padded_trim y)]

/-- A character of a part that is not white space is one of an item. -/
lemma notMem_of_mem_parts {list : List String} {parts : List (List Char)}
    (h : Interspersed (fun item : String => Padded item.toList)
      (fun part => ∀ c ∈ part, isBlank c = true) list parts)
    {c : Char} (hc : isBlank c = false) (hlist : ∀ item ∈ list, c ∉ item.toList) :
    ∀ part ∈ parts, c ∉ part := by
  intro part hpart
  obtain ⟨item, hitem, hform⟩ | hblank := h.exists_or hpart
  · exact hform.notMem hc (hlist item hitem)
  · exact notMem_of_blank hblank hc

/-- Items that are written are read back. -/
lemma items_eq_of_writesItems {list : List String} {y : List Char} (h : WritesItems list y)
    (hitems : ∀ item ∈ list, IsItem item) : items y = list := by
  obtain ⟨parts, hparts, rfl⟩ := h
  rw [items_eq]
  refine hparts.filterMap_splitAt_join ?_ ?_ (fun part => item?_eq_none_iff.mpr) rfl
  · exact notMem_of_mem_parts hparts (by decide) fun item hitem => (hitems item hitem).comma
  · intro item hitem part hpart
    obtain ⟨hne, htrim, -, -⟩ := hitems item hitem
    exact item?_eq_some_iff.mpr ⟨⟨hne, htrim⟩, hpart⟩

/-- Every text is a list of the items that are read from it. -/
lemma writesItems_items (y : List Char) : WritesItems (items y) y := by
  refine ⟨splitAt ',' y, ?_, (join_splitAt ',' y).symm⟩
  rw [items_eq]
  exact .of_filterMap (fun part _ item h => (item?_eq_some_iff.mp h).2)
    fun part _ => item?_eq_none_iff.mp

lemma isItem_of_mem_items {y : List Char} (hbar : '|' ∉ y) {item : String} (h : item ∈ items y) :
    IsItem item := by
  rw [items_eq] at h
  obtain ⟨part, hpart, hitem⟩ := List.mem_filterMap.mp h
  obtain ⟨⟨hne, htrim⟩, hpadded⟩ := item?_eq_some_iff.mp hitem
  have hwithin := hpadded.isInfix
  exact ⟨hne, htrim, fun hc => notMem_of_mem_splitAt hpart (hwithin.subset hc),
    fun hc => hbar ((isInfix_of_mem_splitAt hpart).subset (hwithin.subset hc))⟩

/-! ### Arguments -/

lemma bound?_trim_eq_some_iff {y : List Char} {bound : Binary64} :
    bound? (trim y) = some bound ↔
      bound.isFinite = true ∧ ∃ s, Binary64.read? s = some bound ∧ Padded s y := by
  rw [bound?, Option.filter_eq_some_iff, and_comm]
  refine and_congr_right fun _ => ?_
  constructor
  · intro h
    exact ⟨trim y, h, padded_trim y⟩
  · rintro ⟨s, hs, hy⟩
    rw [hy.trim_eq, Binary64.trim_of_read? hs, hs]

lemma items?_trim_eq_some_iff {y : List Char} (hbar : '|' ∉ y) {list : List String} :
    items? (trim y) = some list ↔
      (list ≠ [] ∧ ∀ item ∈ list, IsItem item) ∧ WritesItems list y := by
  rw [items?, items_trim]
  constructor
  · intro h
    split at h
    · cases h
    · next hne =>
      obtain rfl := Option.some.inj h
      exact ⟨⟨hne, fun item => isItem_of_mem_items hbar⟩, writesItems_items y⟩
  · rintro ⟨⟨hne, hitems⟩, hwritten⟩
    rw [items_eq_of_writesItems hwritten hitems]
    split
    · exact absurd rfl hne
    · rfl

lemma ofList_trim_eq_iff {y : List Char} (hbar : '|' ∉ y) {format : String} :
    String.ofList (trim y) = format ↔
      (trimmed format = format ∧ '|' ∉ format.toList) ∧ Padded format.toList y := by
  constructor
  · rintro rfl
    have hpadded := padded_trim y
    rw [trimmed, String.toList_ofList, trim_trim]
    exact ⟨⟨rfl, fun hc => hbar (hpadded.isInfix.subset hc)⟩, hpadded⟩
  · rintro ⟨⟨htrim, -⟩, hpadded⟩
    rw [hpadded.trim_eq, ← toList_trimmed, htrim, String.ofList_toList]

/-- A name and an argument make a directive just if it has the name and is written with the
argument. -/
lemma ofParts?_eq_some_iff {y : List Char} (hbar : '|' ∉ y) {n : List Char}
    {directive : Directive} :
    ofParts? n (trim y) = some directive ↔
      n = directive.name.toList ∧ directive.Writable ∧ directive.WritesArgument y := by
  constructor
  · intro h
    rw [ofParts?] at h
    split at h
    · next hn =>
      obtain ⟨bound, hbound, rfl⟩ := Option.map_eq_some_iff.mp h
      exact ⟨eq_of_beq hn, bound?_trim_eq_some_iff.mp hbound⟩
    split at h
    · next hn =>
      obtain ⟨bound, hbound, rfl⟩ := Option.map_eq_some_iff.mp h
      exact ⟨eq_of_beq hn, bound?_trim_eq_some_iff.mp hbound⟩
    split at h
    · next hn =>
      obtain ⟨types, htypes, rfl⟩ := Option.map_eq_some_iff.mp h
      exact ⟨eq_of_beq hn, (items?_trim_eq_some_iff hbar).mp htypes⟩
    split at h
    · next hn =>
      obtain rfl := Option.some.inj h
      exact ⟨eq_of_beq hn, (ofList_trim_eq_iff hbar).mp rfl⟩
    split at h
    · next hn =>
      obtain ⟨labels, hlabels, rfl⟩ := Option.map_eq_some_iff.mp h
      exact ⟨eq_of_beq hn, (items?_trim_eq_some_iff hbar).mp hlabels⟩
    · cases h
  · rintro ⟨rfl, hwritable⟩
    cases directive with
    | required => exact absurd hwritable.2 id
    | min bound => simp [ofParts?, name, bound?_trim_eq_some_iff.mpr hwritable]
    | max bound => simp [ofParts?, name, bound?_trim_eq_some_iff.mpr hwritable]
    | mimes types => simp [ofParts?, name, (items?_trim_eq_some_iff hbar).mpr hwritable]
    | dateFormat format => simp [ofParts?, name, (ofList_trim_eq_iff hbar).mpr hwritable]
    | oneOf labels => simp [ofParts?, name, (items?_trim_eq_some_iff hbar).mpr hwritable]

lemma bar_notMem_of_writesArgument {directive : Directive} {y : List Char}
    (h : directive.WritesArgument y) (hwritable : directive.Writable) : '|' ∉ y := by
  have hitems {list : List String} (h : WritesItems list y)
      (hlist : list ≠ [] ∧ ∀ item ∈ list, IsItem item) : '|' ∉ y := by
    obtain ⟨parts, hparts, rfl⟩ := h
    intro hbar
    obtain hbar | ⟨part, hpart, hbar⟩ := mem_or_of_mem_join hbar
    · exact absurd hbar (by decide)
    · exact notMem_of_mem_parts hparts (by decide) (fun item hitem => (hlist.2 item hitem).bar)
        part hpart hbar
  cases directive with
  | required => exact absurd h id
  | min bound =>
    obtain ⟨s, hs, hy⟩ := h
    exact hy.notMem (by decide) (Binary64.bar_notMem_of_read? hs)
  | max bound =>
    obtain ⟨s, hs, hy⟩ := h
    exact hy.notMem (by decide) (Binary64.bar_notMem_of_read? hs)
  | mimes types => exact hitems h hwritable
  | dateFormat format => exact Padded.notMem h (by decide) hwritable.2
  | oneOf labels => exact hitems h hwritable

/-! ### Tokens -/

/-- A character that can stand in a name. -/
def isNameChar (c : Char) : Bool := !isBlank c && c != ':' && c != '|'

lemma asciiLower_name (directive : Directive) :
    asciiLower directive.name.toList = directive.name.toList := by
  cases directive <;> simp only [name] <;> decide

section Named

variable (directive : Directive) {n : List Char}
  (h : sameAscii n directive.name.toList = true)

include h

lemma isNameChar_of_isNamed : ∀ c ∈ n, isNameChar c = true := by
  have hcapital : ∀ i < 26, isNameChar (Char.ofNat (65 + i)) = true := by decide +kernel
  refine forall_mem_of_sameAscii hcapital h ?_
  cases directive <;> simp only [name] <;> decide

lemma notMem_of_isNamed {c : Char} (hc : isNameChar c = false) : c ∉ n := by
  intro hmem
  exact Bool.false_ne_true (hc.symm.trans (isNameChar_of_isNamed directive h c hmem))

lemma trim_of_isNamed : trim n = n := by
  have hblank (c : Char) (hc : c ∈ n) : isBlank c = false := by
    have hchar := isNameChar_of_isNamed directive h c hc
    rw [isNameChar, Bool.and_eq_true, Bool.and_eq_true, Bool.not_eq_true'] at hchar
    exact hchar.1.1
  exact trim_eq_self (fun c hc => hblank c (List.mem_of_mem_head? hc))
    (fun c hc => hblank c (List.mem_of_mem_getLast? hc))

end Named

/-- With a colon in it a token has a name and an argument. -/
lemma read?_append_colon {x : List Char} (hx : ':' ∉ x) (y : List Char) :
    read? (x ++ ':' :: y) = ofParts? (asciiLower (trim x)) (trim y) := by
  have hstart : ':' ∉ trimStart x := fun hc => hx ((padded_trimStart x).isInfix.subset hc)
  have hrequired : sameAscii (trimStart x ++ ':' :: trimEnd y) "required".toList = false := by
    rw [Bool.eq_false_iff]
    intro h
    have hcolon : ':' ∉ trimStart x ++ ':' :: trimEnd y :=
      notMem_of_isNamed .required h (by decide)
    simp at hcolon
  simp only [read?, trim_append_cons (c := ':') (by decide), hrequired, Bool.false_eq_true,
    if_false, cutAt_append_cons hstart, ← (padded_trimStart x).trim_eq,
    ← (padded_trimEnd y).trim_eq]

/-- Without a colon a token can only be the one directive that has no argument. -/
lemma read?_of_notMem {w : List Char} (hw : ':' ∉ w) :
    read? w = if sameAscii (trim w) "required".toList then some .required else none := by
  have htrim : ':' ∉ trim w := fun hc => hw ((padded_trim w).isInfix.subset hc)
  simp only [read?, cutAt_of_notMem htrim]

/-- A directive that is written is read back. -/
lemma Writes.read?_eq {directive : Directive} {w : List Char} (h : directive.Writes w)
    (hwritable : directive.Writable) (hbar : '|' ∉ w) : read? w = some directive := by
  cases h with
  | @alone n _ hn hw =>
    have hcolon : ':' ∉ w :=
      hw.notMem (by decide) (notMem_of_isNamed .required hn (by decide))
    rw [read?_of_notMem hcolon, hw.trim_eq, trim_of_isNamed .required hn, if_pos hn]
  | @withArgument _ n x y hn hx hy =>
    have hcolon : ':' ∉ x :=
      hx.notMem (by decide) (notMem_of_isNamed directive hn (by decide))
    have hbar' : '|' ∉ y := fun hc => hbar (by simp [hc])
    rw [read?_append_colon hcolon, ofParts?_eq_some_iff hbar']
    refine ⟨?_, hwritable, hy⟩
    rw [hx.trim_eq, trim_of_isNamed directive hn, eq_of_beq hn, asciiLower_name]

/-- What is read as a directive is a form of it. -/
lemma writes_of_read? {w : List Char} (hbar : '|' ∉ w) {directive : Directive}
    (h : read? w = some directive) : directive.Writable ∧ directive.Writes w := by
  by_cases hcolon : ':' ∈ w
  · obtain ⟨x, y, rfl, hx⟩ := List.eq_append_cons_of_mem hcolon
    have hbar' : '|' ∉ y := fun hc => hbar (by simp [hc])
    rw [read?_append_colon hx, ofParts?_eq_some_iff hbar'] at h
    obtain ⟨hn, hwritable, hy⟩ := h
    refine ⟨hwritable, .withArgument ?_ (padded_trim x) hy⟩
    rw [sameAscii, hn, asciiLower_name, beq_self_eq_true]
  · rw [read?_of_notMem hcolon] at h
    split at h
    · next hn =>
      obtain rfl := Option.some.inj h
      exact ⟨trivial, .alone hn (padded_trim w)⟩
    · cases h

/-- Nothing but the argument of a directive could hold a bar, and no argument does. -/
lemma Writes.bar_notMem {directive : Directive} {w : List Char} (h : directive.Writes w)
    (hwritable : directive.Writable) : '|' ∉ w := by
  cases h with
  | alone hn hw =>
    exact hw.notMem (by decide) (notMem_of_isNamed .required hn (by decide))
  | @withArgument _ n x y hn hx hy =>
    have hname : '|' ∉ x :=
      hx.notMem (by decide) (notMem_of_isNamed directive hn (by decide))
    have hargument : '|' ∉ y := bar_notMem_of_writesArgument hy hwritable
    simp [hname, hargument]

/-- A token is ignored just if it is read as nothing. -/
lemma isIgnored_iff {token : List Char} (hbar : '|' ∉ token) :
    IsIgnored token ↔ read? token = none := by
  constructor
  · rintro ⟨-, hform⟩
    rw [Option.eq_none_iff_forall_ne_some]
    intro directive h
    obtain ⟨hwritable, hwritten⟩ := writes_of_read? hbar h
    exact hform directive hwritable hwritten
  · intro h
    refine ⟨hbar, fun directive hwritable hwritten => ?_⟩
    rw [hwritten.read?_eq hwritable hbar] at h
    cases h

lemma read?_of_blank {token : List Char} (h : ∀ c ∈ token, isBlank c = true) :
    read? token = none := by
  rw [read?_of_notMem (notMem_of_blank h (by decide)), (trim_eq_nil_iff token).mpr h]
  rfl

end Directive

/-! ### Rule strings -/

lemma readRules_eq (rules : String) :
    readRules rules = (splitAt '|' rules.toList).filterMap Directive.read? := by
  have hread (token : List Char) :
      (if (!(trim token).isEmpty) = true then Directive.read? (trim token) else none) =
        Directive.read? token := by
    have htrim : Directive.read? (trim token) = Directive.read? token := by
      rw [Directive.read?, Directive.read?, trim_trim]
    split
    · exact htrim
    · next hempty =>
      have hnil : trim token = [] := by simpa using hempty
      exact (Directive.read?_of_blank ((trim_eq_nil_iff token).mp hnil)).symm
  rw [readRules, List.filterMap_filter, List.filterMap_map]
  exact List.filterMap_congr fun token _ => hread token

/-- Reading a rule string gives just the directives that are written in it, in their order: each
token between bars is a form of one directive that can be written, or else it is ignored. What is
ignored is what is read as no directive, such as white space. -/
theorem readRules_reads_written :
    (∀ (rules : String) (directives : List Directive),
      readRules rules = directives ↔
        (∀ directive ∈ directives, directive.Writable) ∧
        ∃ tokens, Interspersed Directive.Writes Directive.IsIgnored directives tokens ∧
          rules.toList = join ['|'] tokens) ∧
    ∀ token, '|' ∉ token →
      (Directive.IsIgnored token ↔ Directive.read? token = none) ∧
      ((∀ c ∈ token, isBlank c = true) → Directive.IsIgnored token) := by
  constructor
  · intro rules directives
    rw [readRules_eq]
    constructor
    · rintro rfl
      have hbar (token : List Char) (h : token ∈ splitAt '|' rules.toList) : '|' ∉ token :=
        notMem_of_mem_splitAt h
      refine ⟨?_, splitAt '|' rules.toList, ?_, (join_splitAt '|' rules.toList).symm⟩
      · intro directive hdirective
        obtain ⟨token, htoken, hread⟩ := List.mem_filterMap.mp hdirective
        exact (Directive.writes_of_read? (hbar token htoken) hread).1
      · refine .of_filterMap ?_ ?_
        · intro token htoken directive hread
          exact (Directive.writes_of_read? (hbar token htoken) hread).2
        · intro token htoken hread
          exact (Directive.isIgnored_iff (hbar token htoken)).mpr hread
    · rintro ⟨hwritable, tokens, htokens, hrules⟩
      rw [hrules]
      refine htokens.filterMap_splitAt_join ?_ ?_ ?_ rfl
      · intro token htoken
        obtain ⟨directive, hdirective, hwritten⟩ | hignored := htokens.exists_or htoken
        · exact hwritten.bar_notMem (hwritable directive hdirective)
        · exact hignored.1
      · intro directive hdirective token hwritten
        have hbar := hwritten.bar_notMem (hwritable directive hdirective)
        exact hwritten.read?_eq (hwritable directive hdirective) hbar
      · intro token hignored
        exact (Directive.isIgnored_iff hignored.1).mp hignored
  · intro token hbar
    refine ⟨Directive.isIgnored_iff hbar, fun hblank => ?_⟩
    exact (Directive.isIgnored_iff hbar).mpr (Directive.read?_of_blank hblank)

/-- The rules of a field with a rating. -/
def ratingRules : List Directive :=
  [.required, .min (.ofInt 3), .oneOf ["low", "high"], .dateFormat "HH:mm"]

/-- The rules as they stand between bars, with tokens that are ignored. -/
def ratingTokens : List (List Char) :=
  [" REQUIRED ".toList, "Min : +03e0".toList, " ".toList, "loud:3".toList, "in: low ,, high".toList,
    "date_format: HH:mm ".toList]

lemma interspersed_rating :
    Interspersed Directive.Writes Directive.IsIgnored ratingRules ratingTokens := by
  have hbound : Directive.WritesArgument (.min (.ofInt 3)) " +03e0".toList :=
    ⟨"+03e0".toList, by decide +kernel, padded_of_trim_eq (by decide)⟩
  have hlabels : Directive.WritesArgument (.oneOf ["low", "high"]) " low ,, high".toList := by
    refine ⟨[" low ".toList, [], " high".toList], .form ?_ (.passed (by simp) (.form ?_ .nil)), rfl⟩
    · exact padded_of_trim_eq (by decide)
    · exact padded_of_trim_eq (by decide)
  have hformat : Directive.WritesArgument (.dateFormat "HH:mm") " HH:mm ".toList :=
    padded_of_trim_eq (by decide)
  have hignored {token : List Char} (hbar : '|' ∉ token) (h : Directive.read? token = none) :
      Directive.IsIgnored token := (Directive.isIgnored_iff hbar).mpr h
  refine .form ?_ (.form ?_ (.passed (hignored (by decide) (by decide +kernel))
    (.passed (hignored (by decide) (by decide +kernel)) (.form ?_ (.form ?_ .nil)))))
  · exact .alone (n := "REQUIRED".toList) (by decide) (padded_of_trim_eq (by decide))
  · exact .withArgument (n := "Min".toList) (x := "Min ".toList) (by decide)
      (padded_of_trim_eq (by decide)) hbound
  · exact .withArgument (n := "in".toList) (x := "in".toList) (by decide)
      (padded_of_trim_eq (by decide)) hlabels
  · exact .withArgument (n := "date_format".toList) (x := "date_format".toList) (by decide)
      (padded_of_trim_eq (by decide)) hformat

theorem readRules_reads_written_rating :
    ((∀ directive ∈ ratingRules, directive.Writable) ∧
      Interspersed Directive.Writes Directive.IsIgnored ratingRules ratingTokens ∧
      readRules " REQUIRED |Min : +03e0| |loud:3|in: low ,, high|date_format: HH:mm " =
        ratingRules) ∧
    ('|' ∉ "loud:3".toList ∧ Directive.read? "loud:3".toList = none ∧
      Directive.IsIgnored "loud:3".toList) ∧
    ('|' ∉ " ".toList ∧ (∀ c ∈ " ".toList, isBlank c = true) ∧
      Directive.IsIgnored " ".toList) := by
  have hwritable : ∀ directive ∈ ratingRules, directive.Writable := by decide +kernel
  have hbar : '|' ∉ "loud:3".toList := by decide
  have hread : Directive.read? "loud:3".toList = none := by decide +kernel
  have hbar' : '|' ∉ " ".toList := by decide
  have hblank : ∀ c ∈ " ".toList, isBlank c = true := List.all_eq_true.mp rfl
  obtain ⟨hrules, htokens⟩ := readRules_reads_written
  refine ⟨⟨hwritable, interspersed_rating, ?_⟩, ⟨hbar, hread, ?_⟩, hbar', hblank, ?_⟩
  · exact (hrules _ _).mpr ⟨hwritable, ratingTokens, interspersed_rating, rfl⟩
  · exact (htokens _ hbar).1.mpr hread
  · exact (htokens _ hbar').2 hblank

end Validation

end DataDictionary
