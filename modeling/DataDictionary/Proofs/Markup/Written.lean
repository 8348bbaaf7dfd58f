import DataDictionary.Markup.Content
import DataDictionary.Proofs.Text.Utf8
import DataDictionary.Proofs.Text.Whole
import Mathlib.Data.List.Basic

/-!
# Written markup

The events of elements and texts as a writer sets them down, who gives the five characters that
mean something in markup by their names. The attributes of a written tag are read as they were
given, and a written text is read as itself with its line ends made one.
-/

namespace DataDictionary.Markup

open Text

/-! ### Escapes -/

/-- The name of a character that is not written as it is. -/
def entity? : Char → Option String
  | '<' => some "lt"
  | '>' => some "gt"
  | '&' => some "amp"
  | '\'' => some "apos"
  | '"' => some "quot"
  | _ => none

lemma entity?_eq_some {c : Char} {name : String} (h : entity? c = some name) :
    (c, name) ∈ [('<', "lt"), ('>', "gt"), ('&', "amp"), ('\'', "apos"), ('"', "quot")] := by
  rw [entity?.eq_def] at h
  split at h
  · rw [← Option.some.inj h]
    decide
  · rw [← Option.some.inj h]
    decide
  · rw [← Option.some.inj h]
    decide
  · rw [← Option.some.inj h]
    decide
  · rw [← Option.some.inj h]
    decide
  · exact absurd h (by simp)

/-- A character as it is written. -/
def escapedChar (c : Char) : List Char :=
  match entity? c with
  | some name => '&' :: name.toList ++ [';']
  | none => [c]

/-- A text as it is written. -/
def escapedText (s : String) : String := String.ofList (s.toList.flatMap escapedChar)

lemma unescapeFrom_escapedChar (c : Char) (rest : List Char) :
    unescapeFrom none (escapedChar c ++ rest) = (unescapeFrom none rest).map (c :: ·) := by
  cases h : entity? c with
  | none =>
    have hc : (c == '&') = false := by
      rw [beq_eq_false_iff_ne]
      rintro rfl
      exact absurd h (by decide)
    rw [escapedChar, h]
    simp only [List.singleton_append, unescapeFrom, hc, Bool.false_eq_true, if_false]
  | some name =>
    have hmem := entity?_eq_some h
    simp only [List.mem_cons, Prod.mk.injEq, List.not_mem_nil, or_false] at hmem
    rcases hmem with ⟨rfl, rfl⟩ | ⟨rfl, rfl⟩ | ⟨rfl, rfl⟩ | ⟨rfl, rfl⟩ | ⟨rfl, rfl⟩ <;> rfl

/-- What was escaped is read as it was. -/
lemma unescapeFrom_flatMap (s : List Char) :
    unescapeFrom none (s.flatMap escapedChar) = .ok s := by
  induction s with
  | nil => rfl
  | cons c s ih => rw [List.flatMap_cons, unescapeFrom_escapedChar, ih, Except.map]

/-! ### Tags -/

@[simp] lemma Name.is_bytesOf (s t : String) : Name.is ⟨bytesOf s⟩ t = (s == t) := by
  rw [Name.is, Bool.eq_iff_iff, beq_iff_eq, beq_iff_eq]
  exact Utf8.bytesOf_injective.eq_iff

/-- An attribute of a written tag. -/
def Attribute.written (name value : String) : Attribute :=
  ⟨⟨bytesOf name⟩, bytesOf (escapedText value)⟩

@[simp] lemma Attribute.name_written (name value : String) :
    (Attribute.written name value).name = ⟨bytesOf name⟩ := rfl

@[simp] lemma Attribute.text_written (name value : String) :
    (Attribute.written name value).text = .ok value := by
  simp only [text, written, Utf8.decode?_bytesOf, escapedText, String.toList_ofList,
    unescapeFrom_flatMap, Except.map, String.ofList_toList]

/-- A written tag with attributes. -/
def Tag.written (name : String) (attributes : List (String × String)) : Tag :=
  { name := ⟨bytesOf name⟩, attributes := attributes.map fun a => .ok (.written a.1 a.2) }

@[simp] lemma Tag.name_written (name : String) (attributes : List (String × String)) :
    (Tag.written name attributes).name = ⟨bytesOf name⟩ := rfl

lemma Tag.distinctAttributes_written (name : String) (attributes : List (String × String)) :
    (Tag.written name attributes).distinctAttributes =
      attributes.map fun a => .ok (.written a.1 a.2) := rfl

lemma findAttribute_written (name : String) (attributes : List (String × String)) :
    findAttribute name (attributes.map fun a => .ok (.written a.1 a.2)) =
      .ok ((attributes.lookup name).map (.written name)) := by
  induction attributes with
  | nil => rfl
  | cons a attributes ih =>
    rw [List.map_cons, findAttribute, List.lookup_cons]
    have hname : (Attribute.written a.1 a.2).name.is name = (a.1 == name) :=
      Name.is_bytesOf a.1 name
    rw [hname, BEq.comm]
    cases heq : name == a.1 with
    | true => simp [eq_of_beq heq]
    | false => simp [ih]

/-- An attribute is read as it was given. -/
@[simp] lemma Tag.attribute?_written (tag name : String) (attributes : List (String × String)) :
    (Tag.written tag attributes).attribute? name = .ok (attributes.lookup name) := by
  rw [attribute?, written]
  simp only [findAttribute_written]
  cases attributes.lookup name with
  | none => rfl
  | some value => simp [Except.map]

lemma Tag.count?_written_none {tag name : String} {attributes : List (String × String)}
    (h : attributes.lookup name = none) : (Tag.written tag attributes).count? name = .ok none := by
  rw [count?, attribute?_written, h]

lemma Tag.count?_written_decimal {tag name : String} {attributes : List (String × String)} {n : Nat}
    (h : attributes.lookup name = some (String.ofList (decimal n))) (hn : n < wordLimit) :
    (Tag.written tag attributes).count? name = .ok (some n) := by
  rw [count?, attribute?_written, h]
  simp only [String.toList_ofList, readCount_decimal hn]

/-! ### Elements -/

/-- The events of an element with attributes and content. -/
def element (name : String) (attributes : List (String × String)) (content : List Event) :
    List Event :=
  .start (.written name attributes) :: (content ++ [.finish ⟨bytesOf name⟩])

/-- A reader comes from one state to another by steps over the events. -/
inductive Runs {σ : Type} (step : σ → Event → σ → Prop) : σ → List Event → σ → Prop
  | nil (state : σ) : Runs step state [] state
  | cons {state next last : σ} {event : Event} {events : List Event} :
    step state event next → Runs step next events last → Runs step state (event :: events) last

section Runs

variable {σ : Type} {step : σ → Event → σ → Prop}

lemma Runs.single {state next : σ} {event : Event} (h : step state event next) :
    Runs step state [event] next :=
  .cons h (.nil next)

lemma Runs.append {state next last : σ} {a b : List Event} (ha : Runs step state a next)
    (hb : Runs step next b last) : Runs step state (a ++ b) last := by
  induction ha with
  | nil => exact hb
  | cons hstep _ ih => exact .cons hstep (ih hb)

/-- An element is run through from its start tag over its content to its end. -/
lemma Runs.element {state inner outer last : σ} {name : String}
    {attributes : List (String × String)} {content : List Event}
    (hstart : step state (.start (.written name attributes)) inner)
    (hcontent : Runs step inner content outer)
    (hfinish : step outer (.finish ⟨bytesOf name⟩) last) :
    Runs step state (element name attributes content) last :=
  .cons hstart (hcontent.append (.single hfinish))

end Runs

/-! ### Texts -/

/-- The event of characters that are written as they are. -/
def runEvents (run : List Char) : List Event :=
  if run.isEmpty then [] else [.text (bytesOf (String.ofList run))]

/-- The events of a text behind characters that are written as they are. -/
def textEventsFrom (run : List Char) : List Char → List Event
  | [] => runEvents run
  | c :: rest =>
    match entity? c with
    | some name => runEvents run ++ .reference (bytesOf name) :: textEventsFrom [] rest
    | none => textEventsFrom (run ++ [c]) rest

/-- The events of a text. -/
def textEvents (s : String) : List Event := textEventsFrom [] s.toList

/-- The events are those of character data that is read as the text. -/
inductive Spells : List Event → String → Prop
  | nil : Spells [] ""
  | text {bytes : List UInt8} {s t : String} {events : List Event} :
    content bytes = .ok s → Spells events t → Spells (.text bytes :: events) (s ++ t)
  | reference {name : List UInt8} {s t : String} {events : List Event} :
    referenceContent name = .ok s → Spells events t → Spells (.reference name :: events) (s ++ t)

lemma Spells.append {a b : List Event} {s t : String} (ha : Spells a s) (hb : Spells b t) :
    Spells (a ++ b) (s ++ t) := by
  induction ha with
  | nil => rwa [List.nil_append, String.empty_append]
  | text hcontent _ ih =>
    rw [String.append_assoc]
    exact .text hcontent ih
  | reference hcontent _ ih =>
    rw [String.append_assoc]
    exact .reference hcontent ih

lemma content_bytesOf (s : String) :
    content (bytesOf s) = .ok (String.ofList (normalizeLines s.toList)) := by
  rw [content, Utf8.decode?_bytesOf]

/-- The text does not go on with a line end behind a carriage return. -/
def EndsLine (s : List Char) : Prop := ∀ c ∈ s.head?, c ≠ '\n' ∧ c ≠ '\u0085'

/-- A character as the reading of lines leaves it. -/
def lineChar (c : Char) : Char :=
  if c == '\r' || c == '\u0085' || c == '\u2028' then '\n' else c

lemma normalizeLines_cons {c : Char} {s : List Char} (h : c = '\r' → EndsLine s) :
    normalizeLines (c :: s) = lineChar c :: normalizeLines s := by
  rw [normalizeLines.eq_def]
  split
  · next heq => exact absurd heq (by simp)
  · next heq =>
    obtain ⟨rfl, rfl⟩ := List.cons.inj heq
    exact absurd rfl (h rfl _ rfl).1
  · next heq =>
    obtain ⟨rfl, rfl⟩ := List.cons.inj heq
    exact absurd rfl (h rfl _ rfl).2
  · next heq =>
    obtain ⟨rfl, rfl⟩ := List.cons.inj heq
    rfl

/-- Every line of the text ends with a line feed. -/
def IsLined (s : List Char) : Prop := ∀ c ∈ s, lineChar c = c

lemma normalizeLines_of_isLined {s : List Char} (h : IsLined s) : normalizeLines s = s := by
  induction s with
  | nil => rfl
  | cons c s ih =>
    obtain ⟨hc, hs⟩ := List.forall_mem_cons.mp h
    have hreturn : c ≠ '\r' := by
      rintro rfl
      exact absurd hc (by decide)
    rw [normalizeLines_cons fun h => absurd h hreturn, hc, ih hs]

lemma normalizeLines_of_isDigit {s : List Char} (h : ∀ c ∈ s, c.isDigit = true) :
    normalizeLines s = s := by
  refine normalizeLines_of_isLined fun c hc => ?_
  have hne : ∀ d ∈ ['\r', '\u0085', '\u2028'], c ≠ d := by
    rintro d hd rfl
    simp only [List.mem_cons, List.not_mem_nil, or_false] at hd
    rcases hd with rfl | rfl | rfl <;> exact absurd (h _ hc) (by decide)
  simp only [List.forall_mem_cons] at hne
  simp [lineChar, hne]

/-- Reading lines changes a text only where it leaves a line feed. -/
lemma eq_of_notMem_normalizeLines {s : List Char} (h : '\n' ∉ normalizeLines s) :
    normalizeLines s = s := by
  fun_induction normalizeLines s with
  | case1 => rfl
  | case2 => exact absurd List.mem_cons_self h
  | case3 => exact absurd List.mem_cons_self h
  | case4 c s _ _ ih =>
    obtain ⟨hc, hs⟩ := not_or.mp (mt List.mem_cons.mpr h)
    split at hc
    · exact absurd rfl hc
    · next hline => rw [if_neg hline, ih hs]

lemma eq_bytesOf_of_content {bytes : List UInt8} {s : String} (h : content bytes = .ok s)
    (hs : '\n' ∉ s.toList) : bytes = bytesOf s := by
  rw [content] at h
  split at h
  · next t hdecode =>
    obtain rfl := Except.ok.inj h
    rw [String.toList_ofList] at hs
    rw [eq_of_notMem_normalizeLines hs, String.ofList_toList]
    exact Utf8.decode?_eq_some_iff.mp hdecode
  · exact absurd h (by simp)

/-- Line ends do not reach over a character that is escaped. -/
lemma normalizeLines_append {c : Char} {name : String} (hc : entity? c = some name)
    (s rest : List Char) :
    normalizeLines (s ++ c :: rest) = normalizeLines s ++ c :: normalizeLines rest := by
  have hends : ∀ d ∈ ['\n', '\u0085', '\r', '\u2028'], c ≠ d := by
    rintro d hd rfl
    simp only [List.mem_cons, List.not_mem_nil, or_false] at hd
    rcases hd with rfl | rfl | rfl | rfl <;> exact absurd hc (by simp [entity?])
  simp only [List.forall_mem_cons] at hends
  obtain ⟨hfeed, hnext, hreturn, hseparator, -⟩ := hends
  fun_induction normalizeLines s with
  | case1 =>
    rw [List.nil_append, normalizeLines_cons fun h => absurd h hreturn]
    simp [lineChar, hreturn, hnext, hseparator]
  | case2 s ih => simp only [List.cons_append, normalizeLines, ih]
  | case3 s ih => simp only [List.cons_append, normalizeLines, ih]
  | case4 d s hreturnFeed hreturnNext ih =>
    have hline : d = '\r' → EndsLine (s ++ c :: rest) := by
      rintro rfl e he
      cases s with
      | nil =>
        obtain rfl : c = e := by simpa using he
        exact ⟨hfeed, hnext⟩
      | cons f s =>
        obtain rfl : f = e := by simpa using he
        constructor
        · rintro rfl
          exact hreturnFeed s rfl rfl
        · rintro rfl
          exact hreturnNext s rfl rfl
    rw [List.cons_append, normalizeLines_cons hline, ih]
    rfl

/-- A text with every line end made one. -/
def lined (s : String) : String := String.ofList (normalizeLines s.toList)

lemma spells_runEvents (run : List Char) :
    Spells (runEvents run) (String.ofList (normalizeLines run)) := by
  rw [runEvents]
  split
  · next h =>
    rw [List.isEmpty_iff.mp h]
    exact .nil
  · have hcontent := content_bytesOf (String.ofList run)
    rw [String.toList_ofList] at hcontent
    rw [← String.append_empty (s := String.ofList (normalizeLines run))]
    exact .text hcontent .nil

lemma referenceContent_entity {c : Char} {name : String} (h : entity? c = some name) :
    referenceContent (bytesOf name) = .ok (String.ofList [c]) := by
  have hmem := entity?_eq_some h
  simp only [List.mem_cons, Prod.mk.injEq, List.not_mem_nil, or_false] at hmem
  rw [referenceContent, content_bytesOf]
  rcases hmem with ⟨rfl, rfl⟩ | ⟨rfl, rfl⟩ | ⟨rfl, rfl⟩ | ⟨rfl, rfl⟩ | ⟨rfl, rfl⟩ <;> rfl

lemma spells_textEventsFrom (run s : List Char) :
    Spells (textEventsFrom run s) (String.ofList (normalizeLines (run ++ s))) := by
  fun_induction textEventsFrom run s with
  | case1 run =>
    rw [List.append_nil]
    exact spells_runEvents run
  | case2 run c rest name h ih =>
    rw [normalizeLines_append h, String.ofList_append]
    refine (spells_runEvents run).append ?_
    have hcons : String.ofList (c :: normalizeLines rest) =
        String.ofList [c] ++ String.ofList (normalizeLines rest) := by
      rw [← String.ofList_append, List.singleton_append]
    rw [hcons]
    exact .reference (referenceContent_entity h) ih
  | case3 run c rest h ih =>
    rw [List.append_assoc, List.singleton_append] at ih
    exact ih

/-- The events of a text are read as the text with its line ends made one. -/
theorem spells_textEvents (s : String) : Spells (textEvents s) (lined s) :=
  spells_textEventsFrom [] s.toList

lemma lined_ne_empty {s : String} (h : s ≠ "") : lined s ≠ "" := by
  intro hlined
  have hlist : normalizeLines s.toList = [] := by
    simpa [lined] using congrArg String.toList hlined
  rw [normalizeLines.eq_def] at hlist
  split at hlist
  · next hnil => exact h (by simpa using hnil)
  · exact absurd hlist (List.cons_ne_nil _ _)
  · exact absurd hlist (List.cons_ne_nil _ _)
  · exact absurd hlist (List.cons_ne_nil _ _)

end DataDictionary.Markup
