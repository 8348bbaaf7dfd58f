import DataDictionary.Model.OfRecord
import DataDictionary.Proofs.Enumeration
import DataDictionary.Proofs.Text.Whole
import DataDictionary.Proofs.Validation.Chain
import DataDictionary.Proofs.Validation.Directive
import DataDictionary.Validation.Zod

/-!
# Literals of a source

A source has a literal for each label, each message and each content type, and nothing else in it
begins one. Messages hold no line breaks and those of content types are escaped, but a label is
written with the line breaks that it has. A label is a piece of a cell without the white space
around it, so a cell of several lines does no harm as long as no line breaks inside a label.
-/

namespace DataDictionary

open Text

/-! ### Characters of numbers -/

namespace Binary64

lemma isNumeral_of_mem_signChars {negative : Bool} {c : Char} (h : c ∈ signChars negative) :
    IsNumeral c := by
  cases negative with
  | true => exact .inr (.inr (.inl (List.mem_singleton.mp h)))
  | false => exact absurd h List.not_mem_nil

lemma isNumeral_of_mem_decimal {n : Nat} {c : Char} (h : c ∈ decimal n) : IsNumeral c := by
  left
  simp [Char.isAlphanum, isDigit_of_mem_decimal h]

lemma isNumeral_of_mem_positional {d : Decimal} {c : Char} (h : c ∈ d.positional []) :
    IsNumeral c := by
  have hdigit (hc : c ∈ d.chars) : IsNumeral c := isNumeral_of_mem_decimal hc
  have hzero (n : Nat) (hc : c ∈ List.replicate n '0') : IsNumeral c := by
    rw [List.eq_of_mem_replicate hc]
    exact .inl (by decide)
  have hpoint (hc : c = '.') : IsNumeral c := .inr (.inr (.inr hc))
  rw [Decimal.positional] at h
  split at h
  · simp only [List.append_nil, List.mem_append] at h
    exact h.elim hdigit (hzero _)
  dsimp only at h
  split at h
  · rw [List.mem_append, List.mem_append] at h
    rcases h with (h | h) | h
    · obtain rfl | rfl : c = '0' ∨ c = '.' := by simpa using h
      · exact hzero 1 (by simp)
      · exact hpoint rfl
    · exact hzero _ h
    · exact hdigit h
  · rw [List.mem_append, List.mem_cons] at h
    rcases h with h | h | h
    · exact hdigit (List.mem_of_mem_take h)
    · exact hpoint h
    · exact hdigit (List.mem_of_mem_drop h)

/-- Running text writes a number with the characters of numbers only. -/
lemma isNumeral_of_mem_text {x : Binary64} {c : Char} (h : c ∈ x.text) : IsNumeral c := by
  cases x with
  | finite negative rank =>
    rw [text] at h
    split at h
    · exact (List.mem_append.mp h).elim isNumeral_of_mem_signChars isNumeral_of_mem_decimal
    · exact (List.mem_append.mp h).elim isNumeral_of_mem_signChars isNumeral_of_mem_positional
  | infinite negative =>
    have hword : "inf".toList.all Char.isAlphanum = true := by decide
    exact (List.mem_append.mp h).elim isNumeral_of_mem_signChars
      fun hc => .inl (List.all_eq_true.mp hword c hc)
  | nan =>
    have hword : "NaN".toList.all Char.isAlphanum = true := by decide
    exact .inl (List.all_eq_true.mp hword c h)

end Binary64

namespace Validation.Zod

/-! ### Reading a source -/

/-- A literal of a source: the mark at both ends, and what is written between them. -/
structure Literal where
  mark : Char
  written : List Char
deriving DecidableEq, Repr

/-- Outside of literals, or in one that has begun. -/
inductive Place where
  | outside
  | inside (literal : Literal) (escaped : Bool)
deriving DecidableEq, Repr

/-- Where the reading of a source stands, and the literals that have ended. -/
structure Scan where
  literals : List Literal := []
  place : Place := .outside
deriving DecidableEq, Repr

/-- A quotation mark that begins a literal. -/
def isMark (c : Char) : Bool := c == '\'' || c == '"'

/-- Put a character behind what is written. -/
def Literal.push (literal : Literal) (c : Char) : Literal :=
  { literal with written := literal.written ++ [c] }

/-- Take up a character of a source. A literal goes on to its own mark, unless a backslash stands in
front of that. -/
def Scan.step (scan : Scan) (c : Char) : Scan :=
  match scan.place with
  | .outside => if isMark c then { scan with place := .inside ⟨c, []⟩ false } else scan
  | .inside literal true => { scan with place := .inside (literal.push c) false }
  | .inside literal false =>
    if c == literal.mark then ⟨scan.literals ++ [literal], .outside⟩
    else { scan with place := .inside (literal.push c) (c == '\\') }

/-- The literals of a source; `none` if the last one has no end. -/
def literals? (source : List Char) : Option (List Literal) :=
  match source.foldl Scan.step {} with
  | ⟨literals, .outside⟩ => some literals
  | _ => none

/-- The literal of a text in single quotes. -/
def Literal.quoted (s : String) : Literal := ⟨'\'', escape s.toList⟩

/-- The literal of a text in JSON. -/
def Literal.json (s : String) : Literal := ⟨'"', s.toList.flatMap Json.escaped⟩

/-- The literals of a base: its labels, or else its message. -/
def baseLiterals (check : BaseCheck) : List Literal :=
  match check.predicate with
  | .oneOf labels => labels.map .quoted
  | .objectId | .date => [.quoted check.message]
  | .number | .boolean | .text => []

/-- The literals of a call: its message, behind the content types if it has some. -/
def callLiterals (check : ModifierCheck) : List Literal :=
  match check.modifier with
  | .required | .min _ | .max _ => [.quoted check.message]
  | .mimes types => types.map .json ++ [.quoted check.message]
  | .dateFormat _ => []

/-- The literals of the source of an expression. -/
def literalsOf (expression : Expression) : List Literal :=
  baseLiterals expression.base ++
    match expression.base.predicate, expression.enumerated with
    | .oneOf _, true => []
    | _, _ => expression.modifiers.flatMap callLiterals

/-! ### What a literal holds -/

/-- In a literal with the mark, the characters are written in it and it does not end. -/
def Fills (mark : Char) (s : List Char) : Prop :=
  ∀ literals written, s.foldl Scan.step ⟨literals, .inside ⟨mark, written⟩ false⟩ =
    ⟨literals, .inside ⟨mark, written ++ s⟩ false⟩

namespace Fills

variable {mark : Char}

lemma append {s t : List Char} (hs : Fills mark s) (ht : Fills mark t) : Fills mark (s ++ t) := by
  intro literals written
  rw [List.foldl_append, hs, ht, List.append_assoc]

lemma flatMap {f : Char → List Char} (h : ∀ c, Fills mark (f c)) (s : List Char) :
    Fills mark (s.flatMap f) := by
  induction s with
  | nil => simp [Fills]
  | cons c s ih =>
    rw [List.flatMap_cons]
    exact (h c).append ih

lemma plain {s : List Char} (h : ∀ c ∈ s, c ≠ mark ∧ c ≠ '\\') : Fills mark s := by
  induction s with
  | nil => simp [Fills]
  | cons c s ih =>
    rw [List.forall_mem_cons] at h
    have hc : Fills mark [c] := by
      intro literals written
      simp [Scan.step, Literal.push, h.1]
    exact hc.append (ih h.2)

/-- An escaped character does not end the literal, even if it is the mark. -/
lemma escaped (hmark : mark ≠ '\\') (c : Char) : Fills mark ['\\', c] := by
  intro literals written
  simp [Scan.step, Literal.push, Ne.symm hmark]

end Fills

lemma fills_escape (s : List Char) : Fills '\'' (escape s) := by
  refine Fills.flatMap (fun c => ?_) s
  by_cases hslash : c = '\\'
  · simpa [hslash] using Fills.escaped (by decide) '\\'
  by_cases hquote : c = '\''
  · simpa [hquote] using Fills.escaped (by decide) '\''
  · have hplain : Fills '\'' [c] := Fills.plain (by simp [hslash, hquote])
    simpa [hslash, hquote] using hplain

lemma fills_json (s : List Char) : Fills '"' (s.flatMap Json.escaped) := by
  have hpair (c : Char) : Fills '"' ['\\', c] := Fills.escaped (by decide) c
  refine Fills.flatMap (fun c => ?_) s
  rw [Json.escaped.eq_def]
  split
  · exact hpair _
  · exact hpair _
  · exact hpair _
  · exact hpair _
  · exact hpair _
  · exact hpair _
  · exact hpair _
  · next hquote hslash _ _ _ _ _ =>
    split
    · next hc =>
      -- The digits of the number are no marks.
      have hdigit : ∀ n < 16, Json.hexDigit n ≠ '"' ∧ Json.hexDigit n ≠ '\\' := by decide
      refine (hpair 'u').append (Fills.plain ?_)
      have hhigh := hdigit (c.toNat / 16) (by omega)
      have hlow := hdigit (c.toNat % 16) (by omega)
      simp [hhigh, hlow]
    · exact Fills.plain (List.forall_mem_singleton.mpr ⟨hquote, hslash⟩)

/-! ### What a source holds -/

/-- Outside of literals, the characters hold these literals and end outside of them. -/
def Adds (s : List Char) (more : List Literal) : Prop :=
  ∀ literals, s.foldl Scan.step ⟨literals, .outside⟩ = ⟨literals ++ more, .outside⟩

namespace Adds

lemma append {s t : List Char} {more next : List Literal} (hs : Adds s more) (ht : Adds t next) :
    Adds (s ++ t) (more ++ next) := by
  intro literals
  rw [List.foldl_append, hs, ht, List.append_assoc]

/-- Characters that are no marks hold no literals. -/
lemma plain {s : List Char} (h : s.any isMark = false) : Adds s [] := by
  intro literals
  rw [List.append_nil]
  induction s with
  | nil => rfl
  | cons c s ih =>
    rw [List.any_cons, Bool.or_eq_false_iff] at h
    have hc : Scan.step ⟨literals, .outside⟩ c = ⟨literals, .outside⟩ := by
      simp [Scan.step, h.1]
    rw [List.foldl_cons, hc, ih h.2]

lemma literal {mark : Char} (hmark : isMark mark = true) {s : List Char} (hs : Fills mark s) :
    Adds (mark :: s ++ [mark]) [⟨mark, s⟩] := by
  intro literals
  have hbegin : Scan.step ⟨literals, .outside⟩ mark = ⟨literals, .inside ⟨mark, []⟩ false⟩ := by
    simp [Scan.step, hmark]
  rw [List.cons_append, List.foldl_cons, hbegin, List.foldl_append, hs]
  simp [Scan.step]

lemma flatMap {α : Type} {f : α → List Char} {g : α → List Literal} {l : List α}
    (h : ∀ a ∈ l, Adds (f a) (g a)) : Adds (l.flatMap f) (l.flatMap g) := by
  induction l with
  | nil => exact plain rfl
  | cons a l ih =>
    rw [List.forall_mem_cons] at h
    rw [List.flatMap_cons, List.flatMap_cons]
    exact h.1.append (ih h.2)

/-- Literals with a separator between them that holds none. -/
lemma join {α : Type} {f : α → List Char} {g : α → Literal} (sep : List Char)
    (hsep : sep.any isMark = false) (h : ∀ a, Adds (f a) [g a]) (l : List α) :
    Adds (Text.join sep (l.map f)) (l.map g) := by
  induction l with
  | nil => exact plain rfl
  | cons a l ih =>
    cases l with
    | nil => simpa [Text.join] using h a
    | cons b l =>
      have happend := ((h a).append (plain hsep)).append ih
      simpa [Text.join] using happend

end Adds

lemma adds_quote (s : String) : Adds (quote s) [.quoted s] :=
  Adds.literal rfl (fills_escape s.toList)

lemma adds_json (s : String) : Adds (Json.quoted s) [.json s] :=
  Adds.literal rfl (fills_json s.toList)

lemma adds_labels (values : List String) : Adds (labels values) (values.map .quoted) := by
  have hquotes := Adds.join ", ".toList (by decide) adds_quote values
  have hopen : Adds "z.enum([".toList [] := .plain (by decide)
  have hclose : Adds "])".toList [] := .plain (by decide)
  unfold labels
  simpa using (hopen.append hquotes).append hclose

lemma adds_messageObject (message : String) : Adds (messageObject message) [.quoted message] := by
  have hopen : Adds "\x7b message: ".toList [] := .plain (by decide)
  have hclose : Adds " \x7d".toList [] := .plain (by decide)
  unfold messageObject
  simpa using (hopen.append (adds_quote message)).append hclose

/-- A call with a message is what stands in front of the message, and a bracket. -/
lemma adds_call {s : List Char} {more : List Literal} (hs : Adds s more) (message : String) :
    Adds (s ++ messageObject message ++ [')']) (more ++ [.quoted message]) := by
  have hclose : Adds [')'] [] := .plain (by decide)
  simpa using (hs.append (adds_messageObject message)).append hclose

lemma adds_text (x : Binary64) : Adds x.text [] := by
  refine Adds.plain (List.any_eq_false.mpr fun c hc => Bool.eq_false_iff.mp ?_)
  obtain h | rfl | rfl | rfl := Binary64.isNumeral_of_mem_text hc
  · rw [isMark, Bool.or_eq_false_iff, beq_eq_false_iff_ne, beq_eq_false_iff_ne]
    constructor
    · rintro rfl
      exact absurd h (by decide)
    · rintro rfl
      exact absurd h (by decide)
  all_goals rfl

lemma compactChars_ofStrings (texts : List String) :
    (Json.ofStrings texts).compactChars = '[' :: join [','] (texts.map Json.quoted) ++ [']'] := by
  have hitems : Json.compactItems (texts.map .string) = join [','] (texts.map Json.quoted) := by
    induction texts with
    | nil => rfl
    | cons s texts ih =>
      cases texts with
      | nil => rfl
      | cons t texts =>
        rw [List.map_cons, List.map_cons, Json.compactItems]
        · rw [← List.map_cons, ih]
          simp [join, Json.compactChars]
        · simp
  rw [Json.ofStrings, Json.compactChars, hitems]

lemma adds_types (types : List String) :
    Adds (Json.ofStrings types).compactChars (types.map .json) := by
  have hitems := Adds.join [','] (by decide) adds_json types
  have hopen : Adds ['['] [] := .plain (by decide)
  have hclose : Adds [']'] [] := .plain (by decide)
  rw [compactChars_ofStrings]
  simpa using (hopen.append hitems).append hclose

lemma adds_base (check : BaseCheck) : Adds (base check) (baseLiterals check) := by
  obtain ⟨predicate, message⟩ := check
  cases predicate with
  | oneOf values => exact adds_labels values
  | objectId => exact adds_call (.plain (by decide)) message
  | number =>
    have hplain : "z.number()".toList.any isMark = false := by decide
    exact .plain hplain
  | boolean =>
    have hplain : "z.boolean()".toList.any isMark = false := by decide
    exact .plain hplain
  | date => exact adds_call (.plain (by decide)) message
  | text =>
    have hplain : "z.string()".toList.any isMark = false := by decide
    exact .plain hplain

lemma adds_modifier (check : ModifierCheck) : Adds (call check) (callLiterals check) := by
  have hcomma : Adds ", ".toList [] := .plain (by decide)
  obtain ⟨modifier, message⟩ := check
  cases modifier with
  | required => exact adds_call (.plain (by decide)) message
  | min bound =>
    have hopen : Adds ".min(".toList [] := .plain (by decide)
    exact adds_call ((hopen.append (adds_text bound)).append hcomma) message
  | max bound =>
    have hopen : Adds ".max(".toList [] := .plain (by decide)
    exact adds_call ((hopen.append (adds_text bound)).append hcomma) message
  | mimes types =>
    have hopen : Adds ".refine(file => file && ".toList [] := .plain (by decide)
    have hclose : Adds ".some(t => file.type.includes(t)), ".toList [] := .plain (by decide)
    have hcall := adds_call ((hopen.append (adds_types types)).append hclose) message
    simpa [call, callLiterals] using hcall
  | dateFormat format => exact .plain rfl

lemma adds_render (expression : Expression) :
    Adds (render expression).toList (literalsOf expression) := by
  have hbase := adds_base expression.base
  have hcalls : Adds (expression.modifiers.flatMap call)
      (expression.modifiers.flatMap callLiterals) :=
    Adds.flatMap fun modifier _ => adds_modifier modifier
  rw [render, literalsOf, String.toList_ofList]
  rcases expression with ⟨⟨predicate, message⟩, modifiers, enumerated⟩
  cases predicate with
  | oneOf values =>
    cases enumerated with
    | true => exact hbase.append (.plain rfl)
    | false => exact hbase.append hcalls
  | objectId => exact hbase.append hcalls
  | number => exact hbase.append hcalls
  | boolean => exact hbase.append hcalls
  | date => exact hbase.append hcalls
  | text => exact hbase.append hcalls

/-- A source has the literals of its expression, and each of them has its end. -/
theorem literals?_render (expression : Expression) :
    literals? (render expression).toList = some (literalsOf expression) := by
  have hscan := adds_render expression []
  rw [List.nil_append] at hscan
  rw [literals?, show ({} : Scan) = ⟨[], .outside⟩ from rfl, hscan]

/-! ### Line breaks -/

/-- The characters stand on one line. -/
def IsUnbroken (s : List Char) : Prop := '\n' ∉ s ∧ '\r' ∉ s

instance (s : List Char) : Decidable (IsUnbroken s) :=
  inferInstanceAs (Decidable ('\n' ∉ s ∧ '\r' ∉ s))

lemma IsUnbroken.append {s t : List Char} (hs : IsUnbroken s) (ht : IsUnbroken t) :
    IsUnbroken (s ++ t) := by
  simp [IsUnbroken, hs.1, hs.2, ht.1, ht.2]

/-- Nothing but backslashes is put into a text. -/
lemma mem_escape_iff {c : Char} (hc : c ≠ '\\') {s : List Char} : c ∈ escape s ↔ c ∈ s := by
  rw [escape, List.mem_flatMap]
  constructor
  · rintro ⟨d, hd, h⟩
    split at h
    · exact absurd h (by simp [hc])
    · split at h
      · next hquote => simp_all
      · rwa [List.mem_singleton.mp h]
  · intro h
    refine ⟨c, h, ?_⟩
    simp only [beq_iff_eq, if_neg hc]
    split
    · next hquote => simp [hquote]
    · exact List.mem_singleton_self c

/-- Escaping leaves line breaks as they are. -/
lemma isUnbroken_escape_iff {s : List Char} : IsUnbroken (escape s) ↔ IsUnbroken s := by
  rw [IsUnbroken, IsUnbroken, mem_escape_iff (by decide), mem_escape_iff (by decide)]

lemma isUnbroken_escaped (c : Char) : IsUnbroken (Json.escaped c) := by
  rw [Json.escaped.eq_def]
  split
  · decide
  · decide
  · decide
  · decide
  · decide
  · decide
  · decide
  · next hline _ hreturn _ _ =>
    split
    · have hdigit : ∀ n < 16, IsUnbroken [Json.hexDigit n] := by decide
      have hhigh := hdigit (c.toNat / 16) (by omega)
      have hlow := hdigit (c.toNat % 16) (by omega)
      have hstart : IsUnbroken ['\\', 'u', '0', '0'] := by decide
      exact (hstart.append hhigh).append hlow
    · simp [IsUnbroken, Ne.symm hline, Ne.symm hreturn]

/-- JSON has no line break in a text. -/
lemma isUnbroken_json (s : String) : IsUnbroken (Literal.json s).written := by
  constructor
  · intro h
    obtain ⟨c, -, hc⟩ := List.mem_flatMap.mp h
    exact (isUnbroken_escaped c).1 hc
  · intro h
    obtain ⟨c, -, hc⟩ := List.mem_flatMap.mp h
    exact (isUnbroken_escaped c).2 hc

lemma isUnbroken_text (x : Binary64) : IsUnbroken x.text := by
  have hline : ¬ Binary64.IsNumeral '\n' := by simp [Binary64.IsNumeral]
  have hreturn : ¬ Binary64.IsNumeral '\r' := by simp [Binary64.IsNumeral]
  exact ⟨fun h => hline (Binary64.isNumeral_of_mem_text h),
    fun h => hreturn (Binary64.isNumeral_of_mem_text h)⟩

lemma isUnbroken_predicate (predicate : Predicate) : IsUnbroken predicate.message.toList := by
  cases predicate <;> rw [Predicate.message] <;> decide

lemma isUnbroken_modifier (modifier : Modifier) : IsUnbroken modifier.message.toList := by
  cases modifier with
  | required => decide
  | min bound =>
    have hstart : IsUnbroken "Min is ".toList := by decide
    simpa [Modifier.message] using hstart.append (isUnbroken_text bound)
  | max bound =>
    have hstart : IsUnbroken "Max is ".toList := by decide
    simpa [Modifier.message] using hstart.append (isUnbroken_text bound)
  | mimes types =>
    rw [Modifier.message]
    decide
  | dateFormat format =>
    rw [Modifier.message]
    decide

/-- Every literal of a base stands on one line but those of its labels. -/
lemma isUnbroken_or_of_mem_baseLiterals {predicate : Predicate} {literal : Literal}
    (h : literal ∈ baseLiterals predicate.check) :
    IsUnbroken literal.written ∨
      ∃ labels, predicate = .oneOf labels ∧ ∃ label ∈ labels, literal = .quoted label := by
  have hmessage : IsUnbroken (Literal.quoted predicate.message).written :=
    isUnbroken_escape_iff.mpr (isUnbroken_predicate predicate)
  cases predicate with
  | oneOf labels =>
    obtain ⟨label, hlabel, rfl⟩ := List.mem_map.mp h
    exact .inr ⟨labels, rfl, label, hlabel, rfl⟩
  | objectId =>
    rw [List.mem_singleton.mp h]
    exact .inl hmessage
  | date =>
    rw [List.mem_singleton.mp h]
    exact .inl hmessage
  | number => exact absurd h List.not_mem_nil
  | boolean => exact absurd h List.not_mem_nil
  | text => exact absurd h List.not_mem_nil

/-- Every literal of a call stands on one line. -/
lemma isUnbroken_of_mem_callLiterals {modifier : Modifier} {literal : Literal}
    (h : literal ∈ callLiterals modifier.check) : IsUnbroken literal.written := by
  have hmessage : IsUnbroken (Literal.quoted modifier.message).written :=
    isUnbroken_escape_iff.mpr (isUnbroken_modifier modifier)
  cases modifier with
  | required => rwa [List.mem_singleton.mp h]
  | min bound => rwa [List.mem_singleton.mp h]
  | max bound => rwa [List.mem_singleton.mp h]
  | mimes types =>
    rcases List.mem_append.mp h with h | h
    · obtain ⟨type, -, rfl⟩ := List.mem_map.mp h
      exact isUnbroken_json type
    · rwa [List.mem_singleton.mp h]
  | dateFormat format => exact absurd h List.not_mem_nil

lemma mem_literalsOf {expression : Expression} {literal : Literal}
    (h : literal ∈ literalsOf expression) :
    literal ∈ baseLiterals expression.base ∨
      ∃ check ∈ expression.modifiers, literal ∈ callLiterals check := by
  rw [literalsOf, List.mem_append] at h
  refine h.imp_right fun hcalls => ?_
  split at hcalls
  · exact absurd hcalls List.not_mem_nil
  · exact List.mem_flatMap.mp hcalls

/-- No literal in single quotes has a line break in it. -/
def IsOnLines (source : List Char) : Prop :=
  ∃ literals, literals? source = some literals ∧
    ∀ literal ∈ literals, literal.mark = '\'' → IsUnbroken literal.written

end Validation.Zod

/-! ### Labels of a field -/

namespace Validation

lemma isInfix_of_writesItems {items : List String} {y : List Char}
    (h : Directive.WritesItems items y) {item : String} (hitem : item ∈ items) :
    item.toList <:+: y := by
  obtain ⟨parts, hparts, rfl⟩ := h
  obtain ⟨part, hpart, hpadded⟩ := hparts.exists_form hitem
  exact hpadded.isInfix.trans (isInfix_join hpart)

lemma ofType_ne_oneOf (type : SemanticType) (isForeign : Bool) (labels : List String) :
    Predicate.ofType type isForeign ≠ .oneOf labels := by
  cases isForeign <;> cases type <;> simp [Predicate.ofType]

/-- A label of a list in a rule string is a piece of it. -/
lemma isInfix_of_mem_lastLabels {rules : Option String} {labels : List String}
    (h : lastLabels? rules = some labels) {label : String} (hlabel : label ∈ labels) :
    label.toList <:+: (rules.getD "").toList := by
  obtain ⟨directive, hdirective, hlabels⟩ := List.mem_filterMap.mp (List.mem_of_getLast? h)
  rw [readRules_eq] at hdirective
  obtain ⟨token, htoken, hread⟩ := List.mem_filterMap.mp hdirective
  obtain ⟨-, hwritten⟩ := Directive.writes_of_read? (notMem_of_mem_splitAt htoken) hread
  refine List.IsInfix.trans ?_ (isInfix_of_mem_splitAt htoken)
  cases directive with
  | oneOf labels' =>
    obtain rfl := Option.some.inj hlabels
    cases hwritten with
    | @withArgument _ _ x y _ _ hy =>
      have hargument : y <:+: x ++ ':' :: y := ((List.suffix_cons _ _).trans
        (List.suffix_append _ _)).isInfix
      exact (isInfix_of_writesItems hy hlabel).trans hargument
  | _ => exact absurd hlabels (by simp [Directive.labels?])

end Validation

namespace Enumeration

/-- What is left of a text is a piece of it. -/
lemma isInfix_unquote (s : List Char) : unquote s <:+: s := by
  obtain ⟨opening, closing, -, -, htrim⟩ := exists_trim_eq_unquote s
  have hwithin : unquote s <:+: trim s := by
    rw [htrim]
    exact List.infix_append _ _ _
  exact hwithin.trans (padded_trim s).isInfix

lemma IsTakenFrom.isInfix {source label : String} (h : IsTakenFrom source label) :
    label.toList <:+: source.toList := by
  obtain ⟨part, hpart, hlabel⟩ := h.exists_eq_unquote
  rw [hlabel]
  exact (isInfix_unquote part).trans hpart

end Enumeration

namespace Record

open Validation Validation.Zod

/-- The labels that the values of the field are drawn from, if they are. -/
def labels? (record : Record) : Option (List String) :=
  closedList? record.enumeration.labels (record.text? "validation_rule")

/-- A label stands in the comments of the field, in its list of labels or in its rules. -/
lemma exists_isInfix_of_mem_labels {record : Record} {labels : List String}
    (h : record.labels? = some labels) {label : String} (hlabel : label ∈ labels) :
    ∃ header ∈ ["comments", "enum_values", "validation_rule"], ∃ source,
      record.text? header = some source ∧ label.toList <:+: source.toList := by
  rcases Option.or_eq_some_iff.mp h with henum | ⟨-, hrules⟩
  · have hlabels : record.enumeration.labels = some labels := by
      cases hcases : record.enumeration.labels with
      | none => simp [hcases, Validation.labels?] at henum
      | some others =>
        rw [hcases] at henum
        cases others with
        | nil => cases henum
        | cons first rest => exact henum
    obtain ⟨source, hsource, htaken⟩ := Enumeration.isTakenFrom_of_mem_labels hlabels hlabel
    rcases hsource with hsource | hsource
    · exact ⟨"comments", by simp, source, hsource, htaken.isInfix⟩
    · exact ⟨"enum_values", by simp, source, hsource, htaken.isInfix⟩
  · have hinfix := isInfix_of_mem_lastLabels hrules hlabel
    cases hsource : record.text? "validation_rule" with
    | none =>
      rw [hsource] at hrules
      cases hrules
    | some source =>
      rw [hsource] at hinfix
      exact ⟨"validation_rule", by simp, source, hsource, hinfix⟩

lemma predicate_toField (record : Record) :
    record.toField.validation.base.predicate =
      match record.labels? with
      | some labels => .oneOf labels
      | none => .ofType (record.type?.getD .string) (record.isMarked .foreign) :=
  predicate_translate _ _ _ _ _

lemma isUnbroken_or_of_mem_literalsOf {record : Record} {literal : Literal}
    (h : literal ∈ literalsOf record.toField.validation) :
    IsUnbroken literal.written ∨
      ∃ labels, record.labels? = some labels ∧ ∃ label ∈ labels, literal = .quoted label := by
  rcases mem_literalsOf h with hbase | ⟨check, hcheck, hcall⟩
  · obtain hline | ⟨labels, hpredicate, hlabel⟩ := isUnbroken_or_of_mem_baseLiterals hbase
    · exact .inl hline
    · refine .inr ⟨labels, ?_, hlabel⟩
      have hlabels := (predicate_toField record).symm.trans hpredicate
      split at hlabels
      · next others hothers =>
        rw [hothers, Predicate.oneOf.inj hlabels]
      · exact absurd hlabels (ofType_ne_oneOf _ _ _)
  · rw [toField, modifiers_translate] at hcheck
    obtain ⟨modifier, -, rfl⟩ := List.mem_map.mp hcheck
    exact .inl (isUnbroken_of_mem_callLiterals hcall)

lemma quoted_mem_literalsOf {record : Record} {labels : List String}
    (h : record.labels? = some labels) {label : String} (hlabel : label ∈ labels) :
    .quoted label ∈ literalsOf record.toField.validation := by
  have hpredicate := predicate_toField record
  rw [h] at hpredicate
  rw [literalsOf, baseLiterals, hpredicate]
  exact List.mem_append_left _ (List.mem_map_of_mem hlabel)

/-- Whatever a record is, every literal of its source has an end, and it stands on one line unless
it is that of a label with a line break in it. So all of them stand on one line just if all labels
do, and a label is a piece of a text that the record has. -/
theorem isOnLines_render_iff (record : Record) :
    (IsOnLines (render record.toField.validation).toList ↔
      ∀ labels, record.labels? = some labels → ∀ label ∈ labels, IsUnbroken label.toList) ∧
    (∃ literals, literals? (render record.toField.validation).toList = some literals ∧
      ∀ literal ∈ literals, IsUnbroken literal.written ∨
        ∃ labels, record.labels? = some labels ∧ ∃ label ∈ labels, literal = .quoted label) ∧
    ∀ labels, record.labels? = some labels → ∀ label ∈ labels,
      ∃ header ∈ ["comments", "enum_values", "validation_rule"], ∃ source,
        record.text? header = some source ∧ label.toList <:+: source.toList := by
  have hliterals := literals?_render record.toField.validation
  refine ⟨?_, ⟨_, hliterals, fun literal => isUnbroken_or_of_mem_literalsOf⟩, ?_⟩
  · constructor
    · rintro ⟨literals, hread, hlines⟩ labels hlabels label hlabel
      obtain rfl := Option.some.inj (hliterals.symm.trans hread)
      exact isUnbroken_escape_iff.mp (hlines _ (quoted_mem_literalsOf hlabels hlabel) rfl)
    · intro hlines
      refine ⟨_, hliterals, fun literal hliteral _ => ?_⟩
      obtain hline | ⟨labels, hlabels, label, hlabel, rfl⟩ :=
        isUnbroken_or_of_mem_literalsOf hliteral
      · exact hline
      · exact isUnbroken_escape_iff.mpr (hlines labels hlabels label hlabel)
  · intro labels hlabels label hlabel
    exact exists_isInfix_of_mem_labels hlabels hlabel

/-- A record with a comment of two lines and messages in its rules. -/
def stateRecord : Record :=
  ⟨2, [("column", .text "state"), ("comments", .text "Y => It's on,\nN => Off"),
    ("validation_rule", .text "required|min:2")]⟩

theorem isOnLines_render_iff_state :
    stateRecord.labels? = some ["It's on", "Off"] ∧
    IsOnLines (render stateRecord.toField.validation).toList ∧
    ∃ header ∈ ["comments", "enum_values", "validation_rule"], ∃ source,
      stateRecord.text? header = some source ∧ "Off".toList <:+: source.toList := by
  have hlabels : stateRecord.labels? = some ["It's on", "Off"] := by decide +kernel
  obtain ⟨hlines, -, hsource⟩ := isOnLines_render_iff stateRecord
  refine ⟨hlabels, hlines.mpr ?_, hsource _ hlabels "Off" (by simp)⟩
  intro labels h
  obtain rfl := Option.some.inj (hlabels.symm.trans h)
  decide

/-- A list of labels with a line break inside one of them. -/
theorem not_isOnLines_review :
    ¬ IsOnLines (render (toField ⟨2, [("column", .text "state"),
      ("enum_values", .text "draft, in\nreview")]⟩).validation).toList := by
  rintro ⟨literals, hread, hlines⟩
  have hliterals : literals? (render (toField ⟨2, [("column", .text "state"),
      ("enum_values", .text "draft, in\nreview")]⟩).validation).toList =
        some [⟨'\'', "draft".toList⟩, ⟨'\'', "in\nreview".toList⟩] := by
    decide +kernel
  obtain rfl := Option.some.inj (hliterals.symm.trans hread)
  exact absurd (hlines ⟨'\'', "in\nreview".toList⟩ (by simp) rfl) (by decide)

end Record

end DataDictionary
