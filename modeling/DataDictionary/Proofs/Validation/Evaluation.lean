import DataDictionary.Proofs.Validation.Chain
import DataDictionary.Validation.Evaluation

/-!
# What a validation reports

A value leaves its evaluation at one of three places: blank, turned away by the base, or held
against every modifier. What it reports there grows with the rules: directives behind others only
add failures, unless they list labels or content types. And a value that nothing is reported of is
blank where it may be, the descriptor of a file in a field for files, or a single value that the
base accepts; a list that has items never is.
-/

namespace DataDictionary.Validation

open Text

/-! ### The places where an evaluation ends -/

namespace Expression

variable {expression : Expression} {value : Json}

lemma isFile_iff :
    expression.isFile value = true ↔ value.isObject = true ∧
      ∃ types, .mimes types ∈ expression.modifiers.map (·.modifier) := by
  rw [isFile, Bool.and_eq_true, List.any_eq_true]
  refine and_congr_right fun _ => ?_
  constructor
  · rintro ⟨check, hcheck, hmodifier⟩
    split at hmodifier
    · next types htypes => exact ⟨types, List.mem_map.mpr ⟨check, hcheck, htypes⟩⟩
    · exact absurd hmodifier Bool.false_ne_true
  · rintro ⟨types, htypes⟩
    obtain ⟨check, hcheck, hmodifier⟩ := List.mem_map.mp htypes
    exact ⟨check, hcheck, by rw [hmodifier]⟩

/-- The value is of the kind that the field calls for, or the descriptor of a file in its place. -/
def Takes (expression : Expression) (value : Json) : Prop :=
  expression.isFile value = true ∨ expression.base.predicate.accepts value = true

/-- Of a blank value only its absence is reported, where one is required. -/
lemma evaluate_of_isBlank (h : value.isBlank = true) :
    expression.evaluate value =
      ((expression.modifiers.find? (·.modifier == .required)).map (·.message)).toList := by
  rw [evaluate, if_pos h]

/-- Of a value that is not taken only this is reported. -/
lemma evaluate_of_not_takes (h : value.isBlank = false) (htakes : ¬ expression.Takes value) :
    expression.evaluate value = [expression.base.message] := by
  obtain ⟨hfile, haccepts⟩ := not_or.mp htakes
  simp [evaluate, h, hfile, haccepts]

/-- A value that is taken is held against every modifier. -/
lemma evaluate_of_takes (h : value.isBlank = false) (htakes : expression.Takes value) :
    expression.evaluate value =
      (expression.modifiers.filter (!·.modifier.accepts value)).map (·.message) := by
  rcases htakes with hfile | haccepts
  · simp [evaluate, h, hfile]
  · simp [evaluate, h, haccepts]

lemma find?_required_eq_none_iff :
    expression.modifiers.find? (·.modifier == .required) = none ↔
      expression.isRequired = false := by
  rw [List.find?_eq_none, isRequired, List.any_eq_false]

/-- Nothing is reported of a value just if it is blank and may be, or is taken and accepted by
every modifier. -/
theorem evaluate_eq_nil_iff :
    expression.evaluate value = [] ↔
      (value.isBlank = true ∧ expression.isRequired = false) ∨
      (value.isBlank = false ∧ expression.Takes value ∧
        ∀ check ∈ expression.modifiers, check.modifier.accepts value = true) := by
  cases hblank : value.isBlank with
  | true =>
    rw [evaluate_of_isBlank hblank, Option.toList_eq_nil_iff, Option.map_eq_none_iff,
      find?_required_eq_none_iff]
    simp
  | false =>
    by_cases htakes : expression.Takes value
    · rw [evaluate_of_takes hblank htakes]
      simp [htakes]
    · rw [evaluate_of_not_takes hblank htakes]
      simp [htakes]

/-- The message of the base is reported of just those values that are not taken, as long as no
modifier has the same message. -/
lemma base_message_mem_evaluate_iff
    (h : ∀ check ∈ expression.modifiers, check.message ≠ expression.base.message) :
    expression.base.message ∈ expression.evaluate value ↔
      value.isBlank = false ∧ ¬ expression.Takes value := by
  have hmodifiers {checks : List ModifierCheck} (hchecks : checks ⊆ expression.modifiers) :
      expression.base.message ∉ checks.map (·.message) := by
    intro hmem
    obtain ⟨check, hcheck, hmessage⟩ := List.mem_map.mp hmem
    exact h check (hchecks hcheck) hmessage
  cases hblank : value.isBlank with
  | true =>
    rw [evaluate_of_isBlank hblank, Option.toList_map]
    refine iff_of_false (hmodifiers ?_) (by simp)
    intro check hcheck
    exact List.mem_of_find?_eq_some (Option.mem_toList.mp hcheck)
  | false =>
    by_cases htakes : expression.Takes value
    · rw [evaluate_of_takes hblank htakes]
      exact iff_of_false (hmodifiers List.filter_sublist.subset) fun hne => hne.2 htakes
    · rw [evaluate_of_not_takes hblank htakes]
      exact iff_of_true (List.mem_singleton_self _) ⟨rfl, htakes⟩

/-! ### More rules -/

/-- The expression with further checks behind its own. -/
def addChecks (expression : Expression) (checks : List ModifierCheck) : Expression :=
  { expression with modifiers := expression.modifiers ++ checks }

variable {checks : List ModifierCheck}

lemma takes_addChecks_iff (h : ∀ check ∈ checks, ∀ types, check.modifier ≠ .mimes types) :
    (expression.addChecks checks).Takes value ↔ expression.Takes value := by
  refine or_congr ?_ Iff.rfl
  rw [isFile_iff, isFile_iff]
  refine and_congr_right fun _ => exists_congr fun types => ?_
  rw [addChecks, List.map_append, List.mem_append, or_iff_left]
  intro hmem
  obtain ⟨check, hcheck, htypes⟩ := List.mem_map.mp hmem
  exact h check hcheck types htypes

/-- Checks behind the others only add failures, unless they let files in. -/
lemma evaluate_prefix_addChecks (h : ∀ check ∈ checks, ∀ types, check.modifier ≠ .mimes types)
    (expression : Expression) (value : Json) :
    expression.evaluate value <+: (expression.addChecks checks).evaluate value := by
  cases hblank : value.isBlank with
  | true =>
    -- the first check that requires a value stays the first
    rw [evaluate_of_isBlank hblank, evaluate_of_isBlank hblank, addChecks, List.find?_append]
    cases expression.modifiers.find? (·.modifier == .required) with
    | none => exact List.nil_prefix
    | some check => exact List.prefix_rfl
  | false =>
    by_cases htakes : expression.Takes value
    · rw [evaluate_of_takes hblank htakes,
        evaluate_of_takes hblank ((takes_addChecks_iff h).mpr htakes), addChecks,
        List.filter_append, List.map_append]
      exact List.prefix_append _ _
    · rw [evaluate_of_not_takes hblank htakes,
        evaluate_of_not_takes hblank (mt (takes_addChecks_iff h).mp htakes), addChecks]

end Expression

/-- Rules with a bar between them are read one after the other. -/
lemma readRules_append (first second : String) :
    readRules (first ++ "|" ++ second) = readRules first ++ readRules second := by
  have hchars : (first ++ "|" ++ second).toList = first.toList ++ '|' :: second.toList := by simp
  rw [readRules, hchars, splitAt, splitWhere_append_cons (by decide), List.map_append,
    List.filter_append, List.filterMap_append]
  rfl

/-- Directives without a list of labels leave the base and put their modifiers behind all. -/
lemma Chain.foldl_of_labels_eq_none {directives : List Directive}
    (h : ∀ directive ∈ directives, directive.labels? = none) (enumerated upload : Bool)
    (chain : Chain) :
    directives.foldl (step enumerated upload) chain =
      { chain with modifiers := chain.modifiers ++ modifiersOf upload directives } := by
  induction directives generalizing chain with
  | nil => simp [modifiersOf]
  | cons directive directives ih =>
    rw [List.forall_mem_cons] at h
    rw [List.foldl_cons, step_of_labels_eq_none h.1, ih h.2, List.append_assoc,
      ← modifiersOf_append, List.singleton_append]

section MoreRules

variable (type : SemanticType) (isForeign : Bool) (enumValues : Option (List String))
  (uiHint : Option String)

/-- Rules without a list of labels put their checks behind those of the rules before them. -/
lemma translate_append {first second : String}
    (h : ∀ directive ∈ readRules second, directive.labels? = none) :
    Expression.translate type isForeign enumValues (some (first ++ "|" ++ second)) uiHint =
      (Expression.translate type isForeign enumValues (some first) uiHint).addChecks
        ((modifiersOf (isUploadHint uiHint) (readRules second)).map Modifier.check) := by
  simp only [Expression.translate, Expression.addChecks, Option.getD_some, readRules_append,
    List.foldl_append, Chain.foldl_of_labels_eq_none h, List.map_append]

/-- Rules with a bar between them are read one after the other. If the second ones list neither
labels nor content types, they only add failures to what the first ones report, whatever the field
and the value are; so what fails the first rules fails both. -/
theorem evaluate_prefix_more_rules (first second : String) (value : Json) :
    readRules (first ++ "|" ++ second) = readRules first ++ readRules second ∧
    ((∀ directive ∈ readRules second,
        (∀ labels, directive ≠ .oneOf labels) ∧ ∀ types, directive ≠ .mimes types) →
      (Expression.translate type isForeign enumValues (some first) uiHint).evaluate value <+:
        (Expression.translate type isForeign enumValues (some (first ++ "|" ++ second))
          uiHint).evaluate value ∧
      ((Expression.translate type isForeign enumValues (some first) uiHint).evaluate value ≠ [] →
        (Expression.translate type isForeign enumValues (some (first ++ "|" ++ second))
          uiHint).evaluate value ≠ [])) := by
  refine ⟨readRules_append first second, ?_⟩
  intro h
  have hlabels : ∀ directive ∈ readRules second, directive.labels? = none := by
    intro directive hdirective
    cases directive with
    | oneOf labels => exact absurd rfl ((h _ hdirective).1 labels)
    | _ => rfl
  have hmimes : ∀ check ∈ (modifiersOf (isUploadHint uiHint) (readRules second)).map Modifier.check,
      ∀ types, check.modifier ≠ .mimes types := by
    intro check hcheck types htypes
    obtain ⟨modifier, hmodifier, rfl⟩ := List.mem_map.mp hcheck
    obtain rfl : modifier = .mimes types := htypes
    exact (h _ (mimes_mem_modifiersOf_iff.mp hmodifier).2).2 types rfl
  have hbegins := Expression.evaluate_prefix_addChecks hmimes
    (Expression.translate type isForeign enumValues (some first) uiHint) value
  rw [← translate_append type isForeign enumValues uiHint hlabels] at hbegins
  refine ⟨hbegins, ?_⟩
  intro hne hnil
  rw [hnil] at hbegins
  exact hne (List.prefix_nil.mp hbegins)

end MoreRules

/-- The second rules add a failure of their own. -/
theorem evaluate_prefix_more_rules_code :
    (∀ directive ∈ readRules "max:3|date_format:Y",
      (∀ labels, directive ≠ .oneOf labels) ∧ ∀ types, directive ≠ .mimes types) ∧
    (Expression.translate .string false none (some "required|min:6") none).evaluate
      (.string "draft") = ["Min is 6"] ∧
    ["Min is 6"] <+: (Expression.translate .string false none
      (some ("required|min:6" ++ "|" ++ "max:3|date_format:Y")) none).evaluate (.string "draft") := by
  have hrules : readRules "max:3|date_format:Y" = [.max (.ofInt 3), .dateFormat "Y"] := by
    decide +kernel
  have hrefines : ∀ directive ∈ readRules "max:3|date_format:Y",
      (∀ labels, directive ≠ .oneOf labels) ∧ ∀ types, directive ≠ .mimes types := by
    rw [hrules]
    simp
  have hfirst : (Expression.translate .string false none (some "required|min:6") none).evaluate
      (.string "draft") = ["Min is 6"] := by decide +kernel
  have hbegins := ((evaluate_prefix_more_rules .string false none none "required|min:6"
    "max:3|date_format:Y" (.string "draft")).2 hrefines).1
  rw [hfirst] at hbegins
  exact ⟨hrefines, hfirst, hbegins⟩

/-! ### Accepted values -/

/-- A text, a number or a truth value. -/
inductive IsSingle : Json → Prop where
  | string (s : String) : IsSingle (.string s)
  | number (n : Json.Number) : IsSingle (.number n)
  | bool (b : Bool) : IsSingle (.bool b)

/-- The value is one of the labels: a text by itself, a number or a truth value by its JSON. -/
inductive IsAmong (labels : List String) : Json → Prop where
  | string {s : String} (h : s ∈ labels) : IsAmong labels (.string s)
  | number {n : Json.Number} (h : (Json.number n).compact ∈ labels) : IsAmong labels (.number n)
  | bool {b : Bool} (h : (Json.bool b).compact ∈ labels) : IsAmong labels (.bool b)

lemma Predicate.isSingle_of_accepts {predicate : Predicate} {value : Json}
    (h : predicate.accepts value = true) : IsSingle value := by
  cases value with
  | string s => exact .string s
  | number n => exact .number n
  | bool b => exact .bool b
  | _ => cases predicate <;> exact absurd h Bool.false_ne_true

lemma Predicate.accepts_oneOf_iff {labels : List String} {value : Json} :
    (Predicate.oneOf labels).accepts value = true ↔ IsAmong labels value := by
  constructor
  · intro h
    cases value with
    | string s => exact .string (List.contains_iff_mem.mp h)
    | number n => exact .number (List.contains_iff_mem.mp h)
    | bool b => exact .bool (List.contains_iff_mem.mp h)
    | _ => exact absurd h Bool.false_ne_true
  · intro h
    cases h with
    | string h => exact List.contains_iff_mem.mpr h
    | number h => exact List.contains_iff_mem.mpr h
    | bool h => exact List.contains_iff_mem.mpr h

/-- No modifier fails with the message of a list of labels. -/
lemma Modifier.message_ne_oneOf (modifier : Modifier) (labels : List String) :
    modifier.message ≠ (Predicate.oneOf labels).message := by
  have hbound {word : String} (hword : word.toList.head? = some 'M') (bound : Binary64) :
      word ++ String.ofList bound.text ≠ (Predicate.oneOf labels).message := by
    intro h
    have hhead := congrArg (·.toList.head?) h
    simp [hword, Predicate.message] at hhead
  cases modifier with
  | min bound => exact hbound (by decide) bound
  | max bound => exact hbound (by decide) bound
  | _ => simp [Modifier.message, Predicate.message]

section AcceptedValues

variable (type : SemanticType) (isForeign : Bool) (enumValues : Option (List String))
  (rules uiHint : Option String)

/-- Files are let in where they are uploaded and the content types of a directive count. -/
lemma isFile_translate_iff (value : Json) :
    (Expression.translate type isForeign enumValues rules uiHint).isFile value = true ↔
      value.isObject = true ∧ isUploadHint uiHint = true ∧
        ∃ types, .mimes types ∈ countingDirectives enumValues rules := by
  have hmodifiers (modifiers : List Modifier) :
      (modifiers.map Modifier.check).map (·.modifier) = modifiers := by
    rw [List.map_map]
    exact List.map_id modifiers
  rw [Expression.isFile_iff, modifiers_translate, hmodifiers]
  simp only [mimes_mem_modifiersOf_iff, exists_and_left]

/-- What an accepted value can be: blank where none is required, the descriptor of a file in a
field that files of certain content types are uploaded to, or a single value that satisfies the
base. Where the values are drawn from a closed list, all but blank ones and files are in it. A list
that has items is never accepted. -/
theorem accepted_values {value : Json}
    (h : (Expression.translate type isForeign enumValues rules uiHint).evaluate value = []) :
    ((value.isBlank = true ∧
        (Expression.translate type isForeign enumValues rules uiHint).isRequired = false) ∨
      (value.isObject = true ∧ isUploadHint uiHint = true ∧
        ∃ types, .mimes types ∈ countingDirectives enumValues rules) ∨
      (IsSingle value ∧
        (Expression.translate type isForeign enumValues rules uiHint).base.predicate.accepts value =
          true)) ∧
    (∀ labels, closedList? enumValues rules = some labels →
      value.isBlank = false → value.isObject = false → IsAmong labels value) ∧
    ∀ items, items ≠ [] → value ≠ .array items := by
  rcases Expression.evaluate_eq_nil_iff.mp h with hblank | ⟨hblank, hfile | haccepts, -⟩
  · refine ⟨.inl hblank, ?_, ?_⟩
    · intro labels _ hfalse
      exact absurd (hblank.1.symm.trans hfalse) Bool.noConfusion
    · rintro items hitems rfl
      exact hitems (List.isEmpty_iff.mp hblank.1)
  · obtain hupload := (isFile_translate_iff type isForeign enumValues rules uiHint value).mp hfile
    refine ⟨.inr (.inl hupload), ?_, ?_⟩
    · intro labels _ _ hfalse
      exact absurd (hupload.1.symm.trans hfalse) Bool.noConfusion
    · rintro items - rfl
      exact absurd hupload.1 Bool.false_ne_true
  · have hsingle := Predicate.isSingle_of_accepts haccepts
    refine ⟨.inr (.inr ⟨hsingle, haccepts⟩), ?_, ?_⟩
    · intro labels hlabels _ _
      rw [predicate_translate, hlabels] at haccepts
      exact Predicate.accepts_oneOf_iff.mp haccepts
    · rintro items - rfl
      cases hsingle

end AcceptedValues

/-- A number is among labels by the text that its JSON has. -/
theorem accepted_values_level :
    (Expression.translate .string false none (some "max:0|in:low, 1|required") none).evaluate
      (.ofInt 1) = [] ∧
    closedList? none (some "max:0|in:low, 1|required") = some ["low", "1"] ∧
    IsAmong ["low", "1"] (.ofInt 1) := by
  have haccepted : (Expression.translate .string false none (some "max:0|in:low, 1|required")
      none).evaluate (.ofInt 1) = [] := by decide +kernel
  have hlist : closedList? none (some "max:0|in:low, 1|required") = some ["low", "1"] := by
    decide +kernel
  exact ⟨haccepted, hlist,
    (accepted_values .string false none _ none haccepted).2.1 _ hlist rfl rfl⟩

end DataDictionary.Validation
