import DataDictionary.Proofs.Text.Split
import DataDictionary.Validation.Expression
import Mathlib.Data.List.DropRight

/-!
# What rules come to

Directives are taken up one after the other. A list of labels begins anew: it becomes the base, and
the modifiers before it are lost. So nothing counts but the last list and the directives behind it.
In a field with an enumeration the lists are passed over, and all other directives count.
-/

namespace DataDictionary.Validation

open Text

/-! ### Directives -/

/-- The labels of a directive that lists them. -/
def Directive.labels? : Directive → Option (List String)
  | .oneOf labels => some labels
  | _ => none

/-- The modifier that a directive calls for. Content types are called for of uploads only. -/
def Directive.modifier? (upload : Bool) : Directive → Option Modifier
  | .required => some .required
  | .min bound => some (.min bound)
  | .max bound => some (.max bound)
  | .mimes types => if upload then some (.mimes types) else none
  | .dateFormat format => some (.dateFormat format)
  | .oneOf _ => none

/-- The last list of labels in a rule string. -/
def lastLabels? (rules : Option String) : Option (List String) :=
  ((readRules (rules.getD "")).filterMap Directive.labels?).getLast?

/-- The directives behind the last list of labels, or all of them where there is none. -/
def behindLabels (directives : List Directive) : List Directive :=
  directives.rtakeWhile (·.labels?.isNone)

/-- The modifiers that directives call for, in order. -/
def modifiersOf (upload : Bool) (directives : List Directive) : List Modifier :=
  directives.filterMap (Directive.modifier? upload)

lemma modifiersOf_append (upload : Bool) (a b : List Directive) :
    modifiersOf upload (a ++ b) = modifiersOf upload a ++ modifiersOf upload b :=
  List.filterMap_append

lemma behindLabels_concat (directives : List Directive) (directive : Directive) :
    behindLabels (directives ++ [directive]) =
      if directive.labels?.isNone then behindLabels directives ++ [directive] else [] :=
  List.rtakeWhile_concat _ _ _

/-- Content types are called for of uploads only, and by directives that list them. -/
lemma mimes_mem_modifiersOf_iff {upload : Bool} {directives : List Directive}
    {types : List String} :
    .mimes types ∈ modifiersOf upload directives ↔
      upload = true ∧ .mimes types ∈ directives := by
  rw [modifiersOf, List.mem_filterMap]
  constructor
  · rintro ⟨directive, hdirective, hmodifier⟩
    cases directive with
    | mimes types' =>
      rw [Directive.modifier?] at hmodifier
      split at hmodifier
      · next hupload =>
        obtain rfl := Modifier.mimes.inj (Option.some.inj hmodifier)
        exact ⟨hupload, hdirective⟩
      · exact absurd hmodifier (by simp)
    | _ => exact absurd hmodifier (by simp [Directive.modifier?])
  · rintro ⟨rfl, hdirective⟩
    exact ⟨_, hdirective, rfl⟩

/-! ### Chains -/

namespace Chain

variable {enumerated : Bool}

/-- A list of labels begins the chain anew, unless the field has an enumeration. -/
lemma step_of_labels {directive : Directive} {labels : List String}
    (h : directive.labels? = some labels) (upload : Bool) (chain : Chain) :
    chain.step enumerated upload directive =
      if enumerated then chain else { base := .oneOf labels } := by
  cases directive with
  | oneOf other =>
    obtain rfl := Option.some.inj h
    rfl
  | _ => exact absurd h (by simp [Directive.labels?])

/-- Any other directive leaves the base and puts its modifier behind the others. -/
lemma step_of_labels_eq_none {directive : Directive} (h : directive.labels? = none)
    (upload : Bool) (chain : Chain) :
    chain.step enumerated upload directive =
      { chain with modifiers := chain.modifiers ++ modifiersOf upload [directive] } := by
  cases directive with
  | oneOf labels => exact absurd h (by simp [Directive.labels?])
  | mimes types => cases upload <;> simp [step, add, modifiersOf, Directive.modifier?]
  | _ => rfl

/-- In a field with an enumeration the base stays, and every directive counts but the lists. -/
theorem foldl_enumerated (upload : Bool) (directives : List Directive) (base : Predicate) :
    directives.foldl (step true upload) { base } =
      { base, modifiers := modifiersOf upload directives } := by
  induction directives using List.reverseRecOn with
  | nil => rfl
  | append_singleton directives directive ih =>
    rw [List.foldl_append, ih, List.foldl_cons, List.foldl_nil, modifiersOf_append]
    cases hlabels : directive.labels? with
    | none => rw [step_of_labels_eq_none hlabels]
    | some labels =>
      rw [step_of_labels hlabels, if_pos rfl]
      cases directive <;> simp_all [Directive.labels?, modifiersOf, Directive.modifier?]

/-- In any other field the last list of labels is the base, and what stands behind it counts. -/
theorem foldl_plain (upload : Bool) (directives : List Directive) (base : Predicate) :
    directives.foldl (step false upload) { base } =
      { base :=
          match (directives.filterMap Directive.labels?).getLast? with
          | some labels => .oneOf labels
          | none => base
        modifiers := modifiersOf upload (behindLabels directives) } := by
  induction directives using List.reverseRecOn with
  | nil => rfl
  | append_singleton directives directive ih =>
    rw [List.foldl_append, ih, List.foldl_cons, List.foldl_nil, List.filterMap_append]
    cases hlabels : directive.labels? with
    | none =>
      rw [step_of_labels_eq_none hlabels]
      simp [behindLabels_concat, hlabels, modifiersOf_append]
    | some labels =>
      rw [step_of_labels hlabels]
      simp [behindLabels_concat, hlabels, modifiersOf]

lemma modifiers_foldl (enumerated upload : Bool) (directives : List Directive)
    (base : Predicate) :
    (directives.foldl (step enumerated upload) { base }).modifiers =
      modifiersOf upload (if enumerated then directives else behindLabels directives) := by
  cases enumerated with
  | true => rw [foldl_enumerated, if_pos rfl]
  | false => rw [foldl_plain, if_neg Bool.false_ne_true]

/-- What stands before a list of labels is lost, the base included. -/
lemma foldl_append_labels (upload : Bool) (before rest : List Directive) (labels : List String)
    (chain : Chain) :
    (before ++ .oneOf labels :: rest).foldl (step false upload) chain =
      rest.foldl (step false upload) { base := .oneOf labels } := by
  rw [List.foldl_append, List.foldl_cons]
  rfl

end Chain

/-! ### Expressions -/

/-- A hint marks an upload if it has the word in it, in large or small letters. -/
lemma isUploadHint_iff {hint : Option String} :
    isUploadHint hint = true ↔ ∃ text, hint = some text ∧
      ∃ written, written <:+: text.toList ∧ sameAscii written "file".toList = true := by
  cases hint with
  | none => simp [isUploadHint]
  | some text =>
    have hfile : asciiLower "file".toList = "file".toList := by decide
    simp only [isUploadHint, occurs_asciiLower_iff hfile, Option.some.injEq, exists_eq_left']

/-- An enumeration with labels has these. -/
lemma labels?_of_ne_nil {labels : List String} (h : labels ≠ []) :
    labels? (some labels) = some labels := by
  cases labels with
  | nil => exact absurd rfl h
  | cons label labels => rfl

lemma translate_enumerated (type : SemanticType) (isForeign : Bool) {labels : List String}
    (h : labels ≠ []) (rules uiHint : Option String) :
    Expression.translate type isForeign (some labels) rules uiHint =
      { base := (Predicate.oneOf labels).check
        modifiers :=
          (modifiersOf (isUploadHint uiHint) (readRules (rules.getD ""))).map Modifier.check
        enumerated := true } := by
  simp only [Expression.translate, labels?_of_ne_nil h, Option.isSome_some,
    Chain.foldl_enumerated]

/-- The directives of a field without an enumeration are taken up from the base of its type. -/
lemma translate_plain (type : SemanticType) (isForeign : Bool) {enumValues : Option (List String)}
    (h : enumValues = none ∨ enumValues = some []) (rules uiHint : Option String) :
    Expression.translate type isForeign enumValues rules uiHint =
      let chain := (readRules (rules.getD "")).foldl (Chain.step false (isUploadHint uiHint))
        { base := .ofType type isForeign }
      { base := chain.base.check, modifiers := chain.modifiers.map Modifier.check } := by
  rcases h with rfl | rfl
  · rfl
  · rfl

/-- The directives of a field that count: all of them where it has an enumeration, and in any
other field those behind the last list of labels. -/
def countingDirectives (enumValues : Option (List String)) (rules : Option String) :
    List Directive :=
  if (labels? enumValues).isSome then readRules (rules.getD "")
  else behindLabels (readRules (rules.getD ""))

/-- The labels that the values of a field are drawn from, if there are such: those of its
enumeration, or else the last list in its rules. -/
def closedList? (enumValues : Option (List String)) (rules : Option String) :
    Option (List String) :=
  (labels? enumValues).or (lastLabels? rules)

section Translate

variable (type : SemanticType) (isForeign : Bool) (enumValues : Option (List String))
  (rules uiHint : Option String)

lemma modifiers_translate :
    (Expression.translate type isForeign enumValues rules uiHint).modifiers =
      (modifiersOf (isUploadHint uiHint) (countingDirectives enumValues rules)).map
        Modifier.check := by
  rw [Expression.translate, Chain.modifiers_foldl, countingDirectives]

lemma predicate_translate :
    (Expression.translate type isForeign enumValues rules uiHint).base.predicate =
      match closedList? enumValues rules with
      | some labels => .oneOf labels
      | none => .ofType type isForeign := by
  rw [Expression.translate, closedList?]
  cases labels? enumValues with
  | some labels => exact congrArg Chain.base (Chain.foldl_enumerated _ _ _)
  | none => exact congrArg Chain.base (Chain.foldl_plain _ _ _)

end Translate

/-- Whatever the rules are: in a field with an enumeration this is the base, and all directives
count but the lists of labels. In any other field the last list is the base, or where there is none
what the type calls for, an identifier in foreign fields, and the directives behind it count; so
nothing before a list of labels makes a difference, and neither does the type. Content types count
where the hint has the word for a file in it, in any letters. -/
theorem translate_by_last_labels (type : SemanticType) (isForeign : Bool)
    (rules uiHint : Option String) :
    (∀ labels : List String, labels ≠ [] →
      Expression.translate type isForeign (some labels) rules uiHint =
        { base := ⟨.oneOf labels, "Invalid enum value"⟩
          modifiers :=
            (modifiersOf (isUploadHint uiHint) (readRules (rules.getD ""))).map Modifier.check
          enumerated := true }) ∧
    (∀ enumValues : Option (List String), enumValues = none ∨ enumValues = some [] →
      Expression.translate type isForeign enumValues rules uiHint =
        { base :=
            match lastLabels? rules, isForeign, type with
            | some labels, _, _ => ⟨.oneOf labels, "Invalid enum value"⟩
            | none, true, _ => ⟨.objectId, "Invalid ObjectId"⟩
            | none, false, .reference => ⟨.objectId, "Invalid ObjectId"⟩
            | none, false, .number => ⟨.number, "Expected number"⟩
            | none, false, .boolean => ⟨.boolean, "Expected boolean"⟩
            | none, false, .date => ⟨.date, "Invalid date format"⟩
            | none, false, .string => ⟨.text, "Expected string"⟩
          modifiers :=
            (modifiersOf (isUploadHint uiHint) (behindLabels (readRules (rules.getD "")))).map
              Modifier.check
          enumerated := false } ∧
      ∀ (type' : SemanticType) (isForeign' : Bool) (rules' : Option String)
        (before before' rest : List Directive) (labels : List String),
        readRules (rules.getD "") = before ++ .oneOf labels :: rest →
        readRules (rules'.getD "") = before' ++ .oneOf labels :: rest →
        Expression.translate type' isForeign' enumValues rules' uiHint =
          Expression.translate type isForeign enumValues rules uiHint) ∧
    (isUploadHint uiHint = true ↔ ∃ hint, uiHint = some hint ∧
      ∃ written, written <:+: hint.toList ∧ sameAscii written "file".toList = true) := by
  refine ⟨?_, ?_, isUploadHint_iff⟩
  · intro labels h
    exact translate_enumerated type isForeign h rules uiHint
  · intro enumValues h
    constructor
    · rw [translate_plain type isForeign h, lastLabels?, Chain.foldl_plain]
      cases ((readRules (rules.getD "")).filterMap Directive.labels?).getLast? with
      | some labels => rfl
      | none => cases isForeign <;> cases type <;> rfl
    · intro type' isForeign' rules' before before' rest labels hrules hrules'
      rw [translate_plain type' isForeign' h, translate_plain type isForeign h, hrules, hrules',
        Chain.foldl_append_labels, Chain.foldl_append_labels]

/-- Rules with a list of labels in the middle. -/
def stateRules : Option String := some "required|in:draft, published|mimes:png"

theorem translate_by_last_labels_state :
    (["Active"] ≠ [] ∧
      Expression.translate .number false (some ["Active"]) stateRules (some "FileUpload") =
        { base := ⟨.oneOf ["Active"], "Invalid enum value"⟩
          modifiers := [⟨.required, "Required"⟩, ⟨.mimes ["png"], "Invalid file type"⟩]
          enumerated := true }) ∧
    Expression.translate .number false none stateRules (some "FileUpload") =
      { base := ⟨.oneOf ["draft", "published"], "Invalid enum value"⟩
        modifiers := [⟨.mimes ["png"], "Invalid file type"⟩]
        enumerated := false } ∧
    (∀ isForeign : Bool,
      Expression.translate .date isForeign none (some "required|date_format:Y-m-d") none =
        { base :=
            if isForeign then ⟨.objectId, "Invalid ObjectId"⟩ else ⟨.date, "Invalid date format"⟩
          modifiers :=
            [⟨.required, "Required"⟩, ⟨.dateFormat "Y-m-d", "Invalid date format"⟩]
          enumerated := false }) ∧
    readRules (stateRules.getD "") =
      [.required] ++ .oneOf ["draft", "published"] :: [.mimes ["png"]] ∧
    readRules "max:x|IN:draft,published|mimes:png" =
      [] ++ .oneOf ["draft", "published"] :: [.mimes ["png"]] ∧
    Expression.translate .date true none (some "max:x|IN:draft,published|mimes:png") none =
      Expression.translate .number false none stateRules none := by
  have hne : ["Active"] ≠ [] := List.cons_ne_nil _ _
  have hrules : readRules (stateRules.getD "") =
      [.required] ++ .oneOf ["draft", "published"] :: [.mimes ["png"]] := by decide +kernel
  have hrules' : readRules "max:x|IN:draft,published|mimes:png" =
      [] ++ .oneOf ["draft", "published"] :: [.mimes ["png"]] := by decide +kernel
  obtain ⟨henumerated, hplain, -⟩ :=
    translate_by_last_labels .number false stateRules (some "FileUpload")
  obtain ⟨-, hplain', -⟩ := translate_by_last_labels .number false stateRules none
  refine ⟨⟨hne, ?_⟩, ?_, fun isForeign => ?_, hrules, hrules', ?_⟩
  · rw [henumerated ["Active"] hne]
    decide +kernel
  · rw [(hplain none (.inl rfl)).1]
    decide +kernel
  · obtain ⟨-, htyped, -⟩ :=
      translate_by_last_labels .date isForeign (some "required|date_format:Y-m-d") none
    rw [(htyped none (.inl rfl)).1]
    cases isForeign <;> decide +kernel
  · exact (hplain' none (.inl rfl)).2 .date true (some "max:x|IN:draft,published|mimes:png") _ _ _
      _ hrules hrules'

end DataDictionary.Validation
