import DataDictionary.Proofs.Json.Structure
import DataDictionary.Validation.Codec

/-!
# Validation expressions that are read back

The bounds of an expression are the only numbers in it. If they are finite, then the JSON of the
expression stands for the expression; if each of them is read back, then so is the JSON.
-/

namespace DataDictionary

/-- The text of a finite number in a document is read as the same number. -/
def Binary64.ReadsBack (x : Binary64) : Prop :=
  x.isFinite = true → Json.readNumber x.document = some (.float x, [])

instance (x : Binary64) : Decidable x.ReadsBack :=
  inferInstanceAs (Decidable (_ → Json.readNumber x.document = some (.float x, [])))

namespace Validation

open Json (present required?_present withDefault?_present fields?_present list?_map
  strings?_ofStrings number?_ofBinary64)

/-- The bound of a modifier. -/
def Modifier.numbers : Modifier → List Binary64
  | .min bound => [bound]
  | .max bound => [bound]
  | _ => []

/-- The bounds of an expression. -/
def Expression.numbers (expression : Expression) : List Binary64 :=
  expression.modifiers.flatMap fun check => check.modifier.numbers

lemma Expression.mem_numbers {expression : Expression} {check : ModifierCheck}
    (hcheck : check ∈ expression.modifiers) {x : Binary64} (hx : x ∈ check.modifier.numbers) :
    x ∈ expression.numbers :=
  List.mem_flatMap.mpr ⟨check, hcheck, hx⟩

/-! ### Reading what was written -/

lemma Predicate.ofJson?_toJson (predicate : Predicate) :
    Predicate.ofJson? predicate.toJson = some predicate := by
  cases predicate with
  | oneOf labels =>
    simp [ofJson?, toJson, Json.variant?, ofVariant?, Json.holding?, strings?_ofStrings]
  | objectId => rfl
  | number => rfl
  | boolean => rfl
  | date => rfl
  | text => rfl

lemma Modifier.ofJson?_toJson {modifier : Modifier}
    (h : ∀ x ∈ modifier.numbers, x.isFinite = true) :
    Modifier.ofJson? modifier.toJson = some modifier := by
  cases modifier with
  | required => rfl
  | min bound =>
    have hbound := number?_ofBinary64 (h bound (List.mem_singleton_self bound))
    simp [ofJson?, toJson, Json.variant?, ofVariant?, Json.holding?, hbound]
  | max bound =>
    have hbound := number?_ofBinary64 (h bound (List.mem_singleton_self bound))
    simp [ofJson?, toJson, Json.variant?, ofVariant?, Json.holding?, hbound]
  | mimes types =>
    simp [ofJson?, toJson, Json.variant?, ofVariant?, Json.holding?, strings?_ofStrings]
  | dateFormat format => rfl

/-- What is written of the check of a base. -/
def BaseCheck.entries (check : BaseCheck) : List (String × Option Json) :=
  [("predicate", some check.predicate.toJson), ("message", some (.string check.message))]

lemma BaseCheck.nodup_keys (check : BaseCheck) : (check.entries.map Prod.fst).Nodup := by
  have hkeys : ["predicate", "message"].Nodup := by decide
  exact hkeys

lemma BaseCheck.toJson_eq (check : BaseCheck) : check.toJson = .object (present check.entries) :=
  rfl

lemma BaseCheck.ofJson?_toJson (check : BaseCheck) :
    BaseCheck.ofJson? check.toJson = some check := by
  have h := check.nodup_keys
  rw [toJson_eq, ofJson?, fields?_present h]
  have hpredicate := required?_present Predicate.ofJson? h
    (List.mem_of_getElem? (i := 0) rfl)
  have hmessage := required?_present Json.string? h
    (List.mem_of_getElem? (i := 1) rfl)
  simp only [Option.bind_eq_bind, Option.bind_some, hpredicate, hmessage,
    Predicate.ofJson?_toJson, Json.string?]

/-- What is written of the check of a modifier. -/
def ModifierCheck.entries (check : ModifierCheck) : List (String × Option Json) :=
  [("modifier", some check.modifier.toJson), ("message", some (.string check.message))]

lemma ModifierCheck.nodup_keys (check : ModifierCheck) : (check.entries.map Prod.fst).Nodup := by
  have hkeys : ["modifier", "message"].Nodup := by decide
  exact hkeys

lemma ModifierCheck.toJson_eq (check : ModifierCheck) :
    check.toJson = .object (present check.entries) := rfl

lemma ModifierCheck.ofJson?_toJson {check : ModifierCheck}
    (hfinite : ∀ x ∈ check.modifier.numbers, x.isFinite = true) :
    ModifierCheck.ofJson? check.toJson = some check := by
  have h := check.nodup_keys
  rw [toJson_eq, ofJson?, fields?_present h]
  have hmodifier := required?_present Modifier.ofJson? h
    (List.mem_of_getElem? (i := 0) rfl)
  have hmessage := required?_present Json.string? h
    (List.mem_of_getElem? (i := 1) rfl)
  simp only [Option.bind_eq_bind, Option.bind_some, hmodifier, hmessage,
    Modifier.ofJson?_toJson hfinite, Json.string?]

/-- What is written of an expression. -/
def Expression.entries (expression : Expression) : List (String × Option Json) :=
  [("base", some expression.base.toJson),
   ("modifiers", some (.array (expression.modifiers.map ModifierCheck.toJson))),
   ("enumerated", some (.bool expression.enumerated))]

lemma Expression.nodup_keys (expression : Expression) :
    (expression.entries.map Prod.fst).Nodup := by
  have hkeys : ["base", "modifiers", "enumerated"].Nodup := by decide
  exact hkeys

lemma Expression.toJson_eq (expression : Expression) :
    expression.toJson = .object (present expression.entries) := rfl

/-- An expression is what its JSON stands for. -/
lemma Expression.ofJson?_toJson {expression : Expression}
    (hfinite : ∀ x ∈ expression.numbers, x.isFinite = true) :
    Expression.ofJson? expression.toJson = some expression := by
  have h := expression.nodup_keys
  have hmodifiers : Json.list? ModifierCheck.ofJson?
      (.array (expression.modifiers.map ModifierCheck.toJson)) = some expression.modifiers :=
    list?_map fun check hcheck => ModifierCheck.ofJson?_toJson fun x hx =>
      hfinite x (mem_numbers hcheck hx)
  rw [toJson_eq, ofJson?, fields?_present h]
  have hbase := required?_present BaseCheck.ofJson? h
    (List.mem_of_getElem? (i := 0) rfl)
  have hlist := required?_present (Json.list? ModifierCheck.ofJson?) h
    (List.mem_of_getElem? (i := 1) rfl)
  have henumerated := withDefault?_present Json.bool? h false
    (List.mem_of_getElem? (i := 2) rfl)
  simp only [Option.bind_eq_bind, Option.bind_some, hbase, hlist, henumerated,
    BaseCheck.ofJson?_toJson, hmodifiers, Json.bool?]

/-! ### Reading the text -/

lemma Predicate.readable_toJson (predicate : Predicate) : predicate.toJson.Readable := by
  cases predicate with
  | oneOf labels => exact .object (by simpa using .ofStrings labels)
  | objectId => exact .string _
  | number => exact .string _
  | boolean => exact .string _
  | date => exact .string _
  | text => exact .string _

lemma readable_ofBinary64 {x : Binary64} (hfinite : x.isFinite = true) (hread : x.ReadsBack) :
    (Json.ofBinary64 x).Readable :=
  .number (hread hfinite)

lemma Modifier.readable_toJson {modifier : Modifier}
    (h : ∀ x ∈ modifier.numbers, x.isFinite = true ∧ x.ReadsBack) : modifier.toJson.Readable := by
  cases modifier with
  | required => exact .string _
  | min bound =>
    have hbound := h bound (List.mem_singleton_self bound)
    exact .object (by simpa using readable_ofBinary64 hbound.1 hbound.2)
  | max bound =>
    have hbound := h bound (List.mem_singleton_self bound)
    exact .object (by simpa using readable_ofBinary64 hbound.1 hbound.2)
  | mimes types => exact .object (by simpa using .ofStrings types)
  | dateFormat format => exact .object (by simpa using .string format)

lemma BaseCheck.readable_toJson (check : BaseCheck) : check.toJson.Readable := by
  refine .object ?_
  simp only [List.forall_mem_cons]
  exact ⟨check.predicate.readable_toJson, .string _, by simp⟩

lemma ModifierCheck.readable_toJson {check : ModifierCheck}
    (h : ∀ x ∈ check.modifier.numbers, x.isFinite = true ∧ x.ReadsBack) :
    check.toJson.Readable := by
  refine .object ?_
  simp only [List.forall_mem_cons]
  exact ⟨Modifier.readable_toJson h, .string _, by simp⟩

/-- An expression whose bounds are read back is read back. -/
lemma Expression.readable_toJson {expression : Expression}
    (h : ∀ x ∈ expression.numbers, x.isFinite = true ∧ x.ReadsBack) :
    expression.toJson.Readable := by
  refine .object ?_
  simp only [List.forall_mem_cons]
  refine ⟨expression.base.readable_toJson, ?_, .bool _, by simp⟩
  exact .map fun check hcheck => ModifierCheck.readable_toJson fun x hx =>
    h x (mem_numbers hcheck hx)

end Validation

end DataDictionary
