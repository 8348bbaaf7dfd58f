import DataDictionary.Model.OfRecord
import DataDictionary.Proofs.Text.Whole
import DataDictionary.Proofs.Validation.Evaluation

/-!
# Defaults among labels

The default of a field keeps its type, and is one of the labels of the field if its text is. The
validation of the field compares the text of its JSON instead, which is the same for texts and
truth values. The JSON of a number always shows a fraction or an exponent, so a whole number that
is a label is no valid value of its own field.
-/

namespace DataDictionary

open Text

/-! ### The two texts of a number -/

namespace Binary64

/-- A whole number that running text writes as an integer. -/
inductive IsWhole : Binary64 → Prop where
  | intro (negative : Bool) {rank : Fin magnitudes} (hfraction : fractionUnits rank = 0)
      (hbound : wholePart rank < Nat.pow 10 15) : IsWhole (.finite negative rank)

lemma isDigit_of_mem_text {x : Binary64} (h : x.IsWhole) {c : Char} (hc : c ∈ x.text) :
    c = '-' ∨ c.isDigit = true := by
  cases h with
  | intro negative hfraction hbound =>
    rw [text, if_pos (by simp [hfraction, hbound])] at hc
    rcases List.mem_append.mp hc with hsign | hdigit
    · rw [signChars] at hsign
      split at hsign
      · exact .inl (List.mem_singleton.mp hsign)
      · exact absurd hsign List.not_mem_nil
    · exact .inr (isDigit_of_mem_decimal hdigit)

lemma point_mem_positional (d : Decimal) : '.' ∈ d.positional ".0".toList := by
  rw [Decimal.positional]
  split
  · simp
  dsimp only
  split
  · simp
  · simp

lemma exponent_mem_scientific (d : Decimal) : 'e' ∈ d.scientific := by
  simp [Decimal.scientific]

/-- In a document a finite number shows a fraction or an exponent. -/
lemma exists_mark_document {x : Binary64} (h : x.isFinite = true) :
    '.' ∈ x.document ∨ 'e' ∈ x.document := by
  cases x with
  | finite negative rank =>
    simp only [document]
    split
    · exact .inl (List.mem_append_right _ (point_mem_positional _))
    · exact .inr (List.mem_append_right _ (exponent_mem_scientific _))
  | infinite negative => exact absurd h Bool.false_ne_true
  | nan => exact absurd h Bool.false_ne_true

/-- A document writes a whole number in another way than running text. -/
lemma document_ne_text {x : Binary64} (h : x.IsWhole) : x.document ≠ x.text := by
  have hfinite : x.isFinite = true := by
    cases h
    rfl
  intro heq
  rcases exists_mark_document hfinite with hmark | hmark
  · rw [heq] at hmark
    exact absurd (isDigit_of_mem_text h hmark) (by decide)
  · rw [heq] at hmark
    exact absurd (isDigit_of_mem_text h hmark) (by decide)

end Binary64

/-! ### Stored values -/

namespace Scalar

/-- The JSON value that a value is stored as. A number that is not finite is stored as null. -/
def stored : Scalar → Json
  | .number x => if x.isFinite then .ofBinary64 x else .null
  | value => value.toJson

lemma isObject_stored (value : Scalar) : value.stored.isObject = false := by
  cases value with
  | number x =>
    rw [stored]
    split <;> rfl
  | _ => rfl

lemma compact_boolean (b : Bool) : (Json.bool b).compact = (Scalar.boolean b).display := by
  cases b <;> rfl

open Validation (IsAmong) in
/-- A value that is one of the labels by its text is none of them in JSON just if it is stored as a
number whose JSON is no label. -/
lemma not_isAmong_stored_iff {labels : List String} {value : Scalar} (h : value.display ∈ labels) :
    value.stored.isBlank = false ∧ ¬ IsAmong labels value.stored ↔
      ∃ x, value = .number x ∧ x.isFinite = true ∧ value.toJson.compact ∉ labels := by
  cases value with
  | boolean b =>
    have hamong : IsAmong labels (boolean b).stored := .bool (compact_boolean b ▸ h)
    simp [hamong]
  | text s =>
    have hamong : IsAmong labels (text s).stored := .string h
    simp [hamong]
  | number x =>
    cases hfinite : x.isFinite with
    | true =>
      have hamong : IsAmong labels (number x).stored ↔ (number x).toJson.compact ∈ labels := by
        rw [stored, if_pos hfinite]
        constructor
        · intro hamong
          cases hamong with
          | number hlabel => exact hlabel
        · exact .number
      have hblank : (number x).stored.isBlank = false := by
        rw [stored, if_pos hfinite]
        rfl
      simp [hamong, hblank, hfinite]
    | false =>
      -- null is blank, so of the base nothing is reported
      have hblank : (number x).stored.isBlank = true := by
        rw [stored, hfinite]
        rfl
      simp [hblank, hfinite]

end Scalar

/-! ### Defaults of fields -/

open Validation in
/-- In a field with labels the message of the base is reported of all that is none of them, unless
it is blank. -/
lemma Field.base_message_mem_evaluate_stored_iff {field : Field} {labels : List String}
    {value : Scalar} (hvalidation : field.validation = field.derivedValidation)
    (hlabels : field.enumValues = some labels) (hne : labels ≠ []) :
    field.validation.base.message ∈ field.validation.evaluate value.stored ↔
      value.stored.isBlank = false ∧ ¬ IsAmong labels value.stored := by
  rw [hvalidation, derivedValidation, hlabels, translate_enumerated _ _ hne,
    Expression.base_message_mem_evaluate_iff]
  · rw [← Predicate.accepts_oneOf_iff, Expression.Takes, Expression.isFile,
      Scalar.isObject_stored, Bool.false_and]
    simp [Predicate.check]
  · intro check hcheck
    obtain ⟨modifier, -, rfl⟩ := List.mem_map.mp hcheck
    exact modifier.message_ne_oneOf labels

/-- A default that is one of the labels of its field by its text fails the enumeration of the field
just if it is a number whose JSON is not one of them. So no text and no truth value does; and a
whole number has a text in JSON that is not the one by which it is a label. -/
theorem Record.base_message_reported_iff (record : Record) {labels : List String}
    (hlabels : record.toField.enumValues = some labels) :
    ∀ default, record.toField.default = some default → default.display ∈ labels →
      (record.toField.validation.base.message ∈
          record.toField.validation.evaluate default.stored ↔
        ∃ x, default = .number x ∧ x.isFinite = true ∧ default.toJson.compact ∉ labels) ∧
      ∀ x, default = .number x → x.IsWhole → default.toJson.compact ≠ default.display := by
  intro default _ hmem
  have hvalidation : record.toField.validation = record.toField.derivedValidation := by
    simp only [toField, Field.derivedValidation]
  rw [Field.base_message_mem_evaluate_stored_iff hvalidation hlabels (List.ne_nil_of_mem hmem)]
  refine ⟨Scalar.not_isAmong_stored_iff hmem, ?_⟩
  rintro x rfl hwhole heq
  exact Binary64.document_ne_text hwhole (String.ofList_injective heq)

/-- A record whose default has a fraction. -/
def Record.rate : Record := .ofValues 2 [
  ("column", .text "rate"), ("type", .text "decimal"), ("comments", .text "l => 0.5, h => 2.5"),
  ("default_value", .number (.ofRatio false 5 2))]

theorem Record.base_message_reported_iff_rate :
    Record.rate.toField.enumValues = some ["0.5", "2.5"] ∧
    Record.rate.toField.default = some (.number (.ofRatio false 5 2)) ∧
    (Scalar.number (.ofRatio false 5 2)).display ∈ ["0.5", "2.5"] ∧
    Record.rate.toField.validation.base.message ∉
      Record.rate.toField.validation.evaluate (Scalar.number (.ofRatio false 5 2)).stored := by
  have hlabels : Record.rate.toField.enumValues = some ["0.5", "2.5"] := by decide +kernel
  have hdefault : Record.rate.toField.default = some (.number (.ofRatio false 5 2)) := by
    decide +kernel
  have hmem : (Scalar.number (.ofRatio false 5 2)).display ∈ ["0.5", "2.5"] := by decide +kernel
  refine ⟨hlabels, hdefault, hmem, ?_⟩
  rw [(Record.base_message_reported_iff Record.rate hlabels _ hdefault hmem).1]
  rintro ⟨x, -, -, hcompact⟩
  exact hcompact (by decide +kernel)

/-- A record whose default is a whole number. -/
def Record.level : Record := .ofValues 2 [
  ("column", .text "level"), ("default_value", .number (.ofInt 2)),
  ("enum_values", .text "1, 2, 3")]

/-- The number 2 is one of the labels by its text, and fails the enumeration of its own field. -/
theorem Record.base_message_reported_level :
    Record.level.toField.enumValues = some ["1", "2", "3"] ∧
    Record.level.toField.default = some (.number (.ofInt 2)) ∧
    (Scalar.number (.ofInt 2)).display ∈ ["1", "2", "3"] ∧
    Record.level.toField.validation.base.message ∈
      Record.level.toField.validation.evaluate (Scalar.number (.ofInt 2)).stored := by
  decide +kernel

end DataDictionary
