import DataDictionary.Proofs.Enumeration
import DataDictionary.Proofs.Snapshot
import DataDictionary.Proofs.Text.Blank
import DataDictionary.Proofs.Text.Whole
import DataDictionary.Proofs.Validation.Chain

/-!
# Coherent fields

What a field says in one place agrees with what it says in another: its validation is the one that
its other attributes come to, whose base is told by its enumeration, or else by its rules, or else
by its type. So it is in every table of an extraction, whatever the sheets hold. A snapshot keeps
it so if each number is read back from its text, which is not the case for all of them.
-/

namespace DataDictionary

open Text

/-! ### Names -/

namespace Binary64

lemma exists_not_isBlank_decimal (n : Nat) : ∃ c ∈ decimal n, isBlank c = false := by
  obtain ⟨c, rest, hn⟩ := List.exists_cons_of_ne_nil (l := decimal n) Nat.toDigits_ne_nil
  have hc : c ∈ decimal n := by
    rw [hn]
    exact List.mem_cons_self ..
  exact ⟨c, hc, isBlank_of_isDigit (isDigit_of_mem_decimal hc)⟩

lemma exists_not_isBlank_positional (fraction : List Char) (d : Decimal) :
    ∃ c ∈ d.positional fraction, isBlank c = false := by
  rw [Decimal.positional]
  split
  · obtain ⟨c, hc, hblank⟩ := exists_not_isBlank_decimal d.digits
    exact ⟨c, List.mem_append_left _ (List.mem_append_left _ hc), hblank⟩
  dsimp only
  split
  · exact ⟨'0', by simp, by decide⟩
  · exact ⟨'.', by simp, by decide⟩

/-- A number is never written as white space. -/
lemma trim_text_ne_nil (x : Binary64) : trim x.text ≠ [] := by
  cases x with
  | finite negative rank =>
    rw [text]
    split
    · obtain ⟨c, hc, hblank⟩ := exists_not_isBlank_decimal (wholePart rank)
      exact trim_ne_nil (List.mem_append_right _ hc) hblank
    · obtain ⟨c, hc, hblank⟩ := exists_not_isBlank_positional [] (shortest .upward rank)
      exact trim_ne_nil (List.mem_append_right _ hc) hblank
  | infinite negative =>
    have hmem : 'i' ∈ (infinite negative).text := List.mem_append_right _ (by decide)
    exact trim_ne_nil hmem (by decide)
  | nan =>
    have hmem : 'N' ∈ nan.text := by decide
    exact trim_ne_nil hmem (by decide)

end Binary64

lemma Scalar.trim_display_ne_nil {value : Scalar} (h : value.isPresent = true) :
    trim value.display.toList ≠ [] := by
  cases value with
  | boolean b => cases b <;> decide
  | number x =>
    rw [display, String.toList_ofList]
    exact x.trim_text_ne_nil
  | text s => simpa [isPresent, display] using h

namespace Record

/-- A text under a header is trimmed, and there is something left of it. -/
lemma trimmed_of_text? {record : Record} {header text : String}
    (h : record.text? header = some text) : trimmed text = text ∧ text ≠ "" := by
  obtain ⟨value, hvalue, rfl⟩ := Option.map_eq_some_iff.mp h
  have hpresent := (Option.filter_eq_some_iff.mp hvalue).2
  exact ⟨trimmed_trimmed _, trimmed_ne_empty (Scalar.trim_display_ne_nil hpresent)⟩

/-- A record of a sheet names its field. -/
lemma name_of_mem_records {layout : Layout} {sheet : Sheet} {record : Record}
    (h : record ∈ layout.records sheet) : trimmed record.name = record.name ∧ record.name ≠ "" := by
  obtain ⟨value, hvalue⟩ := Option.isSome_iff_exists.mp (List.mem_filter.mp h).2
  have htext : record.text? "column" = some (trimmed value.display) := by
    rw [text?, ← nameHeader, hvalue]
    rfl
  rw [name, htext]
  exact trimmed_of_text? htext

end Record

/-! ### Validations -/

namespace Validation

lemma Predicate.ofType_eq (type : SemanticType) (isForeign : Bool) :
    ofType type isForeign =
      if isForeign = true ∨ type = .reference then .objectId else ofType type false := by
  cases isForeign with
  | true => rfl
  | false => cases type <;> rfl

end Validation

/-! ### Fields -/

namespace Field

/-- The field agrees with itself. -/
structure Coherent (field : Field) : Prop where
  name_ne : field.name ≠ ""
  name_trimmed : trimmed field.name = field.name
  validation_eq : field.validation = field.derivedValidation
  /-- An enumeration has labels, which are the base. -/
  enumerated : ∀ labels, field.enumValues = some labels →
    labels ≠ [] ∧ (∀ label ∈ labels, label ≠ "") ∧
      field.validation.base.predicate = .oneOf labels ∧ field.validation.enumerated = true
  /-- Without an enumeration the rules come before the type. -/
  plain : field.enumValues = none →
    field.validation.enumerated = false ∧
      field.validation.base.predicate =
        match Validation.lastLabels? field.rules with
        | some labels => .oneOf labels
        | none =>
          if field.isForeign = true ∨ field.type = .reference then .objectId
          else .ofType field.type false
  upload_of_mimes : ∀ check ∈ field.validation.modifiers, ∀ types,
    check.modifier = .mimes types → field.isUpload = true
  base_message : field.validation.base.message = field.validation.base.predicate.message
  modifier_messages : ∀ check ∈ field.validation.modifiers,
    check.message = check.modifier.message

end Field

open Validation in
/-- A field agrees with itself if its name is right and its enumeration has labels. -/
lemma Field.coherent_of_derived {field : Field}
    (hname : trimmed field.name = field.name ∧ field.name ≠ "")
    (hvalidation : field.validation = field.derivedValidation)
    (hlabels : ∀ labels, field.enumValues = some labels →
      labels ≠ [] ∧ ∀ label ∈ labels, label ≠ "") : field.Coherent where
  name_ne := hname.2
  name_trimmed := hname.1
  validation_eq := hvalidation
  enumerated := by
    intro labels henum
    obtain ⟨hne, hlabel⟩ := hlabels labels henum
    rw [hvalidation, derivedValidation, henum, translate_enumerated _ _ hne]
    exact ⟨hne, hlabel, rfl, rfl⟩
  plain := by
    intro henum
    rw [hvalidation, derivedValidation, predicate_translate, henum, ← Predicate.ofType_eq]
    exact ⟨rfl, rfl⟩
  upload_of_mimes := by
    intro check hcheck types htypes
    rw [hvalidation] at hcheck
    rw [derivedValidation, modifiers_translate] at hcheck
    obtain ⟨modifier, hmodifier, rfl⟩ := List.mem_map.mp hcheck
    obtain rfl : modifier = .mimes types := htypes
    exact (mimes_mem_modifiersOf_iff.mp hmodifier).1
  base_message := by
    rw [hvalidation]
    rfl
  modifier_messages := by
    intro check hcheck
    rw [hvalidation] at hcheck
    obtain ⟨modifier, -, rfl⟩ := List.mem_map.mp hcheck
    rfl

lemma Record.coherent_toField {layout : Layout} {sheet : Sheet} {record : Record}
    (h : record ∈ layout.records sheet) : record.toField.Coherent := by
  refine Field.coherent_of_derived ?_ ?_ ?_
  · rw [name_toField]
    exact name_of_mem_records h
  · simp only [toField, Field.derivedValidation]
  · intro labels hlabels
    rw [toField] at hlabels
    refine ⟨(Enumeration.labels_resolve hlabels).1, ?_⟩
    intro label hlabel
    obtain ⟨source, -, htaken⟩ := Enumeration.isTakenFrom_of_mem_labels hlabels hlabel
    exact htaken.ne_empty

namespace Extraction

lemma coherent_of_mem_assemble (options : Options) (sheets : List Sheet) :
    ∀ table ∈ (assemble options sheets).tables, ∀ field ∈ table.fields, field.Coherent := by
  intro table htable field hfield
  obtain ⟨sheet, -, record, hrecord, rfl⟩ := exists_record_of_mem_fields htable hfield
  exact Record.coherent_toField hrecord

/-- A sheet with a field whose rule sets a bound that no snapshot keeps. -/
def traces : Sheet := (Sheet.new "traces.ods" "traces").pushAll [
  ⟨1, 0, .text, "Column"⟩, ⟨1, 1, .text, "Validation_Rule"⟩,
  ⟨2, 0, .text, "amount"⟩, ⟨2, 1, .text, "min:1e-23"⟩]

lemma headers_traces : ({} : Layout).headers traces = [(0, "column"), (1, "validation_rule")] := by
  rw [Layout.headers, Sheet.row_of_pairwise (by decide +kernel)]
  decide +kernel

lemma tables_traces : (assemble {} [traces]).tables =
    [{ name := "traces"
       fields := [{
        name := "amount"
        type := .string
        rules := some "min:1e-23"
        validation := .translate .string false none (some "min:1e-23") none }] }] := by
  simp only [assemble, ofSheets, addSheet, List.foldl_cons, List.foldl_nil, Layout.records,
    headers_traces]
  decide +kernel

/-- Every field of an extraction agrees with itself, and so it does in the snapshot of the tables
if the text of each number in them is read as that number. -/
theorem coherent_assemble (options : Options) (sheets : List Sheet) :
    (∀ table ∈ (assemble options sheets).tables, ∀ field ∈ table.fields, field.Coherent) ∧
    ((∀ table ∈ (assemble options sheets).tables, ∀ x ∈ table.numbers, x.ReadsBack) →
      ∃ snapshot, Snapshot.ofText?
          (Snapshot.toText { tables := (assemble options sheets).tables }) = some snapshot ∧
        ∀ table ∈ snapshot.tables, ∀ field ∈ table.fields, field.Coherent) := by
  have hcoherent := coherent_of_mem_assemble options sheets
  refine ⟨hcoherent, ?_⟩
  intro hread
  refine ⟨{ tables := (assemble options sheets).tables }, Snapshot.ofText?_toText ?_, hcoherent⟩
  intro table htable x hx
  exact ⟨isFinite_assemble options sheets table htable x hx, hread table htable x hx⟩

theorem coherent_assemble_rates :
    (∀ table ∈ (assemble {} [Snapshot.rates]).tables, ∀ field ∈ table.fields, field.Coherent) ∧
      ∃ snapshot, Snapshot.ofText?
          (Snapshot.toText { tables := (assemble {} [Snapshot.rates]).tables }) = some snapshot ∧
        ∀ table ∈ snapshot.tables, ∀ field ∈ table.fields, field.Coherent :=
  ⟨(coherent_assemble {} [Snapshot.rates]).1,
    (coherent_assemble {} [Snapshot.rates]).2 Snapshot.readsBack_rates⟩

/-- A bound whose text is read as another number is no longer the one that the rules come to. -/
theorem validation_ne_traces :
    ∃ snapshot, Snapshot.ofText? (Snapshot.toText { tables := (assemble {} [traces]).tables }) =
        some snapshot ∧
      ∃ table ∈ snapshot.tables, ∃ field ∈ table.fields,
        field.validation ≠ field.derivedValidation := by
  have hlost : (Snapshot.ofText? (Snapshot.toText { tables := (assemble {} [traces]).tables })).any
      (fun snapshot => snapshot.tables.any fun table => table.fields.any fun field =>
        field.validation != field.derivedValidation) = true := by
    rw [tables_traces, Snapshot.ofText?, Snapshot.toText, Json.indented, String.toList_ofList]
    decide +kernel
  obtain ⟨snapshot, hsnapshot, htables⟩ := Option.any_eq_true .. |>.mp hlost
  obtain ⟨table, htable, hfields⟩ := List.any_eq_true.mp htables
  obtain ⟨field, hfield, hne⟩ := List.any_eq_true.mp hfields
  exact ⟨snapshot, hsnapshot, table, htable, field, hfield, bne_iff_ne.mp hne⟩

end Extraction

end DataDictionary
