import DataDictionary.Proofs.Assembly
import DataDictionary.Proofs.Model.Codec

/-!
# Numbers of an extraction

Numbers come into a table in two places: a cell becomes the default value of a field, and a rule
becomes a bound of its validation. At both, what is not finite is turned away, so no table of an
extraction holds such a number.
-/

namespace DataDictionary

/-! ### Bounds -/

namespace Validation

/-- The bound of a directive. -/
def Directive.numbers : Directive → List Binary64
  | .min bound => [bound]
  | .max bound => [bound]
  | _ => []

lemma Directive.isFinite_of_bound? {s : List Char} {x : Binary64} (h : bound? s = some x) :
    x.isFinite = true := by
  rw [bound?, Option.filter_eq_some_iff] at h
  exact h.2

lemma Directive.isFinite_of_ofParts? {name argument : List Char} {directive : Directive}
    (h : ofParts? name argument = some directive) : ∀ x ∈ directive.numbers, x.isFinite = true := by
  intro x hx
  rw [ofParts?] at h
  split at h
  · obtain ⟨bound, hbound, rfl⟩ := Option.map_eq_some_iff.mp h
    rw [List.mem_singleton.mp hx]
    exact isFinite_of_bound? hbound
  split at h
  · obtain ⟨bound, hbound, rfl⟩ := Option.map_eq_some_iff.mp h
    rw [List.mem_singleton.mp hx]
    exact isFinite_of_bound? hbound
  split at h
  · obtain ⟨types, -, rfl⟩ := Option.map_eq_some_iff.mp h
    exact absurd hx List.not_mem_nil
  split at h
  · obtain rfl := Option.some.inj h
    exact absurd hx List.not_mem_nil
  split at h
  · obtain ⟨labels, -, rfl⟩ := Option.map_eq_some_iff.mp h
    exact absurd hx List.not_mem_nil
  · exact absurd h (by simp)

lemma Directive.isFinite_of_read? {s : List Char} {directive : Directive}
    (h : read? s = some directive) : ∀ x ∈ directive.numbers, x.isFinite = true := by
  rw [read?] at h
  split at h
  · obtain rfl := Option.some.inj h
    intro x hx
    exact absurd hx List.not_mem_nil
  split at h
  · exact isFinite_of_ofParts? h
  · exact absurd h (by simp)

/-- The directives of a rule string have finite bounds. -/
lemma isFinite_of_mem_readRules {rules : String} {directive : Directive}
    (h : directive ∈ readRules rules) : ∀ x ∈ directive.numbers, x.isFinite = true := by
  obtain ⟨part, -, hpart⟩ := List.mem_filterMap.mp h
  exact Directive.isFinite_of_read? hpart

/-- The bounds of a chain are finite. -/
def Chain.IsFinite (chain : Chain) : Prop :=
  ∀ modifier ∈ chain.modifiers, ∀ x ∈ modifier.numbers, x.isFinite = true

lemma Chain.IsFinite.add {chain : Chain} (h : chain.IsFinite) {modifier : Modifier}
    (hmodifier : ∀ x ∈ modifier.numbers, x.isFinite = true) : (chain.add modifier).IsFinite := by
  intro other hother
  rcases List.mem_append.mp hother with hbefore | hlast
  · exact h other hbefore
  · rw [List.mem_singleton.mp hlast]
    exact hmodifier

/-- A directive brings no bound into a chain but its own. -/
lemma Chain.IsFinite.step {chain : Chain} (h : chain.IsFinite) (enumerated upload : Bool)
    {directive : Directive} (hdirective : ∀ x ∈ directive.numbers, x.isFinite = true) :
    (chain.step enumerated upload directive).IsFinite := by
  have hnone (modifier : Modifier) (hmodifier : modifier.numbers = []) :
      (chain.add modifier).IsFinite := by
    refine h.add fun x hx => ?_
    rw [hmodifier] at hx
    exact absurd hx List.not_mem_nil
  cases directive with
  | oneOf labels =>
    rw [Chain.step]
    split
    · exact h
    · intro modifier hmodifier
      exact absurd hmodifier List.not_mem_nil
  | mimes types =>
    rw [Chain.step]
    split
    · exact hnone (.mimes types) rfl
    · exact h
  | required => exact hnone .required rfl
  | min bound => exact h.add hdirective
  | max bound => exact h.add hdirective
  | dateFormat format => exact hnone (.dateFormat format) rfl

lemma Chain.IsFinite.foldl {chain : Chain} (h : chain.IsFinite) (enumerated upload : Bool)
    {directives : List Directive}
    (hdirectives : ∀ directive ∈ directives, ∀ x ∈ directive.numbers, x.isFinite = true) :
    (directives.foldl (Chain.step enumerated upload) chain).IsFinite := by
  induction directives generalizing chain with
  | nil => exact h
  | cons directive directives ih =>
    rw [List.forall_mem_cons] at hdirectives
    exact ih (h.step enumerated upload hdirectives.1) hdirectives.2

/-- The bounds of a validation are finite. -/
lemma Expression.isFinite_translate (type : SemanticType) (isForeign : Bool)
    (enumValues : Option (List String)) (rules uiHint : Option String) :
    ∀ x ∈ (translate type isForeign enumValues rules uiHint).numbers, x.isFinite = true := by
  intro x hx
  obtain ⟨check, hcheck, hx⟩ := List.mem_flatMap.mp hx
  rw [translate] at hcheck
  obtain ⟨modifier, hmodifier, rfl⟩ := List.mem_map.mp hcheck
  refine Chain.IsFinite.foldl ?_ _ _ (fun _ => isFinite_of_mem_readRules) modifier hmodifier x hx
  intro modifier hmodifier
  exact absurd hmodifier List.not_mem_nil

end Validation

/-! ### Default values -/

/-- The number of the value is finite. -/
def Scalar.IsFinite (value : Scalar) : Prop := ∀ x ∈ value.numbers, x.isFinite = true

lemma Scalar.isFinite_text (s : String) : (Scalar.text s).IsFinite := by
  intro x hx
  exact absurd hx List.not_mem_nil

/-- A cell whose number is not finite has a text for a value. -/
lemma Cell.isFinite_of_scalar? {cell : Cell} {value : Scalar} (h : cell.scalar? = some value) :
    value.IsFinite := by
  have htext (text : Option String) (h : text.map Scalar.text = some value) : value.IsFinite := by
    obtain ⟨s, -, rfl⟩ := Option.map_eq_some_iff.mp h
    exact Scalar.isFinite_text s
  rw [scalar?] at h
  split at h
  · exact absurd h (by simp)
  · exact absurd h (by simp)
  · obtain rfl := Option.some.inj h
    intro x hx
    exact absurd hx List.not_mem_nil
  · split at h
    · next x _ =>
      obtain rfl := Option.some.inj h
      split
      · next hx =>
        intro y hy
        rw [List.mem_singleton.mp hy]
        exact hx
      · exact Scalar.isFinite_text _
    · obtain rfl := Option.some.inj h
      exact Scalar.isFinite_text _
  · exact htext _ h

lemma Layout.isFinite_record (sheet : Sheet) (headers : List (Nat × String)) (row : Nat) :
    ∀ entry ∈ (record sheet headers row).values, entry.2.IsFinite := by
  intro entry hentry
  obtain ⟨header, -, hheader⟩ := List.mem_filterMap.mp (mem_of_mem_upsertAll hentry)
  obtain ⟨value, hvalue, rfl⟩ := Option.map_eq_some_iff.mp hheader
  obtain ⟨cell, -, hcell⟩ := Option.bind_eq_some_iff.mp hvalue
  exact Cell.isFinite_of_scalar? hcell

/-- The records of a sheet hold no number that is not finite. -/
lemma Layout.isFinite_of_mem_records {layout : Layout} {sheet : Sheet} {record : Record}
    (h : record ∈ layout.records sheet) : ∀ entry ∈ record.values, entry.2.IsFinite := by
  obtain ⟨row, -, rfl⟩ := List.mem_map.mp (List.mem_filter.mp h).1
  exact isFinite_record sheet _ row

lemma Record.isFinite_default? {record : Record} (h : ∀ entry ∈ record.values, entry.2.IsFinite)
    {value : Scalar} (hvalue : record.default? = some value) : value.IsFinite := by
  obtain ⟨stored, hstored, rfl⟩ := Option.map_eq_some_iff.mp hvalue
  have hlookup := (Option.filter_eq_some_iff.mp hstored).1
  obtain ⟨before, after, hvalues, -⟩ := List.lookup_eq_some_iff.mp hlookup
  have hfinite : stored.IsFinite := h ("default_value", stored) (by simp [hvalues])
  cases stored with
  | boolean b => exact hfinite
  | number x => exact hfinite
  | text s => exact Scalar.isFinite_text _

lemma Enumeration.isFinite_resolve (comments list : Option String) {default : Option Scalar}
    (h : ∀ value ∈ default, value.IsFinite) :
    ∀ value ∈ (resolve comments list default).default, value.IsFinite := by
  rw [resolve]
  split
  · intro value hvalue
    obtain ⟨stored, hstored, rfl⟩ := Option.map_eq_some_iff.mp hvalue
    rw [translate]
    split
    · exact Scalar.isFinite_text _
    · exact h stored hstored
  · exact h

/-! ### Tables -/

lemma Record.isFinite_toField {record : Record} (h : ∀ entry ∈ record.values, entry.2.IsFinite) :
    ∀ x ∈ record.toField.numbers, x.isFinite = true := by
  intro x hx
  rcases List.mem_append.mp hx with hdefault | hvalidation
  · obtain ⟨value, hvalue, hx⟩ := List.mem_flatMap.mp hdefault
    have hfinite := Enumeration.isFinite_resolve (record.text? "comments")
      (record.text? "enum_values") (fun _ => isFinite_default? h) value
      (Option.mem_toList.mp hvalue)
    exact hfinite x hx
  · exact Validation.Expression.isFinite_translate _ _ _ _ _ x hvalidation

namespace Extraction

/-- An extraction holds no number that is not finite. -/
theorem isFinite_assemble (options : Options) (sheets : List Sheet) :
    ∀ table ∈ (assemble options sheets).tables, ∀ x ∈ table.numbers, x.isFinite = true := by
  intro table htable x hx
  obtain ⟨field, hfield, hx⟩ := List.mem_flatMap.mp hx
  obtain ⟨sheet, -, record, hrecord, rfl⟩ := exists_record_of_mem_fields htable hfield
  exact Record.isFinite_toField (Layout.isFinite_of_mem_records hrecord) x hx

end Extraction

end DataDictionary
