import DataDictionary.Proofs.Finiteness
import DataDictionary.Proofs.Sheet
import DataDictionary.Snapshot.Basic

/-!
# Snapshots that are read back

The tables of an extraction are what the text of their snapshot is read as: nothing is lost or
moved between them, as long as the text of each number in them is read as that number.
-/

namespace DataDictionary

namespace Snapshot

open Extraction (assemble isFinite_assemble)

/-- Tables whose numbers are finite and read back are read back. -/
lemma ofText?_toText {tables : List Table}
    (h : ∀ table ∈ tables, ∀ x ∈ table.numbers, x.isFinite = true ∧ x.ReadsBack) :
    ofText? (toText { tables }) = some { tables } := by
  have hreadable : (tablesToJson tables).Readable :=
    .map fun table htable => Table.readable_toJson (h table htable)
  have hdecode : tablesOfJson? (tablesToJson tables) = some tables :=
    Json.list?_map fun table htable => Table.ofJson?_toJson fun x hx => (h table htable x hx).1
  rw [ofText?, toText, Json.read?_indented hreadable, Option.bind_some, hdecode]
  rfl

/-- Tables with finite numbers are read back from their text if the text of each number is, and all
numbers of an extraction are finite. -/
theorem tables_read_back :
    (∀ tables : List Table,
      (∀ table ∈ tables, ∀ x ∈ table.numbers, x.isFinite = true) →
      (∀ table ∈ tables, ∀ x ∈ table.numbers, x.ReadsBack) →
        ofText? (toText { tables }) = some { tables }) ∧
    ∀ (options : Options) (sheets : List Sheet),
      (∀ table ∈ (assemble options sheets).tables, ∀ x ∈ table.numbers, x.isFinite = true) ∧
      ((∀ table ∈ (assemble options sheets).tables, ∀ x ∈ table.numbers, x.ReadsBack) →
        ofText? (toText { tables := (assemble options sheets).tables }) =
          some { tables := (assemble options sheets).tables }) := by
  constructor
  · intro tables hfinite hread
    apply ofText?_toText
    intro table htable x hx
    exact ⟨hfinite table htable x hx, hread table htable x hx⟩
  · intro options sheets
    have hfinite := isFinite_assemble options sheets
    refine ⟨hfinite, ?_⟩
    intro hread
    apply ofText?_toText
    intro table htable x hx
    exact ⟨hfinite table htable x hx, hread table htable x hx⟩

/-- A sheet with a field that has a default value and bounds. -/
def rates : Sheet := (Sheet.new "rates.ods" "rates").pushAll [
  ⟨1, 0, .text, "Column"⟩, ⟨1, 1, .text, "Default_Value"⟩, ⟨1, 2, .text, "Validation_Rule"⟩,
  ⟨2, 0, .text, "rate"⟩, ⟨2, 1, .number, "2.5"⟩, ⟨2, 2, .text, "min:-0.125|max:10"⟩]

lemma headers_rates : ({} : Layout).headers rates =
    [(0, "column"), (1, "default_value"), (2, "validation_rule")] := by
  rw [Layout.headers, Sheet.row_of_pairwise (by decide +kernel)]
  decide +kernel

lemma readsBack_rates :
    ∀ table ∈ (assemble {} [rates]).tables, ∀ x ∈ table.numbers, x.ReadsBack := by
  simp only [assemble, Extraction.ofSheets, Extraction.addSheet, List.foldl_cons, List.foldl_nil,
    Layout.records, headers_rates]
  decide +kernel

theorem tables_read_back_rates :
    ofText? (toText { tables := (assemble {} [rates]).tables }) =
        some { tables := (assemble {} [rates]).tables } ∧
      ofText? (toText { tables := (assemble {} [rates]).tables.reverse }) =
        some { tables := (assemble {} [rates]).tables.reverse } := by
  refine ⟨(tables_read_back.2 {} [rates]).2 readsBack_rates, ?_⟩
  refine tables_read_back.1 _ ?_ ?_
  · intro table htable
    exact (tables_read_back.2 {} [rates]).1 table (List.mem_reverse.mp htable)
  · intro table htable
    exact readsBack_rates table (List.mem_reverse.mp htable)

end Snapshot

end DataDictionary
