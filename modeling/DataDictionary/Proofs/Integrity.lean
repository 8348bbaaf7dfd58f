import DataDictionary.Model.Integrity
import DataDictionary.Snapshot.Basic
import Mathlib.Data.List.Perm.Basic

/-!
# Findings among tables

A table is known to its fellows just if it can be looked up among them by its name. So what is
found about a table is told by its own fields and by which look-ups among the tables fail: tables
that are added can only make look-ups succeed, and the order of tables does not matter to them.
-/

namespace DataDictionary

open Text (lowered)

/-! ### Names that are known -/

/-- The name is known just if a table is found by it. -/
lemma contains_lowered_eq (tables : List Table) (name : String) :
    (tables.map fun table => lowered table.name).contains (lowered name) =
      (Snapshot.find? { tables } name).isSome := by
  rw [Bool.eq_iff_iff]
  simp [Snapshot.find?]

/-- Where there are more tables, more of them are found. -/
lemma isSome_find?_of_subset {ts us : List Table} (h : ts ⊆ us) {name : String}
    (hname : (Snapshot.find? { tables := ts } name).isSome) :
    (Snapshot.find? { tables := us } name).isSome := by
  rw [Snapshot.find?, List.find?_isSome] at hname ⊢
  obtain ⟨table, htable, heq⟩ := hname
  exact ⟨table, h htable, heq⟩

/-! ### Findings about one table -/

/-- The table that the field's reference names, if it is not found among tables. -/
def Field.missing? (tables : List Table) (field : Field) : Option String :=
  (field.reference.bind (·.table)).filter fun target => (Snapshot.find? { tables } target).isNone

namespace Table

/-- Two fields or more make up the primary key, and all of them are told. -/
def keyFindings (table : Table) : List Finding :=
  let keys := table.fields.filter (·.isPrimary)
  if 2 ≤ keys.length then [.multiplePrimaryKeys table.name (keys.map (·.name))] else []

/-- What is found about a table among tables: its primary keys come first, then the fields, one by
one, that point to a table that is not there. -/
def findingsAmong (tables : List Table) (table : Table) : List Finding :=
  table.keyFindings ++ table.fields.filterMap fun field =>
    (field.missing? tables).map (.danglingReference table.name field.name)

lemma toList_primaryKeyFinding? (table : Table) :
    table.primaryKeyFinding?.toList = table.keyFindings := by
  rw [primaryKeyFinding?, keyFindings, primaryKeys]
  generalize table.fields.filter (·.isPrimary) = keys
  rcases keys with _ | ⟨first, _ | ⟨second, rest⟩⟩ <;> simp

lemma referenceFinding?_eq (tables : List Table) (table : Table) (field : Field) :
    table.referenceFinding? (tables.map fun table => lowered table.name) field =
      (field.missing? tables).map (.danglingReference table.name field.name) := by
  rw [referenceFinding?, Field.missing?, Field.target?]
  cases field.reference.bind (·.table) with
  | none => rfl
  | some target =>
    simp only [contains_lowered_eq]
    cases hfind : Snapshot.find? { tables } target <;> simp [Option.filter, hfind]

end Table

/-- Findings stand table by table. -/
lemma integrityFindings_eq (tables : List Table) :
    integrityFindings tables = tables.flatMap (Table.findingsAmong tables) := by
  rw [integrityFindings]
  apply List.flatMap_congr
  intro table _
  rw [Table.integrityFindings, Table.findingsAmong, Table.toList_primaryKeyFinding?]
  simp only [Table.referenceFinding?_eq]

/-! ### More tables -/

section Subset

variable {ts us : List Table}

/-- What a field misses among more tables it misses among fewer. -/
lemma Field.missing?_of_subset (h : ts ⊆ us) {field : Field} {target : String}
    (hmissing : field.missing? us = some target) : field.missing? ts = some target := by
  rw [missing?, Option.filter_eq_some_iff] at hmissing ⊢
  obtain ⟨htarget, hnone⟩ := hmissing
  refine ⟨htarget, ?_⟩
  rw [Option.isNone_iff_eq_none, ← Option.not_isSome_iff_eq_none] at hnone ⊢
  intro hsome
  exact hnone (isSome_find?_of_subset h hsome)

/-- Elements that are left out by one map and kept by another. -/
lemma filterMap_sublist_filterMap {α β : Type} {f g : α → Option β}
    (h : ∀ a b, f a = some b → g a = some b) (l : List α) :
    (l.filterMap f).Sublist (l.filterMap g) := by
  induction l with
  | nil => simp
  | cons a l ih =>
    cases hf : f a with
    | some b => simp [hf, h a b hf, ih]
    | none =>
      cases hg : g a with
      | some b => simpa [hf, hg] using ih.cons b
      | none => simpa [hf, hg] using ih

/-- No table gets a finding from tables that are added. -/
lemma Table.findingsAmong_sublist (h : ts ⊆ us) (table : Table) :
    (table.findingsAmong us).Sublist (table.findingsAmong ts) := by
  apply List.Sublist.append (.refl _)
  apply filterMap_sublist_filterMap
  intro field finding hfinding
  obtain ⟨target, hmissing, rfl⟩ := Option.map_eq_some_iff.mp hfinding
  rw [Field.missing?_of_subset h hmissing, Option.map_some]

lemma Table.findingsAmong_congr (h : ts ⊆ us) (h' : us ⊆ ts) (table : Table) :
    table.findingsAmong us = table.findingsAmong ts :=
  (table.findingsAmong_sublist h).antisymm (table.findingsAmong_sublist h')

lemma flatMap_sublist_flatMap {α β : Type} {f g : α → List β} (h : ∀ a, (f a).Sublist (g a))
    {l m : List α} (hlm : l.Sublist m) : (l.flatMap f).Sublist (m.flatMap g) := by
  induction hlm with
  | slnil => simp
  | cons a _ ih =>
    rw [List.flatMap_cons]
    exact ih.trans (List.sublist_append_right _ _)
  | cons_cons a _ ih =>
    rw [List.flatMap_cons, List.flatMap_cons]
    exact (h a).append ih

end Subset

/-! ### All tables -/

/-- What is found about tables is found table by table, in their order: all primary keys where
there are two or more, then each field that points to a table that cannot be looked up, and nothing
else. Whatever tables are added before, between or behind them, a field misses nothing that it did
not miss, so what is found about the tables from before is part of what was found. In another order
of the tables each of them has its findings. -/
theorem integrityFindings_by_table :
    (∀ tables : List Table,
      integrityFindings tables = tables.flatMap (Table.findingsAmong tables)) ∧
    (∀ ts us : List Table, ts.Sublist us →
      (∀ (field : Field) (target : String),
        field.missing? us = some target → field.missing? ts = some target) ∧
      (ts.flatMap (Table.findingsAmong us)).Sublist (integrityFindings us) ∧
      (ts.flatMap (Table.findingsAmong us)).Sublist (integrityFindings ts)) ∧
    ∀ ts us : List Table, ts.Perm us →
      integrityFindings us = us.flatMap (Table.findingsAmong ts) ∧
      (integrityFindings ts).Perm (integrityFindings us) := by
  refine ⟨integrityFindings_eq, ?_, ?_⟩
  · intro ts us h
    refine ⟨?_, ?_, ?_⟩
    · intro field target hmissing
      exact Field.missing?_of_subset h.subset hmissing
    · rw [integrityFindings_eq]
      exact flatMap_sublist_flatMap (fun table => .refl _) h
    · rw [integrityFindings_eq]
      exact flatMap_sublist_flatMap (Table.findingsAmong_sublist h.subset) (.refl ts)
  · intro ts us h
    have hsame : Table.findingsAmong us = Table.findingsAmong ts := by
      funext table
      exact table.findingsAmong_congr h.subset h.symm.subset
    constructor
    · rw [integrityFindings_eq, hsame]
    · rw [integrityFindings_eq, integrityFindings_eq, hsame]
      exact h.flatMap_right _

/-- A table with two primary keys and a field that points to another table. -/
def invoices : Table where
  name := "invoices"
  fields := [
    { name := "id", type := .number, isPrimary := true,
      validation := .translate .number false none none none },
    { name := "code", type := .string, isPrimary := true,
      validation := .translate .string false none none none },
    { name := "payee_id", type := .reference, isForeign := true,
      reference := some { table := some "payees" },
      validation := .translate .reference true none none none }]

/-- The table that it points to, in capitals. -/
def payees : Table := { name := "PAYEES", fields := [] }

/-- Alone, the table has its two keys and the other table that is not there told; beside that table
only its keys are. -/
theorem integrityFindings_by_table_invoices :
    integrityFindings [invoices] =
      [.multiplePrimaryKeys "invoices" ["id", "code"],
        .danglingReference "invoices" "payee_id" "payees"] ∧
    [invoices].Sublist [payees, invoices] ∧
    integrityFindings [payees, invoices] = [.multiplePrimaryKeys "invoices" ["id", "code"]] ∧
    ([invoices].flatMap (Table.findingsAmong [payees, invoices])).Sublist
      (integrityFindings [invoices]) ∧
    [invoices, payees].Perm [payees, invoices] ∧
    (integrityFindings [invoices, payees]).Perm (integrityFindings [payees, invoices]) := by
  have hsublist : [invoices].Sublist [payees, invoices] := by decide
  have hperm : [invoices, payees].Perm [payees, invoices] := by decide
  have hpayees : invoices.findingsAmong [invoices] =
      [.multiplePrimaryKeys "invoices" ["id", "code"],
        .danglingReference "invoices" "payee_id" "payees"] := by decide +kernel
  have hkeys : [payees, invoices].flatMap (Table.findingsAmong [payees, invoices]) =
      [.multiplePrimaryKeys "invoices" ["id", "code"]] := by decide +kernel
  obtain ⟨hfound, hmore, horder⟩ := integrityFindings_by_table
  refine ⟨(hfound _).trans ?_, hsublist, (hfound _).trans hkeys, (hmore _ _ hsublist).2.2, hperm,
    (horder _ _ hperm).2⟩
  rw [List.flatMap_singleton, hpayees]

end DataDictionary
