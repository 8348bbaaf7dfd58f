import DataDictionary.Extraction.Basic
import DataDictionary.Proofs.Sheet
import DataDictionary.Proofs.Text.Whole
import DataDictionary.Proofs.Upsert
import Mathlib.Data.List.Forall2

/-!
# What sheets contribute

An extraction takes up one sheet after the other, and the records of a sheet one after the other.
Each sheet contributes a part of its own, which its records tell: the names of the fields are those
of the records in the order in which they first come, every field is the one of the last record
with its name, and a record is found fault with for its type and for a name that came before.
-/

namespace DataDictionary

open Text (wordLimit next?_of_lt next?_eq_none_iff)

/-- The finding that a field is defined again. -/
def Finding.isDuplicateField : Finding → Bool
  | .duplicateField _ _ => true
  | _ => false

/-- The finding that a sheet has no record. -/
def Finding.isEmptyTable : Finding → Bool
  | .emptyTable _ => true
  | _ => false

@[simp] lemma Record.name_toField (record : Record) : record.toField.name = record.name := rfl

namespace Extraction

/-! ### The records of a sheet -/

/-- The findings about a record that stands behind others. -/
def recordFindings (table : String) (before : List Record) (record : Record) : List Finding :=
  (if record.type?.isNone then [.unknownType table record.name record.rawType] else []) ++
    if record.name ∈ before.map (·.name) then [.duplicateField table record.name] else []

/-- The findings about the records of a sheet, record by record. -/
def recordsFindings (table : String) (records : List Record) : List Finding :=
  records.zipIdx.flatMap fun p => recordFindings table (records.take p.2) p.1

/-- What is drafted of a table by its records. -/
def draft (table : String) (records : List Record) : Draft :=
  records.foldl (Draft.step table) {}

lemma draft_concat (table : String) (records : List Record) (record : Record) :
    draft table (records ++ [record]) = (draft table records).step table record := by
  simp [draft]

/-- The fields are those of the records, each in the place of one of the same name. -/
lemma fields_draft (table : String) (records : List Record) :
    (draft table records).fields = upsertAll (·.name) (records.map (·.toField)) := by
  induction records using List.reverseRecOn with
  | nil => rfl
  | append_singleton records record ih =>
    rw [draft_concat, List.map_append, List.map_singleton, upsertAll_concat, ← ih]
    rfl

lemma map_name_toField (records : List Record) :
    (records.map (·.toField)).map (·.name) = records.map (·.name) := by
  simp

lemma map_name_fields_draft (table : String) (records : List Record) :
    (draft table records).fields.map (·.name) = (records.map (·.name)).eraseDups := by
  rw [fields_draft, map_upsertAll, map_name_toField]

lemma typeFinding_toList (table : String) (record : Record) :
    (record.typeFinding? table).toList
      = if record.type?.isNone then [.unknownType table record.name record.rawType] else [] := by
  rw [Record.typeFinding?]
  cases record.type? with
  | none => rfl
  | some type => rfl

lemma recordsFindings_concat (table : String) (records : List Record) (record : Record) :
    recordsFindings table (records ++ [record])
      = recordsFindings table records ++ recordFindings table records record := by
  have hbefore : ∀ p ∈ records.zipIdx,
      recordFindings table ((records ++ [record]).take p.2) p.1
        = recordFindings table (records.take p.2) p.1 := by
    intro p hp
    have hi : p.2 ≤ records.length := Nat.le_of_lt (List.snd_lt_of_mem_zipIdx hp)
    rw [List.take_append_of_le_length hi]
  have hlast : (records ++ [record]).take (0 + records.length) = records := by simp
  simp only [recordsFindings, List.zipIdx_append, List.flatMap_append, List.flatMap_congr hbefore,
    List.zipIdx_singleton, List.flatMap_singleton, hlast]

lemma findings_draft (table : String) (records : List Record) :
    (draft table records).findings = recordsFindings table records := by
  induction records using List.reverseRecOn with
  | nil => rfl
  | append_singleton records record ih =>
    have hrepeated : (draft table records).fields.any (·.name == record.name) = true
        ↔ record.name ∈ records.map (·.name) := by
      rw [← List.mem_eraseDups, ← map_name_fields_draft table]
      simp
    rw [draft_concat, recordsFindings_concat, ← ih, recordFindings, ← typeFinding_toList]
    simp only [Draft.step, Record.name_toField, hrepeated, List.append_assoc]

/-! ### Fields and findings of a sheet -/

lemma countP_recordFindings (table : String) (before : List Record) (record : Record) :
    (recordFindings table before record).countP Finding.isDuplicateField
      = if record.name ∈ before.map (·.name) then 1 else 0 := by
  rw [recordFindings, List.countP_append]
  have htype : ∀ p : Bool, (if p then [Finding.unknownType table record.name record.rawType]
      else []).countP Finding.isDuplicateField = 0 := by
    intro p
    cases p <;> rfl
  rw [htype, Nat.zero_add]
  split <;> rfl

/-- A record gives a new field or the finding that its name came before. -/
lemma length_eraseDups_add_countP (table : String) (records : List Record) :
    (records.map (·.name)).eraseDups.length
        + (recordsFindings table records).countP Finding.isDuplicateField
      = records.length := by
  induction records using List.reverseRecOn with
  | nil => rfl
  | append_singleton records record ih =>
    rw [recordsFindings_concat, List.countP_append, countP_recordFindings, List.map_append,
      List.map_singleton, eraseDups_concat, List.length_append, List.length_singleton]
    split
    · omega
    · rw [List.length_append, List.length_singleton]
      omega

lemma countP_isEmptyTable_recordsFindings (table : String) (records : List Record) :
    (recordsFindings table records).countP Finding.isEmptyTable = 0 := by
  rw [List.countP_eq_zero]
  intro finding hfinding
  obtain ⟨p, -, hp⟩ := List.mem_flatMap.mp hfinding
  rw [recordFindings, List.mem_append] at hp
  rcases hp with hp | hp
  · split at hp
    · rw [List.mem_singleton.mp hp]
      exact Bool.false_ne_true
    · exact absurd hp List.not_mem_nil
  · split at hp
    · rw [List.mem_singleton.mp hp]
      exact Bool.false_ne_true
    · exact absurd hp List.not_mem_nil

/-- The fields that records define: one for each name, by the last record that has it. -/
structure FieldsOf (records : List Record) (fields : List Field) : Prop where
  /-- The names, in the order in which they first come. -/
  names_eq : fields.map (·.name) = (records.map (·.name)).eraseDups
  nodup : (fields.map (·.name)).Nodup
  /-- Each field is that of the last record with its name. -/
  last : ∀ field ∈ fields,
    (lastWith? Record.name field.name records).map Record.toField = some field

/-- What a sheet contributes by its records. -/
structure Contributes (layout : Layout) (sheet : Sheet) (part : Extraction) : Prop where
  /-- A sheet without records gives no table, and the one finding that says so. -/
  of_nil : layout.records sheet = [] → part.tables = [] ∧ part.findings = [.emptyTable sheet.name]
  /-- Any other sheet gives one table. -/
  of_ne_nil : layout.records sheet ≠ [] →
    (∃ fields, part.tables = [{ name := layout.tableName sheet, fields }] ∧
      FieldsOf (layout.records sheet) fields) ∧
    part.findings = recordsFindings (layout.tableName sheet) (layout.records sheet)
  /-- Every record gives a field or the finding that its name came before. -/
  fields_add_duplicates : (part.tables.flatMap (·.fields)).length
    + part.findings.countP Finding.isDuplicateField = (layout.records sheet).length
  /-- Every sheet gives a table or the finding that it has none. -/
  tables_add_empty : part.tables.length + part.findings.countP Finding.isEmptyTable = 1

lemma fieldsOf_draft (table : String) (records : List Record) :
    FieldsOf records (draft table records).fields where
  names_eq := map_name_fields_draft table records
  nodup := by
    rw [map_name_fields_draft]
    exact nodup_eraseDups _
  last field hfield := by
    rw [fields_draft] at hfield
    have hfind := find?_of_mem (nodup_map_upsertAll _ _) hfield
    rw [find?_upsertAll] at hfind
    rw [← hfind, lastWith?, lastWith?, ← List.map_reverse, List.find?_map]
    rfl

/-! ### One sheet -/

/-- What a sheet contributes. -/
def ofSheet (layout : Layout) (sheet : Sheet) : Extraction := addSheet layout {} sheet

lemma fields_draft_eq_nil_iff {table : String} {records : List Record} :
    (draft table records).fields = [] ↔ records = [] := by
  rw [← List.map_eq_nil_iff (f := fun field : Field => field.name), map_name_fields_draft]
  cases records with
  | nil => simp
  | cons record records => simp [List.eraseDups_cons]

lemma ofSheet_of_nil {layout : Layout} {sheet : Sheet} (h : layout.records sheet = []) :
    ofSheet layout sheet = { tables := [], findings := [.emptyTable sheet.name] } := by
  simp [ofSheet, addSheet, h]

lemma ofSheet_of_ne_nil {layout : Layout} {sheet : Sheet} (h : layout.records sheet ≠ []) :
    ofSheet layout sheet =
      { tables := [{ name := layout.tableName sheet
                     fields := (draft (layout.tableName sheet) (layout.records sheet)).fields }]
        findings := recordsFindings (layout.tableName sheet) (layout.records sheet) } := by
  have hfields : (draft (layout.tableName sheet) (layout.records sheet)).fields ≠ [] :=
    mt fields_draft_eq_nil_iff.mp h
  rw [← findings_draft]
  simp only [draft, ofSheet, addSheet] at hfields ⊢
  rfl

theorem contributes_ofSheet (layout : Layout) (sheet : Sheet) :
    Contributes layout sheet (ofSheet layout sheet) := by
  by_cases h : layout.records sheet = []
  · rw [ofSheet_of_nil h]
    exact {
      of_nil := fun _ => ⟨rfl, rfl⟩
      of_ne_nil := fun hne => absurd h hne
      fields_add_duplicates := by rw [h]; rfl
      tables_add_empty := rfl }
  · rw [ofSheet_of_ne_nil h]
    exact {
      of_nil := fun hnil => absurd hnil h
      of_ne_nil := fun _ => ⟨⟨_, rfl, fieldsOf_draft _ _⟩, rfl⟩
      fields_add_duplicates := by
        rw [← length_eraseDups_add_countP (layout.tableName sheet),
          ← map_name_fields_draft (layout.tableName sheet)]
        simp
      tables_add_empty := by
        simp [countP_isEmptyTable_recordsFindings] }

/-! ### All sheets -/

/-- What was extracted before a sheet stays as it is, and counts for nothing in what the sheet
contributes. -/
lemma addSheet_eq (layout : Layout) (extraction : Extraction) (sheet : Sheet) :
    addSheet layout extraction sheet =
      { tables := extraction.tables ++ (ofSheet layout sheet).tables
        findings := extraction.findings ++ (ofSheet layout sheet).findings } := by
  simp only [ofSheet, addSheet]
  split <;> simp

/-- The parts of sheets stand one behind the other. -/
theorem ofSheets_eq (layout : Layout) (sheets : List Sheet) :
    ofSheets layout sheets =
      { tables := sheets.flatMap fun sheet => (ofSheet layout sheet).tables
        findings := sheets.flatMap fun sheet => (ofSheet layout sheet).findings } := by
  induction sheets using List.reverseRecOn with
  | nil => rfl
  | append_singleton sheets sheet ih =>
    rw [ofSheets, List.foldl_append, ← ofSheets, ih]
    simp [addSheet_eq]

@[simp] lemma tables_checked (options : Options) (extraction : Extraction) :
    (checked options extraction).tables = extraction.tables := by
  rw [checked]
  split <;> rfl

lemma findings_checked (options : Options) (extraction : Extraction) :
    (checked options extraction).findings = extraction.findings ++
      if options.checkIntegrity then integrityFindings extraction.tables else [] := by
  rw [checked]
  split
  · rfl
  · exact (List.append_nil _).symm

/-- The tables of an extraction are those of its sheets, one behind the other. -/
lemma tables_assemble (options : Options) (sheets : List Sheet) :
    (assemble options sheets).tables =
      sheets.flatMap fun sheet => (ofSheet options.layout sheet).tables := by
  rw [assemble, tables_checked, ofSheets_eq]

/-- Every field that is extracted is the field of a record of some sheet. -/
lemma exists_record_of_mem_fields {options : Options} {sheets : List Sheet} {table : Table}
    {field : Field} (htable : table ∈ (assemble options sheets).tables)
    (hfield : field ∈ table.fields) :
    ∃ sheet ∈ sheets, ∃ record ∈ options.layout.records sheet, field = record.toField := by
  rw [tables_assemble] at htable
  obtain ⟨sheet, hsheet, htable⟩ := List.mem_flatMap.mp htable
  by_cases h : options.layout.records sheet = []
  · rw [ofSheet_of_nil h] at htable
    exact absurd htable List.not_mem_nil
  · rw [ofSheet_of_ne_nil h] at htable
    rw [List.mem_singleton.mp htable, fields_draft] at hfield
    obtain ⟨record, hrecord, rfl⟩ := List.mem_map.mp (mem_of_mem_upsertAll hfield)
    exact ⟨sheet, hsheet, record, hrecord, rfl⟩

/-- The findings of an extraction are those about its sheets, one behind the other, and then those
about the integrity of all tables. -/
lemma findings_assemble (options : Options) (sheets : List Sheet) :
    (assemble options sheets).findings =
      (sheets.flatMap fun sheet => (ofSheet options.layout sheet).findings) ++
        if options.checkIntegrity then integrityFindings (assemble options sheets).tables
        else [] := by
  rw [assemble, tables_checked, findings_checked, ofSheets_eq]

/-! ### Rows behind the headers -/

lemma foldlM_addSheet? {layout : Layout} (h : layout.headerRow + 1 < wordLimit)
    (extraction : Extraction) (sheets : List Sheet) :
    sheets.foldlM (addSheet? layout) extraction = .ok (sheets.foldl (addSheet layout) extraction) := by
  induction sheets generalizing extraction with
  | nil => rfl
  | cons sheet sheets ih =>
    have hsheet : addSheet? layout extraction sheet = .ok (addSheet layout extraction sheet) := by
      rw [addSheet?, next?_of_lt h]
      rfl
    rw [List.foldlM_cons, hsheet, List.foldl_cons, ← ih]
    rfl

/-- Sheets are assembled if there is a row behind the headers, and where there are no sheets. -/
theorem assemble?_eq (options : Options) (sheets : List Sheet) :
    assemble? options sheets =
      if sheets = [] ∨ options.layout.headerRow + 1 < wordLimit then .ok (assemble options sheets)
      else .error .overflow := by
  by_cases h : options.layout.headerRow + 1 < wordLimit
  · rw [if_pos (Or.inr h), assemble?, foldlM_addSheet? h]
    rfl
  · cases sheets with
    | nil => rfl
    | cons sheet sheets =>
      have hsheet : addSheet? options.layout {} sheet = .error .overflow := by
        rw [addSheet?, next?_eq_none_iff.mpr h]
        rfl
      rw [if_neg (by simp [h]), assemble?, List.foldlM_cons, hsheet]
      rfl

/-! ### What sheets contribute -/

lemma countP_isEmptyTable_integrityFindings (tables : List Table) :
    (integrityFindings tables).countP Finding.isEmptyTable = 0 := by
  rw [List.countP_eq_zero]
  intro finding hfinding
  obtain ⟨table, -, htable⟩ := List.mem_flatMap.mp hfinding
  rw [Table.integrityFindings, List.mem_append, Option.mem_toList, List.mem_filterMap] at htable
  rcases htable with hkey | ⟨field, -, hreference⟩
  · rw [Table.primaryKeyFinding?] at hkey
    split at hkey
    · rw [← Option.mem_some_iff.mp hkey]
      exact Bool.false_ne_true
    · exact absurd hkey (by simp)
  · rw [Table.referenceFinding?] at hreference
    split at hreference
    · split at hreference
      · exact absurd hreference (by simp)
      · rw [← Option.some.inj hreference]
        exact Bool.false_ne_true
    · exact absurd hreference (by simp)

lemma tables_add_empty_ofSheets (layout : Layout) (sheets : List Sheet) :
    (ofSheets layout sheets).tables.length
      + (ofSheets layout sheets).findings.countP Finding.isEmptyTable = sheets.length := by
  induction sheets using List.reverseRecOn with
  | nil => rfl
  | append_singleton sheets sheet ih =>
    have hsheet := (contributes_ofSheet layout sheet).tables_add_empty
    rw [ofSheets, List.foldl_append, ← ofSheets, List.foldl_cons, List.foldl_nil, addSheet_eq]
    simp only [List.length_append, List.countP_append, List.length_singleton]
    omega

/-- Every sheet contributes by its own records; the integrity of the tables is looked at behind
all of them. -/
theorem assemble_by_sheet (options : Options) (sheets : List Sheet) :
    ∃ parts : List Extraction,
      List.Forall₂ (Contributes options.layout) sheets parts ∧
      (assemble options sheets).tables = parts.flatMap (·.tables) ∧
      (assemble options sheets).findings = parts.flatMap (·.findings) ++
        (if options.checkIntegrity then integrityFindings (parts.flatMap (·.tables)) else []) ∧
      (assemble options sheets).tables.length
        + (assemble options sheets).findings.countP Finding.isEmptyTable = sheets.length := by
  have hcount := tables_add_empty_ofSheets options.layout sheets
  refine ⟨sheets.map (ofSheet options.layout), ?_, ?_, ?_, ?_⟩
  · rw [List.forall₂_map_right_iff, List.forall₂_same]
    exact fun sheet _ => contributes_ofSheet options.layout sheet
  · rw [List.flatMap_map, tables_assemble]
  · rw [List.flatMap_map, List.flatMap_map, findings_assemble, tables_assemble]
  · rw [assemble, tables_checked, findings_checked]
    split
    · rw [List.countP_append, countP_isEmptyTable_integrityFindings, Nat.add_zero]
      exact hcount
    · rwa [List.append_nil]

/-- A table with a field that is defined again, with a type that is not known. -/
def users : Sheet := (Sheet.new "crm.ods" "crm").pushAll [
  ⟨0, 1, .text, "users"⟩, ⟨1, 0, .text, "Column"⟩, ⟨1, 1, .text, "Type"⟩,
  ⟨2, 0, .text, "id"⟩, ⟨2, 1, .text, "int"⟩, ⟨3, 0, .text, "born"⟩, ⟨3, 1, .text, "Date"⟩,
  ⟨4, 0, .text, "id"⟩, ⟨4, 1, .text, "blob"⟩]

-- The later record gives the field, in the place of the first one; its type is found fault with
-- before its name.
example :
    ((assemble {} [users]).tables.map fun table =>
      (table.name, table.fields.map fun field => (field.name, field.type))) =
        [("users", [("id", .string), ("born", .date)])] ∧
    (assemble {} [users]).findings =
      [.unknownType "users" "id" "blob", .duplicateField "users" "id"] := by
  have hheaders : ({} : Layout).headers users = [(0, "column"), (1, "type")] := by
    rw [Layout.headers, Sheet.row_of_pairwise (by decide +kernel)]
    decide +kernel
  have hrecords : ({} : Layout).records users = [
      ⟨2, [("column", .text "id"), ("type", .text "int")]⟩,
      ⟨3, [("column", .text "born"), ("type", .text "Date")]⟩,
      ⟨4, [("column", .text "id"), ("type", .text "blob")]⟩] := by
    rw [Layout.records, hheaders]
    decide +kernel
  rw [assemble, ofSheets, List.foldl_cons, List.foldl_nil, addSheet]
  simp only [hrecords]
  decide +kernel

end Extraction

end DataDictionary
