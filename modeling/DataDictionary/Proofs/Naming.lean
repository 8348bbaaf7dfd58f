import DataDictionary.Proofs.Assembly
import DataDictionary.Proofs.Snapshot

/-!
# Names of tables

A table is named by a cell of its sheet, or by the sheet, and nothing keeps two sheets from giving
the same name. A snapshot lists the tables in order and finds the first one of a name, in any
letters. So every name of a table is known, but a table is found under it only if no sheet before
its own gives another table of that name.
-/

namespace DataDictionary

namespace Extraction

open Text (lowered)

/-! ### Tables of sheets -/

/-- The table that a sheet defines, unless it has no records. -/
def tableOf? (layout : Layout) (sheet : Sheet) : Option Table :=
  match layout.records sheet with
  | [] => none
  | records =>
    some {
      name := layout.tableName sheet
      fields := (draft (layout.tableName sheet) records).fields }

lemma tables_ofSheet (layout : Layout) (sheet : Sheet) :
    (ofSheet layout sheet).tables = (tableOf? layout sheet).toList := by
  by_cases h : layout.records sheet = []
  · rw [ofSheet_of_nil h, tableOf?, h]
    rfl
  · obtain ⟨record, records, hrecords⟩ := List.exists_cons_of_ne_nil h
    rw [ofSheet_of_ne_nil h, tableOf?, hrecords]
    rfl

lemma tables_eq_filterMap (options : Options) (sheets : List Sheet) :
    (assemble options sheets).tables = sheets.filterMap (tableOf? options.layout) := by
  rw [tables_assemble, List.filterMap_eq_flatMap_toList]
  simp only [tables_ofSheet]

/-! ### The first sheet that gives a name -/

/-- The table comes from the first sheet that gives a table of the name, in any letters. -/
def IsFirstNamed (layout : Layout) (sheets : List Sheet) (name : String) (table : Table) : Prop :=
  ∃ before sheet behind, sheets = before ++ sheet :: behind ∧
    tableOf? layout sheet = some table ∧ lowered table.name = lowered name ∧
    ∀ earlier ∈ before, ∀ other, tableOf? layout earlier = some other →
      lowered other.name ≠ lowered name

lemma find?_eq_some_iff {options : Options} {sheets : List Sheet} {name : String} {table : Table} :
    Snapshot.find? { tables := (assemble options sheets).tables } name = some table ↔
      IsFirstNamed options.layout sheets name table := by
  rw [Snapshot.find?, tables_eq_filterMap, List.find?_eq_some_iff_append]
  simp only [beq_iff_eq, Bool.not_eq_true', beq_eq_false_iff_ne]
  constructor
  · rintro ⟨hname, tables, tables', hsplit, hbefore⟩
    obtain ⟨before, rest, rfl, rfl, hrest⟩ := List.filterMap_eq_append_iff.mp hsplit
    obtain ⟨without, sheet, behind, rfl, hwithout, hsheet, -⟩ :=
      List.filterMap_eq_cons_iff.mp hrest
    refine ⟨before ++ without, sheet, behind, by rw [List.append_assoc], hsheet, hname, ?_⟩
    intro earlier hearlier other hother
    rcases List.mem_append.mp hearlier with h | h
    · exact hbefore other (List.mem_filterMap.mpr ⟨earlier, h, hother⟩)
    · rw [hwithout earlier h] at hother
      cases hother
  · rintro ⟨before, sheet, behind, rfl, hsheet, hname, hbefore⟩
    refine ⟨hname, before.filterMap (tableOf? options.layout),
      behind.filterMap (tableOf? options.layout), ?_, ?_⟩
    · rw [List.filterMap_append, List.filterMap_cons_some hsheet]
    · intro other hother
      obtain ⟨earlier, hearlier, htable⟩ := List.mem_filterMap.mp hother
      exact hbefore earlier hearlier other htable

/-- A table that an earlier sheet gives under a name hides those of later sheets. -/
lemma IsFirstNamed.append {layout : Layout} {sheets : List Sheet} {name : String} {table : Table}
    (h : IsFirstNamed layout sheets name table) (later : List Sheet) :
    IsFirstNamed layout (sheets ++ later) name table := by
  obtain ⟨before, sheet, behind, rfl, hsheet, hname, hbefore⟩ := h
  exact ⟨before, sheet, behind ++ later, by simp, hsheet, hname, hbefore⟩

/-- Where no table is found under a name, no sheet gives one. -/
lemma ne_of_find?_eq_none {options : Options} {sheets : List Sheet} {name : String}
    (h : Snapshot.find? { tables := (assemble options sheets).tables } name = none) :
    ∀ sheet ∈ sheets, ∀ table, tableOf? options.layout sheet = some table →
      lowered table.name ≠ lowered name := by
  intro sheet hsheet table htable heq
  rw [Snapshot.find?, tables_eq_filterMap, List.find?_eq_none] at h
  exact h table (List.mem_filterMap.mpr ⟨sheet, hsheet, htable⟩) (beq_iff_eq.mpr heq)

/-! ### Look-up -/

/-- A table is found under its name just if no sheet before its own gives another one of that name
first. -/
lemma find?_eq_some_self_iff {options : Options} {before behind : List Sheet} {sheet : Sheet}
    {table : Table} (h : tableOf? options.layout sheet = some table) :
    Snapshot.find? { tables := (assemble options (before ++ sheet :: behind)).tables } table.name =
        some table ↔
      ∀ other, IsFirstNamed options.layout before table.name other → other = table := by
  constructor
  · intro hfound other hother
    have hfirst := find?_eq_some_iff.mpr (hother.append (sheet :: behind))
    exact Option.some.inj (hfirst.symm.trans hfound)
  · intro hfirst
    rw [find?_eq_some_iff]
    cases hbefore : Snapshot.find? { tables := (assemble options before).tables } table.name with
    | none => exact ⟨before, sheet, behind, rfl, h, rfl, ne_of_find?_eq_none hbefore⟩
    | some other =>
      have hother := find?_eq_some_iff.mp hbefore
      obtain rfl := hfirst other hother
      exact hother.append (sheet :: behind)

/-- What is found under a name is the first table that has it, in any letters. So some table is
found under the name of every table, and it is the table itself unless a sheet before its own gives
another one of that name; where no two names are alike, every table is found. -/
theorem find?_assemble (options : Options) (sheets : List Sheet) :
    (assemble options sheets).tables = sheets.filterMap (tableOf? options.layout) ∧
    (∀ name table,
      Snapshot.find? { tables := (assemble options sheets).tables } name = some table ↔
        IsFirstNamed options.layout sheets name table) ∧
    (∀ table ∈ (assemble options sheets).tables, ∃ found,
      Snapshot.find? { tables := (assemble options sheets).tables } table.name = some found) ∧
    (∀ before sheet behind table, sheets = before ++ sheet :: behind →
      tableOf? options.layout sheet = some table →
      (Snapshot.find? { tables := (assemble options sheets).tables } table.name = some table ↔
        ∀ other, IsFirstNamed options.layout before table.name other → other = table)) ∧
    (((assemble options sheets).tables.map fun table => lowered table.name).Nodup →
      ∀ table ∈ (assemble options sheets).tables,
        Snapshot.find? { tables := (assemble options sheets).tables } table.name = some table) := by
  refine ⟨tables_eq_filterMap options sheets, fun _ _ => find?_eq_some_iff, ?_, ?_, ?_⟩
  · intro table htable
    rw [← Option.isSome_iff_exists, Snapshot.find?, List.find?_isSome]
    exact ⟨table, htable, beq_self_eq_true _⟩
  · rintro before sheet behind table rfl htable
    exact find?_eq_some_self_iff htable
  · intro hnodup table htable
    exact find?_of_mem hnodup htable

/-- A sheet that names its table. -/
def crm : Sheet := (Sheet.new "tables.ods" "crm").pushAll [
  ⟨0, 1, .text, "Users"⟩, ⟨1, 0, .text, "Column"⟩, ⟨2, 0, .text, "email"⟩]

/-- A sheet that gives another table the same name, in other letters. -/
def shop : Sheet := (Sheet.new "tables.ods" "shop").pushAll [
  ⟨0, 1, .text, "users"⟩, ⟨1, 0, .text, "Column"⟩, ⟨2, 0, .text, "cart"⟩]

/-- A table with one field of text. -/
def plainTable (name column : String) : Table where
  name := name
  fields := [
    { name := column, type := .string, validation := .translate .string false none none none }]

lemma tableOf?_crm : tableOf? {} crm = some (plainTable "Users" "email") := by decide +kernel

lemma tableOf?_shop : tableOf? {} shop = some (plainTable "users" "cart") := by decide +kernel

theorem find?_assemble_crm :
    ([crm, Snapshot.rates] = [] ++ crm :: [Snapshot.rates] ∧
      tableOf? {} crm = some (plainTable "Users" "email") ∧
      Snapshot.find? { tables := (assemble {} [crm, Snapshot.rates]).tables } "Users" =
        some (plainTable "Users" "email")) ∧
    ((assemble {} [crm, Snapshot.rates]).tables.map fun table => lowered table.name).Nodup ∧
      ∀ table ∈ (assemble {} [crm, Snapshot.rates]).tables,
        Snapshot.find? { tables := (assemble {} [crm, Snapshot.rates]).tables } table.name =
          some table := by
  obtain ⟨htables, -, -, hself, hnodup⟩ := find?_assemble {} [crm, Snapshot.rates]
  have hnames :
      ((assemble {} [crm, Snapshot.rates]).tables.map fun table => lowered table.name).Nodup := by
    rw [htables]
    simp only [List.filterMap_cons, tableOf?, Layout.records, Snapshot.headers_rates]
    decide +kernel
  refine ⟨⟨rfl, tableOf?_crm, ?_⟩, hnames, hnodup hnames⟩
  apply (hself [] crm [Snapshot.rates] (plainTable "Users" "email") rfl tableOf?_crm).mpr
  rintro other ⟨before, sheet, behind, hsplit, -⟩
  simp at hsplit

/-- Under the name of its own, the table of a later sheet is hidden: the first table of that name is
found, and its fields are exported. -/
theorem exists_find?_ne :
    ∃ table ∈ (assemble {} [crm, shop]).tables,
      Snapshot.find? { tables := (assemble {} [crm, shop]).tables } table.name ≠ some table ∧
      Snapshot.exportableFields { tables := (assemble {} [crm, shop]).tables } table.name =
        (plainTable "Users" "email").fields := by
  rw [tables_eq_filterMap, List.filterMap_cons, tableOf?_crm, List.filterMap_cons, tableOf?_shop]
  exact ⟨plainTable "users" "cart", by decide +kernel, by decide +kernel, by decide +kernel⟩

end Extraction

end DataDictionary
