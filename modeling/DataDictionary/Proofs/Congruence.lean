import DataDictionary.Proofs.Assembly

/-!
# Sheets that say the same

An extraction looks at a record through the values under its headers alone, and at a sheet through
its name, the name of its table and its records. So sheets that say the same, record by record,
give the same extraction, however they are laid out.
-/

namespace DataDictionary

/-! ### Records that say the same -/

namespace Record

/-- Records with the same values under the same headers, which may be listed in another order. -/
def Agrees (r s : Record) : Prop := ∀ header, r.scalar? header = s.scalar? header

variable {r s : Record}

lemma Agrees.text?_eq (h : r.Agrees s) : r.text? = s.text? := by
  funext header
  rw [text?, h, text?]

lemma Agrees.toField_eq (h : r.Agrees s) : r.toField = s.toField := by
  have htext := h.text?_eq
  have hdefault : r.default? = s.default? := by rw [default?, default?, h]
  have hmarked : r.isMarked = s.isMarked := by
    funext mark
    rw [isMarked, isMarked, htext]
  have hreference : r.reference? = s.reference? := by
    rw [reference?, reference?, hmarked, htext]
  simp only [toField, name, rawType, type?, flag, enumeration, htext, hdefault, hmarked,
    hreference]

lemma Agrees.typeFinding?_eq (h : r.Agrees s) (table : String) :
    r.typeFinding? table = s.typeFinding? table := by
  simp only [typeFinding?, name, rawType, type?, h.text?_eq]

/-- Records of values without repeated headers say the same if the same values stand under the
same headers. -/
lemma agrees_ofValues {row : Nat} {a b : List (String × Scalar)} (ha : (a.map Prod.fst).Nodup)
    (hb : (b.map Prod.fst).Nodup) (h : ∀ entry, entry ∈ a ↔ entry ∈ b) :
    (ofValues row a).Agrees (ofValues row b) := by
  intro header
  have hlookup : a.lookup header = b.lookup header := by
    ext value
    rw [lookup_eq_some_iff_mem ha, lookup_eq_some_iff_mem hb, h]
  rw [scalar?, scalar?, ofValues, ofValues, upsertAll_of_nodup ha, upsertAll_of_nodup hb, hlookup]

end Record

/-! ### Sheets that say the same -/

namespace Layout

/-- Sheets that define their tables alike: they have one name, name one table, and their records
say the same, row by row. -/
structure Agree (layout : Layout) (a b : Sheet) : Prop where
  name_eq : a.name = b.name
  tableName_eq : layout.tableName a = layout.tableName b
  records : List.Forall₂ Record.Agrees (layout.records a) (layout.records b)

end Layout

namespace Extraction

lemma draft_congr (table : String) {rs ss : List Record} (h : List.Forall₂ Record.Agrees rs ss)
    (before : Draft) :
    rs.foldl (Draft.step table) before = ss.foldl (Draft.step table) before := by
  induction h generalizing before with
  | nil => rfl
  | @cons r s rs ss hrecord _ ih =>
    have hstep : Draft.step table before r = Draft.step table before s := by
      simp only [Draft.step, hrecord.toField_eq, hrecord.typeFinding?_eq]
    rw [List.foldl_cons, List.foldl_cons, hstep, ih]

lemma ofSheet_congr {layout : Layout} {a b : Sheet} (h : layout.Agree a b) :
    ofSheet layout a = ofSheet layout b := by
  simp only [ofSheet, addSheet, h.tableName_eq, h.name_eq, draft_congr _ h.records]

/-- Sheets that say the same, one by one, give the same extraction. -/
theorem assemble_congr {options : Options} {as bs : List Sheet}
    (h : List.Forall₂ options.layout.Agree as bs) : assemble options as = assemble options bs := by
  have hparts : as.map (ofSheet options.layout) = bs.map (ofSheet options.layout) := by
    induction h with
    | nil => rfl
    | cons hsheet _ ih => rw [List.map_cons, List.map_cons, ofSheet_congr hsheet, ih]
  have hsheets : ofSheets options.layout as = ofSheets options.layout bs := by
    have hsplit (sheets : List Sheet) : ofSheets options.layout sheets =
        { tables := (sheets.map (ofSheet options.layout)).flatMap (·.tables)
          findings := (sheets.map (ofSheet options.layout)).flatMap (·.findings) } := by
      rw [ofSheets_eq, List.flatMap_map, List.flatMap_map]
    rw [hsplit, hsplit, hparts]
  rw [assemble, assemble, hsheets]

end Extraction

end DataDictionary
