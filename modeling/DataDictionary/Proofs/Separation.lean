import DataDictionary.Proofs.Assembly
import DataDictionary.Proofs.Sheet
import Mathlib.Logic.Function.Basic

/-!
# Sheets apart

What a sheet contributes depends on no sheet before or behind it. So an extraction may be cut
between any two sheets, a selection of sheets gives the tables that the full run has from them, and
a sheet that is edited changes no table but its own. Only the integrity of the tables is looked at
over all of them, behind everything else.
-/

namespace DataDictionary

namespace Extraction

/-! ### Tables of single sheets -/

/-- The tables that come in with the sheet at a place, in a run over sheets from the first. -/
def tablesAt (options : Options) (sheets : List Sheet) (place : Nat) : List Table :=
  (assemble options (sheets.take (place + 1))).tables.drop
    (assemble options (sheets.take place)).tables.length

lemma tablesAt_eq (options : Options) (sheets : List Sheet) (place : Nat) :
    tablesAt options sheets place =
      sheets[place]?.toList.flatMap fun sheet => (ofSheet options.layout sheet).tables := by
  rw [tablesAt, List.take_add_one, tables_assemble, tables_assemble, List.flatMap_append,
    List.drop_left]

/-- Sheets at any places give the tables that come in with them in the full run. -/
lemma tables_assemble_filterMap (options : Options) (sheets : List Sheet) (places : List Nat) :
    (assemble options (places.filterMap (sheets[·]?))).tables =
      places.flatMap (tablesAt options sheets) := by
  induction places with
  | nil => rw [tables_assemble, List.filterMap_nil, List.flatMap_nil, List.flatMap_nil]
  | cons place places ih =>
    rw [List.flatMap_cons, ← ih, tablesAt_eq, tables_assemble, tables_assemble,
      List.filterMap_cons]
    cases sheets[place]? with
    | none => rfl
    | some sheet => simp

lemma filterMap_range (sheets : List Sheet) :
    (List.range sheets.length).filterMap (sheets[·]?) = sheets := by
  have hplaces := Sheet.filterMap_places sheets (fun _ => true) (fun _ => true) fun _ _ _ => rfl
  rwa [List.filter_true, List.filter_true] at hplaces

/-- An edited sheet changes what comes in at its own place, and nothing else. -/
lemma tablesAt_set (options : Options) (sheets : List Sheet) (place : Nat) (edited : Sheet) :
    tablesAt options (sheets.set place edited) =
      Function.update (tablesAt options sheets) place
        (if place < sheets.length then (assemble options [edited]).tables else []) := by
  funext other
  rw [Function.update_apply, tablesAt_eq, List.getElem?_set]
  by_cases h : place = other
  · subst h
    rw [if_pos rfl, if_pos rfl, tables_assemble]
    split <;> rfl
  · rw [if_neg h, if_neg (Ne.symm h), tablesAt_eq]

/-! ### Runs over sheets -/

/-- No sheet counts for what another contributes. Extractions may be put together from parts; the
full run is made up of what comes in with each sheet, which is also what any selection of the
sheets gives, and stays as it is where another sheet is edited. -/
theorem assemble_separates (options : Options) :
    (∀ a b : List Sheet,
      (assemble options (a ++ b)).tables =
        (assemble options a).tables ++ (assemble options b).tables ∧
      (assemble { options with checkIntegrity := false } (a ++ b)).findings =
        (assemble { options with checkIntegrity := false } a).findings ++
          (assemble { options with checkIntegrity := false } b).findings ∧
      (assemble { options with checkIntegrity := true } (a ++ b)).findings =
        (assemble { options with checkIntegrity := false } a).findings ++
          (assemble { options with checkIntegrity := false } b).findings ++
          integrityFindings (assemble { options with checkIntegrity := true } (a ++ b)).tables) ∧
    ∀ sheets : List Sheet,
      (assemble options sheets).tables =
        (List.range sheets.length).flatMap (tablesAt options sheets) ∧
      (∀ places : List Nat, (assemble options (places.filterMap (sheets[·]?))).tables =
        places.flatMap (tablesAt options sheets)) ∧
      ∀ (place : Nat) (edited : Sheet), tablesAt options (sheets.set place edited) =
        Function.update (tablesAt options sheets) place
          (if place < sheets.length then (assemble options [edited]).tables else []) := by
  constructor
  · intro a b
    refine ⟨?_, ?_, ?_⟩
    · rw [tables_assemble, tables_assemble, tables_assemble, List.flatMap_append]
    · simp only [findings_assemble, List.flatMap_append, Bool.false_eq_true, if_false,
        List.append_nil]
    · simp only [findings_assemble, List.flatMap_append, Bool.false_eq_true, if_false, if_true,
        List.append_nil]
  · intro sheets
    refine ⟨?_, tables_assemble_filterMap options sheets, tablesAt_set options sheets⟩
    rw [← tables_assemble_filterMap, filterMap_range]

end Extraction

end DataDictionary
