import DataDictionary.Archive
import DataDictionary.Proofs.Text.LetterCase
import DataDictionary.Proofs.Text.Split

/-!
# Parts by their names

A part goes by its name in any ASCII letters and with either mark between the components. Only the
name that is asked for has its backslashes made slashes, so a part that is stored under a name with
backslashes is not found by any name, and the next one that goes by the name is found in its place.
An archive without such names is looked up as it should be.
-/

namespace DataDictionary.Archive

open Text

/-- A name in small letters with slashes between its components. -/
def folded (name : String) : List Char := asciiLower (sought name)

/-- The part goes by the name: the two are the same but for the case of ASCII letters and for the
marks between components. -/
def GoesBy (name : String) (part : Part) : Prop := folded part.name = folded name

instance (name : String) : DecidablePred (GoesBy name) :=
  fun part => inferInstanceAs (Decidable (folded part.name = folded name))

/-- The part is stored under a name without backslashes. -/
def IsSlashed (part : Part) : Prop := '\\' ∉ part.name.toList

instance : DecidablePred IsSlashed :=
  fun part => inferInstanceAs (Decidable ('\\' ∉ part.name.toList))

/-- The first part that goes by the name. -/
def byName? (archive : Archive) (name : String) : Option Part :=
  archive.parts.find? fun part => GoesBy name part

/-! ### Names -/

lemma notMem_sought (name : String) : '\\' ∉ sought name :=
  notMem_replaceChar (by decide) name.toList

/-- The name of a part fits what is sought just if the part goes by the name and is stored without
backslashes. -/
lemma fits_iff {name : String} {part : Part} :
    sameAscii (sought name) part.name.toList = true ↔ GoesBy name part ∧ IsSlashed part := by
  rw [sameAscii, beq_iff_eq, GoesBy, folded, folded]
  constructor
  · intro h
    have hslashed : IsSlashed part := by
      rw [IsSlashed, ← mem_asciiLower_iff (by decide), ← h, mem_asciiLower_iff (by decide)]
      exact notMem_sought name
    rw [sought, replaceChar_of_notMem hslashed]
    exact ⟨h.symm, hslashed⟩
  · rintro ⟨hsame, hslashed⟩
    rw [sought, replaceChar_of_notMem hslashed] at hsame
    exact hsame.symm

/-! ### Parts -/

lemma find?_eq_some_iff {archive : Archive} {name : String} {part : Part} :
    archive.find? name = some part ↔
      (GoesBy name part ∧ IsSlashed part) ∧ ∃ before behind,
        archive.parts = before ++ part :: behind ∧
          ∀ other ∈ before, ¬(GoesBy name other ∧ IsSlashed other) := by
  rw [find?, List.find?_eq_some_iff_append]
  simp only [fits_iff, Bool.not_eq_true', ← Bool.not_eq_true]

/-- The first part that goes by the name is found if it can be. -/
lemma find?_eq_of_byName? {archive : Archive} {name : String} {part : Part}
    (h : archive.byName? name = some part) (hslashed : IsSlashed part) :
    archive.find? name = some part := by
  rw [byName?, List.find?_eq_some_iff_append] at h
  obtain ⟨hname, before, behind, hparts, hbefore⟩ := h
  refine find?_eq_some_iff.mpr
    ⟨⟨of_decide_eq_true hname, hslashed⟩, before, behind, hparts, fun other hother hfits => ?_⟩
  simpa [hfits.1] using hbefore other hother

lemma find?_eq_none {archive : Archive} {name : String} (h : archive.byName? name = none) :
    archive.find? name = none := by
  rw [byName?, List.find?_eq_none] at h
  rw [find?, List.find?_eq_none]
  exact fun part hpart hfits => h part hpart (decide_eq_true (fits_iff.mp hfits).1)

/-- The part that is found is the first one that goes by the name and is stored without backslashes.
It is the first one that goes by the name just if that one is stored without backslashes, or there
is none. -/
theorem find?_eq_byName?_iff (archive : Archive) (name : String) :
    (∀ part, archive.find? name = some part ↔
      (GoesBy name part ∧ IsSlashed part) ∧ ∃ before behind,
        archive.parts = before ++ part :: behind ∧
          ∀ other ∈ before, ¬(GoesBy name other ∧ IsSlashed other)) ∧
    (archive.find? name = archive.byName? name ↔
      ∀ part, archive.byName? name = some part → IsSlashed part) ∧
    ((∀ part ∈ archive.parts, IsSlashed part) → archive.find? name = archive.byName? name) := by
  have hiff : archive.find? name = archive.byName? name ↔
      ∀ part, archive.byName? name = some part → IsSlashed part := by
    constructor
    · intro h part hpart
      exact (find?_eq_some_iff.mp (h.trans hpart)).1.2
    · intro h
      cases hname : archive.byName? name with
      | none => exact find?_eq_none hname
      | some part => exact find?_eq_of_byName? hname (h part hname)
  refine ⟨fun part => find?_eq_some_iff, hiff, fun h => hiff.mpr fun part hpart => ?_⟩
  exact h part (List.mem_of_find?_eq_some hpart)

/-- Two parts that go by one name. -/
def twins : Archive where
  parts := [⟨"xl/Workbook.xml", [65]⟩, ⟨"XL/workbook.XML", [66]⟩]

theorem find?_eq_byName?_twins :
    (∀ part ∈ twins.parts, IsSlashed part) ∧
      twins.find? "xl\\workbook.xml" = twins.byName? "xl\\workbook.xml" ∧
      twins.byName? "xl\\workbook.xml" = some ⟨"xl/Workbook.xml", [65]⟩ := by
  have hslashed : ∀ part ∈ twins.parts, IsSlashed part := by decide
  exact ⟨hslashed, (find?_eq_byName?_iff twins "xl\\workbook.xml").2.2 hslashed, rfl⟩

/-- A part whose name has a backslash goes by its own name, and is not found by it. -/
theorem find?_ne_byName?_backslash :
    Archive.byName? ⟨[⟨"xl\\workbook.xml", [65]⟩]⟩ "xl/workbook.xml" =
        some ⟨"xl\\workbook.xml", [65]⟩ ∧
      Archive.find? ⟨[⟨"xl\\workbook.xml", [65]⟩]⟩ "xl/workbook.xml" = none ∧
      Archive.find? ⟨[⟨"xl\\workbook.xml", [65]⟩]⟩ "xl\\workbook.xml" = none := by
  exact ⟨rfl, rfl, rfl⟩

end DataDictionary.Archive
