import DataDictionary.Proofs.Listing
import DataDictionary.Proofs.Text.LetterCase
import DataDictionary.Snapshot.Basic

/-!
# Tables by their names

Listings and snapshots find tables without regard to case: a listing ignores the case of ASCII
letters, a snapshot compares names in lower case. What a listing selects is also found in a
snapshot. The two answer alike about a name unless the table that is found in the snapshot differs
from the name in more than the case of ASCII letters; so they do where all names are ASCII texts.
-/

namespace DataDictionary.Listing

open Text

/-- The first table whose name differs from the given one in the case of ASCII letters only. -/
def first? (tables : List Table) (name : String) : Option Table :=
  tables.find? fun table => sameAscii table.name.toList name.toList

/-! ### Selection -/

lemma first?_eq_some {tables : List Table} {name : String} {table : Table}
    (h : first? tables name = some table) :
    table ∈ tables ∧ sameAscii table.name.toList name.toList = true := by
  rw [first?] at h
  have hname := List.find?_some h
  exact ⟨List.mem_of_find?_eq_some h, hname⟩

/-- A selection begins with the first table that has the name. -/
lemma head?_of_selectTables {file name : String} {tables selected : List Table}
    (h : selectTables file tables (some name) = .ok selected) :
    selected.head? = first? tables name ∧ selected ≠ [] := by
  rw [selectTables] at h
  split at h
  · cases h
  · next hne =>
    obtain rfl := Except.ok.inj h
    exact ⟨List.head?_filter, hne⟩

lemma exists_selectTables_iff {file name : String} {tables : List Table} :
    (∃ selected, selectTables file tables (some name) = .ok selected) ↔
      ∃ table, first? tables name = some table := by
  constructor
  · rintro ⟨selected, h⟩
    obtain ⟨hhead, hne⟩ := head?_of_selectTables h
    exact ⟨selected.head hne, hhead ▸ List.head?_eq_some_head hne⟩
  · rintro ⟨table, h⟩
    obtain ⟨hmem, hname⟩ := first?_eq_some h
    refine ⟨_, selectTables_eq_ok ?_⟩
    intro other hother
    rw [← Option.mem_some_iff.mp hother]
    exact ⟨table, hmem, hname⟩

/-! ### Snapshots -/

/-- A table that a listing selects is not missed in a snapshot. -/
lemma exists_find?_of_first? {tables : List Table} {name : String} {table : Table}
    (h : first? tables name = some table) :
    ∃ found, Snapshot.find? { tables } name = some found := by
  obtain ⟨hmem, hname⟩ := first?_eq_some h
  rw [← Option.isSome_iff_exists, Snapshot.find?, List.find?_isSome]
  exact ⟨table, hmem, beq_iff_eq.mpr (lowered_eq_of_sameAscii hname)⟩

/-- The table that is found in a snapshot is the first that a listing selects, if it is one of
those: no table before it has the name in any letters. -/
lemma first?_eq_of_find? {tables : List Table} {name : String} {found : Table}
    (h : Snapshot.find? { tables } name = some found)
    (hname : sameAscii found.name.toList name.toList = true) : first? tables name = some found := by
  obtain ⟨-, before, rest, rfl, hbefore⟩ := List.find?_eq_some_iff_append.mp h
  refine List.find?_eq_some_iff_append.mpr ⟨hname, before, rest, rfl, ?_⟩
  intro table htable
  have hne := hbefore table htable
  rw [Bool.not_eq_true', beq_eq_false_iff_ne] at hne
  rw [Bool.not_eq_true', ← Bool.not_eq_true]
  exact fun hsame => hne (lowered_eq_of_sameAscii hsame)

/-! ### Agreement -/

/-- Listing and snapshot answer alike about a name: tables are selected just if one is found, and
the first of them is the one that is found. -/
structure LookUpsAgree (file : String) (tables : List Table) (name : String) : Prop where
  found_iff : (∃ selected, selectTables file tables (some name) = .ok selected) ↔
    ∃ found, Snapshot.find? { tables } name = some found
  head?_eq : ∀ selected, selectTables file tables (some name) = .ok selected →
    selected.head? = Snapshot.find? { tables } name

lemma lookUpsAgree_iff_first? {file name : String} {tables : List Table} :
    LookUpsAgree file tables name ↔ first? tables name = Snapshot.find? { tables } name := by
  constructor
  · rintro ⟨hfound, hhead⟩
    cases hfirst : first? tables name with
    | some table =>
      obtain ⟨selected, hselected⟩ := exists_selectTables_iff.mpr ⟨table, hfirst⟩
      rw [← hfirst, ← (head?_of_selectTables hselected).1, hhead selected hselected]
    | none =>
      rw [exists_selectTables_iff, hfirst] at hfound
      cases hsnapshot : Snapshot.find? { tables } name with
      | none => rfl
      | some found =>
        obtain ⟨_, hnone⟩ := hfound.mpr ⟨found, hsnapshot⟩
        cases hnone
  · intro h
    constructor
    · rw [exists_selectTables_iff, h]
    · intro selected hselected
      rw [(head?_of_selectTables hselected).1, h]

/-- Whatever tables there are: a snapshot finds a table where a listing selects some. They agree
about a name just if the table that the snapshot finds differs from it in the case of ASCII letters
only, which it does where no name has other letters. -/
theorem lookUpsAgree_iff (file : String) (tables : List Table) (name : String) :
    (∀ selected, selectTables file tables (some name) = .ok selected →
      ∃ found, Snapshot.find? { tables } name = some found) ∧
    (LookUpsAgree file tables name ↔
      ∀ found, Snapshot.find? { tables } name = some found →
        sameAscii found.name.toList name.toList = true) ∧
    (IsAscii name.toList → (∀ table ∈ tables, IsAscii table.name.toList) →
      LookUpsAgree file tables name) := by
  have hiff : LookUpsAgree file tables name ↔
      ∀ found, Snapshot.find? { tables } name = some found →
        sameAscii found.name.toList name.toList = true := by
    rw [lookUpsAgree_iff_first?]
    constructor
    · intro h found hfound
      exact (first?_eq_some (h.trans hfound)).2
    · intro h
      cases hsnapshot : Snapshot.find? { tables } name with
      | some found => exact first?_eq_of_find? hsnapshot (h found hsnapshot)
      | none =>
        cases hfirst : first? tables name with
        | none => rfl
        | some table =>
          obtain ⟨found, hfound⟩ := exists_find?_of_first? hfirst
          rw [hsnapshot] at hfound
          cases hfound
  refine ⟨?_, hiff, ?_⟩
  · intro selected hselected
    obtain ⟨table, hfirst⟩ := exists_selectTables_iff.mp ⟨selected, hselected⟩
    exact exists_find?_of_first? hfirst
  · intro hname htables
    rw [hiff]
    intro found hfound
    have hlowered := List.find?_some hfound
    exact sameAscii_of_lowered_eq (htables found (List.mem_of_find?_eq_some hfound)) hname
      (eq_of_beq hlowered)

/-- A table whose name begins with a letter outside ASCII. -/
def payments : Table where
  name := "Ödeme"
  fields := [
    { name := "amount", type := .number, validation := .translate .number false none none none }]

theorem lookUpsAgree_customers :
    IsAscii "CUSTOMERS".toList ∧ (∀ table ∈ [customers], IsAscii table.name.toList) ∧
      LookUpsAgree "shop.xlsx" [customers] "CUSTOMERS" := by
  have hname : IsAscii "CUSTOMERS".toList := by decide
  have htables : ∀ table ∈ [customers], IsAscii table.name.toList := by decide
  exact ⟨hname, htables, (lookUpsAgree_iff "shop.xlsx" [customers] "CUSTOMERS").2.2 hname htables⟩

/-- Where the names differ in the case of another letter, a snapshot may find a table and a listing
none, or each of them another one. -/
theorem not_lookUpsAgree_payments :
    ¬ LookUpsAgree "shop.xlsx" [payments] "ödeme" ∧
      ¬ LookUpsAgree "shop.xlsx" [payments, { payments with name := "ödeme" }] "ödeme" := by
  constructor
  · rw [lookUpsAgree_iff_first?]
    decide +kernel
  · rw [lookUpsAgree_iff_first?]
    decide +kernel

end DataDictionary.Listing
