import DataDictionary.Json.Decode
import DataDictionary.Proofs.Json.Document
import Mathlib.Data.List.Nodup

/-!
# Structures that are read back

A structure is written as the entries that are present, in the order of its keys. As no two keys
are the same, each entry is found under its own key, and what is absent is not found.
-/

namespace DataDictionary.Json

/-- The members of an object whose values may be absent. -/
def present (entries : List (String × Option Json)) : List (String × Json) :=
  entries.flatMap fun entry => optionalMember entry.1 id entry.2

lemma optionalMember_eq {α : Type} (key : String) (write : α → Json) (value : Option α) :
    optionalMember key write value = optionalMember key id (value.map write) := by
  cases value <;> rfl

lemma present_cons (key : String) (value : Option Json) (entries : List (String × Option Json)) :
    present ((key, value) :: entries) = optionalMember key id value ++ present entries := rfl

lemma map_fst_present_sublist (entries : List (String × Option Json)) :
    ((present entries).map Prod.fst).Sublist (entries.map Prod.fst) := by
  induction entries with
  | nil => exact List.Sublist.slnil
  | cons entry entries ih =>
    obtain ⟨key, value⟩ := entry
    rw [present_cons]
    cases value with
    | none => exact ih.cons key
    | some value => exact ih.cons_cons key

lemma mem_present {key : String} {value : Json} {entries : List (String × Option Json)} :
    (key, value) ∈ present entries ↔ (key, some value) ∈ entries := by
  induction entries with
  | nil => simp [present]
  | cons entry entries ih =>
    obtain ⟨other, value'⟩ := entry
    rw [present_cons, List.mem_append, ih]
    cases value' <;> simp [optionalMember]

/-! ### Keys -/

lemma occurrences_le_one {members : List (String × Json)} (h : (members.map Prod.fst).Nodup)
    (key : String) : occurrences key members ≤ 1 := by
  have hcount : occurrences key members = (members.map Prod.fst).count key := by
    rw [occurrences, List.count, List.countP_map, List.countP_eq_length_filter]
    rfl
  rw [hcount]
  exact List.nodup_iff_count_le_one.mp h key

variable {entries : List (String × Option Json)}

lemma fields?_present (h : (entries.map Prod.fst).Nodup) (keys : List String) :
    fields? keys (.object (present entries)) = some (present entries) := by
  have hkeys : keys.all fun key => occurrences key (present entries) ≤ 1 := by
    rw [List.all_eq_true]
    intro key _
    exact decide_eq_true (occurrences_le_one (h.sublist (map_fst_present_sublist entries)) key)
  rw [fields?, if_pos hkeys]

lemma lookup_present_of_notMem {key : String} (h : key ∉ entries.map Prod.fst) :
    (present entries).lookup key = none := by
  rw [List.lookup_eq_none_iff]
  intro member hmember
  have hkey := (map_fst_present_sublist entries).subset (List.mem_map_of_mem hmember)
  rw [bne_iff_ne]
  rintro rfl
  exact h hkey

/-- An entry is found under its key. -/
lemma lookup_present (h : (entries.map Prod.fst).Nodup) {key : String} {value : Option Json}
    (hentry : (key, value) ∈ entries) : (present entries).lookup key = value := by
  induction entries with
  | nil => cases hentry
  | cons entry entries ih =>
    obtain ⟨other, value'⟩ := entry
    rw [List.map_cons, List.nodup_cons] at h
    rw [present_cons]
    rcases List.mem_cons.mp hentry with heq | hmem
    · obtain ⟨rfl, rfl⟩ := Prod.mk.inj heq
      cases value with
      | none => exact lookup_present_of_notMem h.1
      | some value => simp [optionalMember]
    · have hne : (key == other) = false := by
        rw [beq_eq_false_iff_ne]
        rintro rfl
        exact h.1 (List.mem_map.mpr ⟨(key, value), hmem, rfl⟩)
      cases value' with
      | none => exact ih h.2 hmem
      | some value' =>
        rw [optionalMember, List.singleton_append, List.lookup_cons, hne]
        exact ih h.2 hmem

/-! ### Values under their keys -/

variable {α : Type} (read : Json → Option α) {key : String}

lemma required?_present (h : (entries.map Prod.fst).Nodup) {json : Json}
    (hentry : (key, some json) ∈ entries) : required? read (present entries) key = read json := by
  rw [required?, lookup_present h hentry]
  rfl

lemma withDefault?_present (h : (entries.map Prod.fst).Nodup) {json : Json} (default : α)
    (hentry : (key, some json) ∈ entries) :
    withDefault? default read (present entries) key = read json := by
  rw [withDefault?, lookup_present h hentry]

lemma nullable?_of_ne_null {json : Json} (h : json ≠ .null) :
    nullable? read json = (read json).map some := by
  cases json with
  | null => exact absurd rfl h
  | _ => rfl

lemma optional?_present (h : (entries.map Prod.fst).Nodup) {write : α → Json} {value : Option α}
    (hentry : (key, value.map write) ∈ entries) (hnull : ∀ a, write a ≠ .null)
    (hread : ∀ a ∈ value, read (write a) = some a) :
    optional? read (present entries) key = some value := by
  rw [optional?, withDefault?, lookup_present h hentry]
  cases value with
  | none => rfl
  | some a =>
    simp only [Option.map_some]
    rw [nullable?_of_ne_null read (hnull a), hread a rfl]
    rfl

variable {read} in
lemma list?_map {write : α → Json} {items : List α}
    (h : ∀ item ∈ items, read (write item) = some item) :
    list? read (.array (items.map write)) = some items := by
  rw [list?]
  induction items with
  | nil => rfl
  | cons item items ih =>
    rw [List.forall_mem_cons] at h
    rw [List.map_cons, List.mapM_cons, h.1, ih h.2]
    rfl

lemma strings?_ofStrings (texts : List String) : strings? (ofStrings texts) = some texts :=
  list?_map fun _ _ => rfl

lemma number?_ofBinary64 {x : Binary64} (h : x.isFinite = true) :
    number? (ofBinary64 x) = some x := by
  simp [number?, ofBinary64, Number.value, h]

/-! ### Readable structures -/

lemma Readable.present (h : ∀ entry ∈ entries, ∀ json ∈ entry.2, Readable json) :
    Readable (.object (present entries)) := by
  refine .object fun member hmember => ?_
  exact h (member.1, some member.2) (mem_present.mp hmember) member.2 rfl

lemma readable_of_mem_some {value : Json} (h : Readable value) :
    ∀ json ∈ some value, Readable json := by
  intro json hjson
  obtain rfl : value = json := by simpa using hjson
  exact h

lemma readable_of_mem_map {write : α → Json} {value : Option α}
    (h : ∀ a ∈ value, Readable (write a)) : ∀ json ∈ value.map write, Readable json := by
  intro json hjson
  obtain ⟨a, ha, rfl⟩ := Option.map_eq_some_iff.mp hjson
  exact h a ha

lemma Readable.map {write : α → Json} {items : List α} (h : ∀ item ∈ items, Readable (write item)) :
    Readable (.array (items.map write)) := by
  refine .array fun json hjson => ?_
  obtain ⟨item, hitem, rfl⟩ := List.mem_map.mp hjson
  exact h item hitem

lemma Readable.ofStrings (texts : List String) : Readable (ofStrings texts) :=
  .map fun text _ => .string text

end DataDictionary.Json
