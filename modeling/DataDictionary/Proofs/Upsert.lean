import DataDictionary.Upsert
import Mathlib.Data.List.Induction
import Mathlib.Data.List.Nodup

/-!
# Keys and last elements

What is left of a list whose elements are put one after the other into a list without repeated
keys: its keys in the order in which they first come, each with the last element that has it.
-/

namespace DataDictionary

/-! ### Keys -/

section Keys

variable {κ : Type} [BEq κ] [LawfulBEq κ]

/-- A new element at the end is a new key only if no element before it has its key. -/
lemma eraseDups_concat (ks : List κ) (k : κ) :
    (ks ++ [k]).eraseDups = if k ∈ ks then ks.eraseDups else ks.eraseDups ++ [k] := by
  rw [List.eraseDups_append]
  by_cases h : k ∈ ks
  · simp [h, List.removeAll]
  · simp [h, List.removeAll, List.eraseDups_cons]

lemma nodup_eraseDups (ks : List κ) : ks.eraseDups.Nodup := by
  induction ks using List.reverseRecOn with
  | nil => simp
  | append_singleton ks k ih =>
    rw [eraseDups_concat]
    split
    · exact ih
    · next h =>
      refine List.nodup_append.mpr ⟨ih, List.nodup_singleton k, ?_⟩
      intro a ha b hb hab
      rw [List.mem_singleton.mp hb] at hab
      exact h (hab ▸ List.mem_eraseDups.mp ha)

/-- Where no key is repeated, what is looked up is what is there. -/
lemma lookup_eq_some_iff_mem {β : Type} {l : List (κ × β)}
    (h : (l.map Prod.fst).Nodup) {k : κ} {b : β} : l.lookup k = some b ↔ (k, b) ∈ l := by
  rw [List.lookup_eq_some_iff]
  constructor
  · rintro ⟨before, after, rfl, -⟩
    exact List.mem_append_right _ (List.mem_cons_self ..)
  · intro hmem
    obtain ⟨before, after, rfl⟩ := List.append_of_mem hmem
    refine ⟨before, after, rfl, ?_⟩
    intro p hp
    rw [List.map_append, List.map_cons, List.nodup_append] at h
    have hne := h.2.2 p.1 (List.mem_map_of_mem hp) k (List.mem_cons_self ..)
    exact bne_iff_ne.mpr hne.symm

/-- Where no key is repeated, nothing that is looked up depends on the order. -/
lemma lookup_eq_of_perm {β : Type} {l m : List (κ × β)} (h : l.Perm m)
    (hl : (l.map Prod.fst).Nodup) (k : κ) : l.lookup k = m.lookup k := by
  have hm : (m.map Prod.fst).Nodup := (h.map Prod.fst).nodup_iff.mp hl
  ext b
  rw [lookup_eq_some_iff_mem hl, lookup_eq_some_iff_mem hm, h.mem_iff]

end Keys

/-! ### Last elements -/

variable {α κ : Type} [DecidableEq κ]

/-- The last element of a list that has the given key. -/
def lastWith? (key : α → κ) (k : κ) (l : List α) : Option α :=
  l.reverse.find? fun a => decide (key a = k)

@[simp] lemma lastWith?_nil (key : α → κ) (k : κ) : lastWith? key k ([] : List α) = none := rfl

lemma lastWith?_concat (key : α → κ) (k : κ) (l : List α) (a : α) :
    lastWith? key k (l ++ [a]) = if key a = k then some a else lastWith? key k l := by
  simp only [lastWith?, List.reverse_append, List.reverse_singleton, List.singleton_append,
    List.find?_cons]
  by_cases h : key a = k
  · simp [h]
  · simp [h]

lemma lastWith?_append (key : α → κ) (k : κ) (a b : List α) :
    lastWith? key k (a ++ b) = (lastWith? key k b).or (lastWith? key k a) := by
  simp only [lastWith?, List.reverse_append, List.find?_append]

/-- Elements that are made of their keys. -/
lemma lastWith?_map {key : α → κ} {f : κ → α} (hf : ∀ k, key (f k) = k) (k : κ) (ks : List κ) :
    lastWith? key k (ks.map f) = if k ∈ ks then some (f k) else none := by
  induction ks using List.reverseRecOn with
  | nil => rfl
  | append_singleton ks last ih =>
    rw [List.map_append, List.map_singleton, lastWith?_concat, hf, ih]
    by_cases h : last = k
    · subst h
      simp
    · simp [h, Ne.symm h]

/-! ### Lists without repeated keys -/

@[simp] lemma upsertAll_nil (key : α → κ) : upsertAll key ([] : List α) = [] := rfl

lemma upsertAll_concat (key : α → κ) (l : List α) (a : α) :
    upsertAll key (l ++ [a]) = upsert key a (upsertAll key l) := by
  simp [upsertAll]

/-- The keys are those of the list in the order in which they first come. -/
theorem map_upsertAll [BEq κ] [LawfulBEq κ] (key : α → κ) (l : List α) :
    (upsertAll key l).map key = (l.map key).eraseDups := by
  induction l using List.reverseRecOn with
  | nil => simp
  | append_singleton l a ih =>
    rw [upsertAll_concat, map_upsert, ih, List.map_append, List.map_singleton, eraseDups_concat]
    simp only [List.mem_eraseDups]

lemma nodup_map_upsertAll (key : α → κ) (l : List α) : ((upsertAll key l).map key).Nodup := by
  rw [map_upsertAll]
  exact nodup_eraseDups _

lemma upsert_of_notMem {key : α → κ} {a : α} {l : List α} (h : key a ∉ l.map key) :
    upsert key a l = l ++ [a] := by
  induction l with
  | nil => rfl
  | cons b rest ih =>
    obtain ⟨hb, hrest⟩ := not_or.mp (mt List.mem_cons.mpr h)
    simp only [upsert, if_neg (Ne.symm hb), ih hrest, List.cons_append]

lemma upsertAll_of_nodup {key : α → κ} {l : List α} (h : (l.map key).Nodup) :
    upsertAll key l = l := by
  induction l using List.reverseRecOn with
  | nil => rfl
  | append_singleton l a ih =>
    rw [List.map_append, List.map_singleton, ← List.concat_eq_append, List.nodup_concat] at h
    rw [upsertAll_concat, ih h.2, upsert_of_notMem h.1]

/-- An element takes the place of the one that has its key. -/
lemma upsert_of_getElem? {key : α → κ} {a b : α} {l : List α} (h : (l.map key).Nodup) {i : Nat}
    (hi : l[i]? = some b) (hb : key b = key a) : upsert key a l = l.set i a := by
  induction l generalizing i with
  | nil => simp at hi
  | cons c rest ih =>
    obtain ⟨hc, hrest⟩ := List.nodup_cons.mp h
    cases i with
    | zero =>
      obtain rfl : c = b := by simpa using hi
      simp [upsert, hb]
    | succ i =>
      have hi' : rest[i]? = some b := by simpa using hi
      have hca : key c ≠ key a := by
        intro e
        exact hc (e.trans hb.symm ▸ List.mem_map_of_mem (List.mem_of_getElem? hi'))
      simp only [upsert, if_neg hca, ih hrest hi', List.set_cons_succ]

lemma mem_of_mem_upsert {key : α → κ} {a b : α} {l : List α} (h : b ∈ upsert key a l) :
    b = a ∨ b ∈ l := by
  induction l with
  | nil => exact .inl (List.mem_singleton.mp h)
  | cons c l ih =>
    rw [upsert] at h
    split at h
    · rcases List.mem_cons.mp h with hb | hb
      · exact .inl hb
      · exact .inr (List.mem_cons_of_mem c hb)
    · rcases List.mem_cons.mp h with hb | hb
      · exact .inr (hb ▸ List.mem_cons_self ..)
      · exact (ih hb).imp_right (List.mem_cons_of_mem c)

lemma mem_of_mem_upsertAll {key : α → κ} {a : α} {l : List α} (h : a ∈ upsertAll key l) :
    a ∈ l := by
  induction l using List.reverseRecOn with
  | nil => exact h
  | append_singleton l b ih =>
    rw [upsertAll_concat] at h
    rcases mem_of_mem_upsert h with rfl | h
    · exact List.mem_concat_self
    · exact List.mem_append_left [b] (ih h)

lemma find?_upsert (key : α → κ) (a : α) (l : List α) (k : κ) :
    (upsert key a l).find? (fun b => decide (key b = k))
      = if key a = k then some a else l.find? fun b => decide (key b = k) := by
  induction l with
  | nil => by_cases h : key a = k <;> simp [h]
  | cons b rest ih =>
    by_cases hb : key b = key a
    · by_cases ha : key a = k <;> simp [upsert, hb, ha]
    · by_cases ha : key a = k
      · have hbk : key b ≠ k := fun e => hb (e.trans ha.symm)
        simp [upsert, hbk, ih, ha]
      · simp [upsert, hb, List.find?_cons, ih, ha]

/-- Each key has its last element. -/
theorem find?_upsertAll (key : α → κ) (l : List α) (k : κ) :
    (upsertAll key l).find? (fun a => decide (key a = k)) = lastWith? key k l := by
  induction l using List.reverseRecOn with
  | nil => rfl
  | append_singleton l a ih => rw [upsertAll_concat, find?_upsert, lastWith?_concat, ih]

/-- What is looked up under a key is what came last with it. -/
lemma lookup_upsertAll {β : Type} [BEq κ] [LawfulBEq κ] (l : List (κ × β)) (k : κ) :
    (upsertAll Prod.fst l).lookup k = (lastWith? Prod.fst k l).map Prod.snd := by
  rw [← find?_upsertAll]
  induction upsertAll Prod.fst l with
  | nil => rfl
  | cons p rest ih =>
    obtain ⟨k', b⟩ := p
    by_cases h : k' = k
    · simp [h]
    · simp [List.lookup_cons, beq_eq_false_iff_ne.mpr (Ne.symm h), h, ih]

/-- Where no key is repeated, an element is found by its key. -/
lemma map_find?_of_nodup {key : α → κ} {l : List α} (h : (l.map key).Nodup) :
    (l.map key).map (fun k => l.find? fun a => decide (key a = k)) = l.map some := by
  induction l with
  | nil => rfl
  | cons a l ih =>
    obtain ⟨ha, hl⟩ := List.nodup_cons.mp h
    have htail : ∀ k ∈ l.map key,
        (a :: l).find? (fun b => decide (key b = k)) = l.find? fun b => decide (key b = k) := by
      intro k hk
      have hak : key a ≠ k := fun e => ha (e ▸ hk)
      simp [hak]
    rw [List.map_cons, List.map_cons, List.map_congr_left htail, ih hl]
    simp

lemma find?_of_mem {key : α → κ} {l : List α} (h : (l.map key).Nodup) {a : α} (ha : a ∈ l) :
    l.find? (fun b => decide (key b = key a)) = some a := by
  have hmap := map_find?_of_nodup h
  rw [List.map_map] at hmap
  exact List.map_inj_left.mp hmap a ha

end DataDictionary
