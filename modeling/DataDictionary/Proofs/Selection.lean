import DataDictionary.Selection
import Mathlib.Tactic.Lemma

/-!
# What a selection takes

A selection takes the first of the items whose names it accepts, as many as its limit allows. The
readers of workbooks go through their items one by one and stop where the limit is reached.
-/

namespace DataDictionary.Selection

variable {α : Type} (selection : Selection)

/-- As many items of a list as the limit leaves, behind `count` that were taken. -/
def within (count : Nat) (items : List α) : List α :=
  match selection.limit with
  | some limit => items.take (limit - count)
  | none => items

/-- The first of the items whose names are accepted, as many as the limit allows. -/
def choose (name : α → String) (items : List α) : List α :=
  selection.within 0 (items.filter fun item => selection.accepts (name item))

/-- A name is accepted if it matches one of the patterns, and any name is where there are none. -/
lemma accepts_iff {name : String} :
    selection.accepts name = true ↔
      ∀ patterns, selection.patterns = some patterns → ∃ p ∈ patterns, p.accepts name = true := by
  cases h : selection.patterns with
  | none => simp [accepts, h]
  | some patterns => simp [accepts, h]

@[simp] lemma within_nil (count : Nat) : selection.within count ([] : List α) = [] := by
  cases h : selection.limit <;> simp [within, h]

variable {selection} {count : Nat}

lemma within_of_isFull (h : selection.isFull count = true) (items : List α) :
    selection.within count items = [] := by
  cases hlimit : selection.limit with
  | none => simp [isFull, hlimit] at h
  | some limit =>
    have hle : limit - count = 0 := by simpa [isFull, hlimit, Nat.sub_eq_zero_iff_le] using h
    simp [within, hlimit, hle]

lemma within_cons (h : selection.isFull count = false) (item : α) (items : List α) :
    selection.within count (item :: items) = item :: selection.within (count + 1) items := by
  cases hlimit : selection.limit with
  | none => simp [within, hlimit]
  | some limit =>
    have hlt : count < limit := by simpa [isFull, hlimit] using h
    have hsub : limit - count = limit - (count + 1) + 1 := by omega
    simp [within, hlimit, hsub]

lemma within_sublist (count : Nat) (items : List α) :
    (selection.within count items).Sublist items := by
  rw [within]
  split
  · exact List.take_sublist _ _
  · exact List.Sublist.refl _

/-- Nothing is chosen but items. -/
lemma choose_sublist (name : α → String) (items : List α) :
    (selection.choose name items).Sublist items :=
  (within_sublist 0 _).trans List.filter_sublist

end DataDictionary.Selection
