/-!
# Lists without repeated keys

An element with a new key is put behind the others; one whose key is there takes the place of the
element that has it. So keys stand in the order in which they first came, each with its last
element.
-/

namespace DataDictionary

variable {α κ : Type} [DecidableEq κ]

/-- Put an element in the place of the one that has its key, or behind all. -/
def upsert (key : α → κ) (a : α) : List α → List α
  | [] => [a]
  | b :: rest => if key b = key a then a :: rest else b :: upsert key a rest

def upsertAll (key : α → κ) (list : List α) : List α := list.foldl (fun l a => upsert key a l) []

@[simp] theorem upsert_nil (key : α → κ) (a : α) : upsert key a [] = [a] := rfl

/-- The keys stay as they are, but for a new one at the end. -/
theorem map_upsert (key : α → κ) (a : α) (l : List α) :
    (upsert key a l).map key = if key a ∈ l.map key then l.map key else l.map key ++ [key a] := by
  induction l with
  | nil => simp
  | cons b rest ih =>
    by_cases h : key b = key a
    · simp [upsert, h]
    · have h' : key a ≠ key b := fun e => h e.symm
      simp only [upsert, h, if_false, List.map_cons, ih, List.mem_cons, h', false_or]
      split <;> simp

end DataDictionary
