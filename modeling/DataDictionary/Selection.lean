import DataDictionary.Glob

/-!
# Selection of sheets

A selection names the sheets of a workbook that are read: those that match one of its patterns, or
all where it has none, and of these no more than its limit.
-/

namespace DataDictionary

/-- Which sheets of a workbook to read. -/
structure Selection where
  patterns : Option (List Glob.Pattern) := none
  limit : Option Nat := none
deriving DecidableEq, Repr

namespace Selection

/-- A sheet of this name may be read. -/
def accepts (selection : Selection) (name : String) : Bool :=
  match selection.patterns with
  | some patterns => patterns.any (·.accepts name)
  | none => true

/-- No further sheet is read once there are `count`. -/
def isFull (selection : Selection) (count : Nat) : Bool :=
  match selection.limit with
  | some limit => limit ≤ count
  | none => false

end Selection

end DataDictionary
