/-!
# Ranges of code points

Properties of characters are held as lists of closed ranges, ascending and apart, and maps between
characters as runs in which the distance from each character to its image is the same.
-/

namespace DataDictionary.Text

def inRanges (ranges : List (Nat × Nat)) (n : Nat) : Bool :=
  ranges.any fun range => range.1 ≤ n && n ≤ range.2

/-- A run of code points that map by the same shift: every `step`-th from `first` to `last`. -/
structure ShiftRun where
  first : Nat
  last : Nat
  step : Nat
  shift : Int

def ShiftRun.holds (run : ShiftRun) (n : Nat) : Bool :=
  run.first ≤ n && n ≤ run.last && (n - run.first) % run.step == 0

/-- The image of a character under the first run that holds it. -/
def shifted? (runs : List ShiftRun) (c : Char) : Option Char :=
  (runs.find? (·.holds c.toNat)).map fun run => Char.ofNat ((c.toNat : Int) + run.shift).toNat

end DataDictionary.Text
