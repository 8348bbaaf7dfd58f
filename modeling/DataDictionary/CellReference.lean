import DataDictionary.Text.LetterCase
import DataDictionary.Text.Whole

/-!
# Cell references

Cells are named by letters for the column and a number for the row, both counted from one: `A1` is
the first cell. Columns are written in bijective base 26, so that `Z` is followed by `AA`.
-/

namespace DataDictionary.CellReference

open Text

def isLetter (c : Char) : Bool := ('a' ≤ c && c ≤ 'z') || ('A' ≤ c && c ≤ 'Z')

def isDigit (c : Char) : Bool := '0' ≤ c && c ≤ '9'

/-- The value of a column letter, `A` being one. -/
def letterValue (c : Char) : Nat := c.toLower.toNat - 96

/-- The number that column letters make behind `value`; `none` for other characters and for
numbers beyond a word. -/
def lettersFrom (value : Nat) : List Char → Option Nat
  | [] => some value
  | c :: rest =>
    if !isLetter c then none
    else
      let value := value * 26 + letterValue c
      if value < wordLimit then lettersFrom value rest else none

/-- The column that letters name, counted from zero. -/
def column? (s : List Char) : Option Nat :=
  if s.isEmpty then none else (lettersFrom 0 s).map (· - 1)

/-- The row that a number names, counted from zero. -/
def row? (s : List Char) : Option Nat :=
  match readCount s with
  | .ok (n + 1) => some n
  | _ => none

/-- The row and column of the cell that a reference names. -/
def read? (s : List Char) : Option (Nat × Nat) :=
  let letters := s.takeWhile (!isDigit ·)
  match s.dropWhile (!isDigit ·) with
  | [] => none
  | digits => do
    let col ← column? letters
    let row ← row? digits
    some (row, col)

/-- The letters of a column number counted from one, put in front of `rest`. -/
def lettersOf (n : Nat) (rest : List Char) : List Char :=
  if h : n = 0 then rest
  else lettersOf ((n - 1) / 26) (Char.ofNat (65 + (n - 1) % 26) :: rest)
termination_by n
decreasing_by omega

def write (row col : Nat) : List Char := lettersOf (col + 1) [] ++ decimal (row + 1)

/-- The reference of a cell, if its row and column are words when counted from one. -/
def write? (row col : Nat) : Option (List Char) := do
  let _ ← next? col
  let _ ← next? row
  some (write row col)

end DataDictionary.CellReference
