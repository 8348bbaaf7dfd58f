import DataDictionary.Text.Ranges

/-!
# Blank characters

The white space of Unicode, and the removal of it at the ends of a text. Every "trimmed" text of
the project is trimmed by `trim`.
-/

namespace DataDictionary.Text

/-- The property White_Space, as closed ranges of code points. -/
def blankRanges : List (Nat × Nat) := [
  (0x09, 0x0D), (0x20, 0x20), (0x85, 0x85), (0xA0, 0xA0), (0x1680, 0x1680), (0x2000, 0x200A),
  (0x2028, 0x2029), (0x202F, 0x202F), (0x205F, 0x205F), (0x3000, 0x3000)]

def isBlank (c : Char) : Bool := inRanges blankRanges c.toNat

def trimStart (s : List Char) : List Char := s.dropWhile isBlank

def trimEnd (s : List Char) : List Char := (s.reverse.dropWhile isBlank).reverse

def trim (s : List Char) : List Char := trimEnd (trimStart s)

/-- `trim` on a string. -/
def trimmed (s : String) : String := String.ofList (trim s.toList)

@[simp] theorem trim_nil : trim [] = [] := rfl

@[simp] theorem toList_trimmed (s : String) : (trimmed s).toList = trim s.toList := by
  simp [trimmed]

end DataDictionary.Text
