import DataDictionary.Text.LowercaseTable

/-!
# Letter case

Two ways of ignoring case: by the ASCII letters alone, and by the full lower-case map of Unicode,
under which `İ` becomes two characters and a sigma at the end of a word takes its final form.
-/

namespace DataDictionary.Text

/-! ### ASCII letters -/

/-- A text with its ASCII capitals made small. -/
def asciiLower (s : List Char) : List Char := s.map Char.toLower

/-- Two texts that differ in the case of ASCII letters only. -/
def sameAscii (s t : List Char) : Bool := asciiLower s == asciiLower t

/-! ### All letters -/

def isCased (c : Char) : Bool := inRanges casedRanges c.toNat

/-- A character that is passed over when the case of a word is looked at. -/
def isCaseIgnorable (c : Char) : Bool := inRanges caseIgnorableRanges c.toNat

/-- The lower-case form of a character that has one of a single character; else the character. -/
def lowerChar (c : Char) : Char := (shifted? lowercaseRuns c).getD c

/-- The first character that is not passed over has a case. -/
def meetsCased (s : List Char) : Bool :=
  match s.dropWhile isCaseIgnorable with
  | c :: _ => isCased c
  | [] => false

/-- Lower-case `rest`, where `before` is what precedes it, nearest character first. -/
def lowerAfter (before : List Char) : List Char → List Char
  | [] => []
  | 'Σ' :: rest =>
    (if meetsCased before && !meetsCased rest then 'ς' else 'σ') :: lowerAfter ('Σ' :: before) rest
  | 'İ' :: rest => 'i' :: '\u0307' :: lowerAfter ('İ' :: before) rest
  | c :: rest => lowerChar c :: lowerAfter (c :: before) rest

def lower (s : List Char) : List Char := lowerAfter [] s

/-- `lower` on a string. -/
def lowered (s : String) : String := String.ofList (lower s.toList)

@[simp] theorem toList_lowered (s : String) : (lowered s).toList = lower s.toList := by
  simp [lowered]

end DataDictionary.Text
